import Mathlib.Tactic.Ring
import CasefileHub.Binary64
/-!
# Rounding keeps the order

An integer is rounded to the nearest binary64 number. Rounding does not carry it across a binary64
number: what is at or below one stays there, and what is at or above one does too.

    c * d ≤ n → c ≤ roundDiv n d,   n ≤ c * d → roundDiv n d ≤ c        (le_roundDiv, roundDiv_le)
    n ≤ b → ofInt n ≤ b,            b ≤ n → b ≤ ofInt n                 (ofInt_le, le_ofInt)
    ofInt n < b ↔ n < b and n does not round to b                       (ofInt_lt_iff, lt_ofInt_iff)

Integers have at most 64 bits here, so that they round to finite numbers.
-/

namespace CasefileHub.Binary64

/-! ## Rounded quotients -/

theorem le_roundDiv {c n d : Nat} (hd : 0 < d) (h : c * d ≤ n) : c ≤ roundDiv n d := by
  have hq : c ≤ n / d := (Nat.le_div_iff_mul_le hd).2 h
  unfold roundDiv
  simp only
  split
  · exact hq
  · split <;> omega

theorem roundDiv_le {c n d : Nat} (hd : 0 < d) (h : n ≤ c * d) : roundDiv n d ≤ c := by
  have hdiv : d * (n / d) + n % d = n := Nat.div_add_mod n d
  have hq : n / d ≤ c := Nat.div_le_of_le_mul (by rwa [Nat.mul_comm] at h)
  unfold roundDiv
  simp only
  by_cases hc : n / d = c
  · -- nothing is left over that could be rounded up
    have hrest : n % d = 0 := by
      rw [hc, Nat.mul_comm] at hdiv
      omega
    rw [if_pos (by omega)]
    exact hq
  · split
    · exact hq
    · split <;> omega

/-! ## Rounded magnitudes -/

/-- The last binary place of a magnitude that is rounded to 53 bits. -/
def lastPlace (n : Nat) : Nat := 2 ^ (n.log2 - 52)

/-- A magnitude rounded to a multiple of its last binary place. -/
def rounded (n : Nat) : Nat := roundDiv n (lastPlace n) * lastPlace n

theorem lastPlace_pos (n : Nat) : 0 < lastPlace n := Nat.two_pow_pos _

/-- A binary64 number either has no bits below the last place, or is below the leading bit. -/
theorem multiple_or_lt (n : Nat) (b : Binary64) :
    (∃ c, b.magnitude = c * lastPlace n) ∨ b.magnitude < 2 ^ 52 * lastPlace n := by
  unfold lastPlace
  by_cases hk : n.log2 - 52 ≤ b.shift
  · left
    refine ⟨b.significand * 2 ^ (b.shift - (n.log2 - 52)), ?_⟩
    rw [Nat.mul_assoc, ← Nat.pow_add, Nat.sub_add_cancel hk]
    rfl
  · right
    have hsig : b.significand < 2 ^ 53 := b.canonical.1
    calc b.magnitude = b.significand * 2 ^ b.shift := rfl
      _ < 2 ^ 53 * 2 ^ b.shift := Nat.mul_lt_mul_of_pos_right hsig (Nat.two_pow_pos _)
      _ = 2 ^ 52 * 2 ^ (b.shift + 1) := by ring
      _ ≤ 2 ^ 52 * 2 ^ (n.log2 - 52) :=
        Nat.mul_le_mul_left _ (Nat.pow_le_pow_right (by decide) (by omega))

section
variable {n : Nat} (hn : 52 ≤ n.log2)
include hn

/-- The leading bit is the 53rd place from the last. -/
theorem leading_le : 2 ^ 52 * lastPlace n ≤ n := by
  have hne : n ≠ 0 := by
    rintro rfl
    simp at hn
  unfold lastPlace
  rw [← Nat.pow_add, Nat.add_sub_cancel' hn]
  exact Nat.log2_self_le hne

theorem lt_leading : n < 2 ^ 53 * lastPlace n := by
  unfold lastPlace
  rw [← Nat.pow_add, show 53 + (n.log2 - 52) = n.log2 + 1 by omega]
  exact Nat.lt_log2_self

/-- A magnitude of 53 bits or more is rounded, if that does not carry it beyond all numbers. -/
theorem exists_ofUnits (negative : Bool) (hfinite : n.log2 ≤ 2096) :
    ∃ x, ofUnits? negative n 1 = some x ∧ x.negative = negative ∧ x.magnitude = rounded n := by
  have hleast : 2 ^ 52 ≤ roundDiv n (lastPlace n) := le_roundDiv (lastPlace_pos n) (leading_le hn)
  have hmost : roundDiv n (lastPlace n) ≤ 2 ^ 53 :=
    roundDiv_le (lastPlace_pos n) (Nat.le_of_lt (lt_leading hn))
  have hround : ofUnits? negative n 1 =
      ofRounded? negative (roundDiv n (lastPlace n)) (n.log2 - 52) := by
    simp only [ofUnits?, shiftFor, Nat.div_one, Nat.one_mul]
    rfl
  unfold rounded
  rw [hround]
  generalize roundDiv n (lastPlace n) = r at *
  unfold ofRounded?
  by_cases hr : r < 2 ^ 53
  · rw [dif_pos ⟨hr, by omega, fun hlt => absurd hlt (Nat.not_lt.2 hleast)⟩]
    exact ⟨_, rfl, rfl, rfl⟩
  · -- the significand has become one bit longer
    have htop : r = 2 ^ 53 := by omega
    rw [dif_neg fun h => hr h.1, dif_pos (by omega)]
    refine ⟨_, rfl, rfl, ?_⟩
    show 2 ^ 52 * 2 ^ (n.log2 - 52 + 1) = r * lastPlace n
    rw [htop, lastPlace]
    ring

theorem rounded_le {b : Binary64} (h : n ≤ b.magnitude) : rounded n ≤ b.magnitude := by
  rcases multiple_or_lt n b with ⟨c, hc⟩ | hlt
  · rw [hc] at h ⊢
    exact Nat.mul_le_mul_right _ (roundDiv_le (lastPlace_pos n) h)
  · have hleading := leading_le hn
    omega

theorem le_rounded {b : Binary64} (h : b.magnitude ≤ n) : b.magnitude ≤ rounded n := by
  rcases multiple_or_lt n b with ⟨c, hc⟩ | hlt
  · rw [hc] at h ⊢
    exact Nat.mul_le_mul_right _ (le_roundDiv (lastPlace_pos n) h)
  · have hleast : 2 ^ 52 * lastPlace n ≤ rounded n :=
      Nat.mul_le_mul_right _ (le_roundDiv (lastPlace_pos n) (leading_le hn))
    omega

end

/-! ## Rounded integers -/

theorem unit_eq : ∃ e, unit = Nat.pow 2 e ∧ e = 1074 := by
  unfold unit
  exact ⟨_, rfl, rfl⟩

theorem unit_pos : 0 < unit := by
  obtain ⟨e, hunit, -⟩ := unit_eq
  rw [hunit]
  exact Nat.two_pow_pos e

theorem log2_mul_pow {k : Nat} (hk : k ≠ 0) (e : Nat) : (k * 2 ^ e).log2 = k.log2 + e := by
  obtain ⟨hlow, hhigh⟩ := (Nat.log2_eq_iff hk).1 rfl
  have hpos : 0 < 2 ^ e := Nat.two_pow_pos e
  refine (Nat.log2_eq_iff (Nat.mul_ne_zero hk (Nat.ne_of_gt hpos))).2 ⟨?_, ?_⟩
  · rw [Nat.pow_add]
    exact Nat.mul_le_mul_right _ hlow
  · rw [Nat.add_right_comm, Nat.pow_add]
    exact Nat.mul_lt_mul_of_pos_right hhigh hpos

theorem log2_mul_unit {k : Nat} (hpos : 0 < k) (hk : k < 2 ^ 64) :
    52 ≤ (k * unit).log2 ∧ (k * unit).log2 ≤ 2096 := by
  obtain ⟨e, hunit, he⟩ := unit_eq
  have hlt : k.log2 < 64 := (Nat.log2_lt (Nat.ne_of_gt hpos)).2 hk
  rw [hunit, Nat.pow_eq, log2_mul_pow (Nat.ne_of_gt hpos)]
  omega

/-- An integer in units of 2 ^ -1074. -/
def scaledInt (n : Int) : Int := n * unit

theorem scaledInt_eq (n : Int) :
    scaledInt n = if n < 0 then -((n.natAbs * unit : Nat) : Int) else (n.natAbs * unit : Nat) := by
  rw [scaledInt, Nat.cast_mul]
  split
  · rw [← Int.neg_mul]
    congr 1
    omega
  · congr 1
    omega

/-- An integer other than zero is rounded by its magnitude. -/
theorem scaled_ofInt {n : Int} (hne : n ≠ 0) (hn : n.natAbs < 2 ^ 64) :
    (ofInt n).scaled =
      if n < 0 then -(rounded (n.natAbs * unit) : Int) else rounded (n.natAbs * unit) := by
  obtain ⟨hlow, hhigh⟩ := log2_mul_unit (by omega) hn
  obtain ⟨x, hx, hnegative, hmagnitude⟩ := exists_ofUnits hlow (decide (n < 0)) hhigh
  have hofInt : ofInt n = x := by
    unfold ofInt ofRatio?
    rw [hx, Option.getD_some]
  rw [hofInt, scaled, hnegative, hmagnitude]
  simp only [decide_eq_true_eq]

theorem scaled_ofInt_zero : (ofInt 0).scaled = 0 := by decide +kernel

theorem scaled_neg (x : Binary64) : x.neg.scaled = -x.scaled := by
  unfold scaled neg magnitude
  cases x.negative <;> simp

theorem scaled_ofInt_neg {n : Int} (hn : n.natAbs < 2 ^ 64) :
    (ofInt (-n)).scaled = -(ofInt n).scaled := by
  by_cases hne : n = 0
  · rw [hne, Int.neg_zero, scaled_ofInt_zero, Int.neg_zero]
  · rw [scaled_ofInt hne hn, scaled_ofInt (by omega) (by rwa [Int.natAbs_neg]), Int.natAbs_neg]
    by_cases hlt : n < 0
    · rw [if_pos hlt, if_neg (by omega), Int.neg_neg]
    · rw [if_neg hlt, if_pos (by omega)]

section
variable {n : Int} (hn : n.natAbs < 2 ^ 64) {b : Binary64}
include hn

/-- An integer at or below a binary64 number is not rounded beyond it. -/
theorem ofInt_le (h : scaledInt n ≤ b.scaled) : (ofInt n).scaled ≤ b.scaled := by
  by_cases hne : n = 0
  · subst hne
    rwa [scaled_ofInt_zero, ← Int.zero_mul (unit : Int)]
  · obtain ⟨hlow, -⟩ := log2_mul_unit (by omega) hn
    have hup := (Nat.lt_or_ge b.magnitude (n.natAbs * unit)).imp_right (rounded_le hlow)
    have hdown := (Nat.lt_or_ge (n.natAbs * unit) b.magnitude).imp_right (le_rounded hlow)
    have hpos : 0 < n.natAbs * unit := Nat.mul_pos (by omega) unit_pos
    rw [scaled_ofInt hne hn]
    rw [scaledInt_eq] at h
    unfold scaled at h ⊢
    generalize n.natAbs * unit = magnitude at *
    -- the rounded magnitude is compared where both have one sign
    by_cases hsign : n < 0 <;> cases hb : b.negative <;>
      simp only [hsign, hb, Bool.false_eq_true, if_true, if_false] at h ⊢ <;> omega

/-- An integer at or above a binary64 number is not rounded below it. -/
theorem le_ofInt (h : b.scaled ≤ scaledInt n) : b.scaled ≤ (ofInt n).scaled := by
  have hneg : (ofInt (-n)).scaled ≤ b.neg.scaled := by
    apply ofInt_le (by rwa [Int.natAbs_neg])
    rw [scaled_neg, scaledInt, Int.neg_mul]
    exact Int.neg_le_neg h
  rw [scaled_ofInt_neg hn, scaled_neg] at hneg
  omega

/-- A rounded integer is below a binary64 number if the integer is, and does not round to it. -/
theorem ofInt_lt_iff :
    (ofInt n).scaled < b.scaled ↔ scaledInt n < b.scaled ∧ (ofInt n).scaled ≠ b.scaled := by
  constructor
  · intro hlt
    refine ⟨?_, by omega⟩
    by_contra hge
    have := le_ofInt hn (b := b) (by omega)
    omega
  · rintro ⟨hlt, hne⟩
    have := ofInt_le hn (b := b) (by omega)
    omega

/-- A rounded integer is above a binary64 number if the integer is, and does not round to it. -/
theorem lt_ofInt_iff :
    b.scaled < (ofInt n).scaled ↔ b.scaled < scaledInt n ∧ (ofInt n).scaled ≠ b.scaled := by
  constructor
  · intro hlt
    refine ⟨?_, by omega⟩
    by_contra hge
    have := ofInt_le hn (b := b) (by omega)
    omega
  · rintro ⟨hlt, hne⟩
    have := le_ofInt hn (b := b) (by omega)
    omega

end

end CasefileHub.Binary64
