import CasefileHub.Proofs.Binary64.Rounding
/-!
# Integers of 53 significant bits

An integer becomes a binary64 number by being rounded to 53 significant bits, ties to an even
significand. It stays as it is up to 2 ^ 53, and moves by half of its last place at most:

    (ofInt n).scaled = scaledInt (roundInt n)                              (scaled_ofInt_eq)
    2 * |roundInt n - n| ≤ lastPlace |n|, and ties are even                   (roundInt_nearest)
    |n| ≤ 2 ^ 53 → roundInt n = n                                       (roundInt_of_natAbs_le)
-/

namespace CasefileHub.Binary64

/-! ## Quotients -/

theorem roundDiv_mul_right {c : Nat} (hc : 0 < c) (n d : Nat) :
    roundDiv (n * c) (d * c) = roundDiv n d := by
  have hlt (a b : Nat) : a * c < b * c ↔ a < b := Nat.mul_lt_mul_right hc
  unfold roundDiv
  simp only [Nat.mul_div_mul_right _ _ hc, Nat.mul_mod_mul_right, ← Nat.mul_assoc, hlt]

theorem roundDiv_of_multiple {d : Nat} (hd : 0 < d) (c : Nat) : roundDiv (c * d) d = c :=
  Nat.le_antisymm (roundDiv_le hd (Nat.le_refl _)) (le_roundDiv hd (Nat.le_refl _))

/-- A rounded quotient is nearest, and even where two are. -/
theorem roundDiv_nearest {n d : Nat} (hd : 0 < d) :
    2 * n ≤ 2 * (roundDiv n d * d) + d ∧ 2 * (roundDiv n d * d) ≤ 2 * n + d ∧
      (2 * n = 2 * (roundDiv n d * d) + d ∨ 2 * (roundDiv n d * d) = 2 * n + d →
        roundDiv n d % 2 = 0) := by
  have hdiv : n / d * d + n % d = n := by rw [Nat.mul_comm, Nat.div_add_mod]
  have hrest : n % d < d := Nat.mod_lt n hd
  have hnext : (n / d + 1) * d = n / d * d + d := by ring
  unfold roundDiv
  simp only
  split
  · omega
  · split
    · rw [hnext]
      omega
    · rcases Nat.mod_two_eq_zero_or_one (n / d) with heven | hodd
      · rw [heven, Nat.add_zero]
        omega
      · rw [hodd, hnext]
        omega

/-! ## Magnitudes -/

theorem rounded_of_multiple {n c : Nat} (h : n = c * lastPlace n) : rounded n = n := by
  have hpos := lastPlace_pos n
  unfold rounded
  generalize lastPlace n = d at *
  rw [h, roundDiv_of_multiple hpos]

theorem log2_le_of_lt {n : Nat} (h : n < 2 ^ 53) : n.log2 ≤ 52 := by
  by_cases hn : n = 0
  · subst hn
    decide
  · exact Nat.le_of_lt_succ ((Nat.log2_lt hn).2 h)

/-- A magnitude of 53 bits is not rounded, nor is the next one. -/
theorem rounded_of_le {n : Nat} (h : n ≤ 2 ^ 53) : rounded n = n := by
  rcases Nat.lt_or_eq_of_le h with hlt | rfl
  · have hplace : lastPlace n = 1 := by
      rw [lastPlace, Nat.sub_eq_zero_of_le (log2_le_of_lt hlt), Nat.pow_zero]
    exact rounded_of_multiple (c := n) (by rw [hplace, Nat.mul_one])
  · exact rounded_of_multiple (c := 2 ^ 52) (by rw [lastPlace, Nat.log2_two_pow]; decide)

/-- A magnitude of more bits keeps at least 53 of them. -/
theorem le_rounded_of_le {n : Nat} (h : 2 ^ 53 ≤ n) : 2 ^ 53 ≤ rounded n := by
  have hlog : 52 ≤ n.log2 := (Nat.le_log2 (by omega)).2 (Nat.le_trans (by decide) h)
  have hleast : (⟨false, 2 ^ 52, 1, by decide⟩ : Binary64).magnitude = 2 ^ 53 := by decide
  rw [← hleast] at h ⊢
  exact le_rounded hlog h

/-- Rounding to significant bits does not see where the binary point is. -/
theorem rounded_mul_pow {k : Nat} (hk : k ≠ 0) {e : Nat} (he : 52 ≤ e) :
    rounded (k * 2 ^ e) = rounded k * 2 ^ e := by
  have hpos : 0 < 2 ^ e := Nat.two_pow_pos e
  by_cases hbits : 52 ≤ k.log2
  · have hplace : lastPlace (k * 2 ^ e) = lastPlace k * 2 ^ e := by
      rw [lastPlace, lastPlace, log2_mul_pow hk, ← Nat.pow_add]
      congr 1
      omega
    rw [rounded, hplace, roundDiv_mul_right hpos, ← Nat.mul_assoc, rounded]
  · -- with fewer bits, nothing stands below the last place
    have hfew : k ≤ 2 ^ 53 := by
      have hlt : k < 2 ^ (k.log2 + 1) := Nat.lt_log2_self
      have hle : 2 ^ (k.log2 + 1) ≤ 2 ^ 53 := Nat.pow_le_pow_right (by decide) (by omega)
      omega
    have hmultiple : k * 2 ^ e = k * 2 ^ (52 - k.log2) * lastPlace (k * 2 ^ e) := by
      rw [lastPlace, log2_mul_pow hk, Nat.mul_assoc, ← Nat.pow_add]
      congr 2
      omega
    rw [rounded_of_multiple hmultiple, rounded_of_le hfew]

/-! ## Integers -/

/-- An integer rounded to 53 significant bits, ties to an even significand. -/
def roundInt (n : Int) : Int := n.sign * rounded n.natAbs

theorem scaledInt_lt_iff {m n : Int} : scaledInt m < scaledInt n ↔ m < n := by
  unfold scaledInt
  exact Int.mul_lt_mul_right (Int.natCast_pos.2 unit_pos)

theorem scaledInt_le_iff {m n : Int} : scaledInt m ≤ scaledInt n ↔ m ≤ n := by
  unfold scaledInt
  exact Int.mul_le_mul_right (Int.natCast_pos.2 unit_pos)

theorem roundInt_eq (n : Int) :
    roundInt n = if n < 0 then -(rounded n.natAbs : Int) else rounded n.natAbs := by
  unfold roundInt
  split
  · rename_i hlt
    rw [Int.sign_eq_neg_one_of_neg hlt, Int.neg_one_mul]
  · by_cases hzero : n = 0
    · subst hzero
      rfl
    · rw [Int.sign_eq_one_of_pos (by omega), Int.one_mul]

/-- The binary64 number that an integer is rounded to is an integer of 53 significant bits. -/
theorem scaled_ofInt_eq {n : Int} (hn : n.natAbs < 2 ^ 64) :
    (ofInt n).scaled = scaledInt (roundInt n) := by
  by_cases hne : n = 0
  · subst hne
    exact scaled_ofInt_zero.trans (Int.zero_mul _).symm
  · obtain ⟨e, hunit, he⟩ := unit_eq
    have hrounded : rounded (n.natAbs * unit) = rounded n.natAbs * unit := by
      rw [hunit]
      exact rounded_mul_pow (by omega) (by omega)
    rw [scaled_ofInt hne hn, hrounded, scaledInt, roundInt_eq, Nat.cast_mul]
    split
    · rw [Int.neg_mul]
    · rfl

theorem roundInt_of_natAbs_le {n : Int} (h : n.natAbs ≤ 2 ^ 53) : roundInt n = n := by
  rw [roundInt, rounded_of_le h, Int.sign_mul_natAbs]

theorem natAbs_roundInt (n : Int) : (roundInt n).natAbs = rounded n.natAbs := by
  rw [roundInt_eq]
  split <;> omega

theorem natAbs_roundInt_sub (n : Int) :
    (roundInt n - n).natAbs = ((rounded n.natAbs : Int) - n.natAbs).natAbs := by
  rw [roundInt_eq]
  split <;> omega

theorem le_mul_lastPlace (n : Nat) : n ≤ 2 ^ 53 * lastPlace n := by
  by_cases hbits : 52 ≤ n.log2
  · exact Nat.le_of_lt (lt_leading hbits)
  · have hlt : n < 2 ^ (n.log2 + 1) := Nat.lt_log2_self
    calc n ≤ 2 ^ (n.log2 + 1) := Nat.le_of_lt hlt
      _ ≤ 2 ^ 53 := Nat.pow_le_pow_right (by decide) (by omega)
      _ ≤ 2 ^ 53 * lastPlace n := Nat.le_mul_of_pos_right _ (lastPlace_pos n)

/-- An integer is rounded to the nearest one of 53 significant bits, and a tie to an even one. -/
theorem roundInt_nearest (n : Int) :
    2 * (roundInt n - n).natAbs ≤ lastPlace n.natAbs ∧
      ∃ m, (roundInt n).natAbs = m * lastPlace n.natAbs ∧ m ≤ 2 ^ 53 ∧
        (2 * (roundInt n - n).natAbs = lastPlace n.natAbs → m % 2 = 0) := by
  have hpos := lastPlace_pos n.natAbs
  obtain ⟨hlow, hhigh, htie⟩ := roundDiv_nearest (n := n.natAbs) hpos
  have hmost : roundDiv n.natAbs (lastPlace n.natAbs) ≤ 2 ^ 53 :=
    roundDiv_le hpos (le_mul_lastPlace _)
  rw [natAbs_roundInt_sub, natAbs_roundInt]
  have hrounded : rounded n.natAbs =
      roundDiv n.natAbs (lastPlace n.natAbs) * lastPlace n.natAbs := rfl
  rw [← hrounded] at hlow hhigh htie
  refine ⟨by omega, _, hrounded, hmost, fun h => htie ?_⟩
  omega

/-- Halfway between 2 ^ 53 and 2 ^ 53 + 2, of which the first has the even significand. -/
example : roundInt 9007199254740993 = 9007199254740992 := by decide +kernel

/-! ## Integers among binary64 numbers -/

section
variable {n b : Int} (hn : n.natAbs < 2 ^ 64) {x : Binary64} (hx : x.scaled = scaledInt b)
include hn hx

theorem roundInt_le (h : n ≤ b) : roundInt n ≤ b := by
  have hrounded : (ofInt n).scaled ≤ x.scaled := ofInt_le hn (by rwa [hx, scaledInt_le_iff])
  rwa [hx, scaled_ofInt_eq hn, scaledInt_le_iff] at hrounded

theorem le_roundInt (h : b ≤ n) : b ≤ roundInt n := by
  have hrounded : x.scaled ≤ (ofInt n).scaled := le_ofInt hn (by rwa [hx, scaledInt_le_iff])
  rwa [hx, scaled_ofInt_eq hn, scaledInt_le_iff] at hrounded

end

end CasefileHub.Binary64
