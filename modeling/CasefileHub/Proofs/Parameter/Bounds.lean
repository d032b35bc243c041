import CasefileHub.Proofs.Binary64.Nearest
import CasefileHub.Proofs.Parameter.Conformance
/-!
# Bounds of integers

An integer is compared with the bounds of its specification after it has been rounded to 53
significant bits. Where the bounds are integers too, this never reports an integer that lies between
them, and lets one pass that lies beyond a bound exactly if it is rounded onto that bound. It is
then beyond the bound by half of its last place at most, and neither is below 2 ^ 53 in magnitude:

    a bound is reported ↔ the rounded integer is beyond it      (belowMinimum_iff, aboveMaximum_iff)
    an integer that passes is between the bounds ↔ it is not rounded onto one of them
                                                                     (between_iff_not_roundedOnto)
-/

namespace CasefileHub

namespace ParameterSpec

/-- A bound is this integer. -/
def IsInteger (b : Bound) (a : Int) : Prop :=
  ∃ x, b = .finite x ∧ x.scaled = Binary64.scaledInt a

/-- The bounds of a specification are these integers, as far as there are any. -/
structure BoundedBy (s : ParameterSpec) (low high : Option Int) : Prop where
  min : Option.Rel IsInteger s.minValue low
  max : Option.Rel IsInteger s.maxValue high

/-- An integer lies between two bounds, as far as there are any. -/
structure Between (low high : Option Int) (n : Int) : Prop where
  low : ∀ a, low = some a → a ≤ n
  high : ∀ b, high = some b → n ≤ b

/-- An integer lies beyond a bound, but is rounded onto it. -/
def RoundedOnto (low high : Option Int) (n : Int) : Prop :=
  (∃ a, low = some a ∧ n < a ∧ Binary64.roundInt n = a) ∨
    ∃ b, high = some b ∧ b < n ∧ Binary64.roundInt n = b

variable {s : ParameterSpec} {low high : Option Int} {n : Int}

/-! ## What is reported -/

section
variable [PatternEngine]

theorem mem_check_iff {v : Json} {r : Reason} : ⟨s.name, r⟩ ∈ s.check v ↔ r ∈ s.reasons v := by
  simp [check]

end

theorem isAbove_ofInt_iff {b : Bound} {a : Int} (h : IsInteger b a) (hn : n.natAbs < 2 ^ 64) :
    b.isAbove (Binary64.ofInt n) = true ↔ Binary64.roundInt n < a := by
  obtain ⟨x, rfl, hx⟩ := h
  rw [Bound.isAbove, Binary64.lt, decide_eq_true_eq, hx, Binary64.scaled_ofInt_eq hn,
    Binary64.scaledInt_lt_iff]

theorem isBelow_ofInt_iff {b : Bound} {a : Int} (h : IsInteger b a) (hn : n.natAbs < 2 ^ 64) :
    b.isBelow (Binary64.ofInt n) = true ↔ a < Binary64.roundInt n := by
  obtain ⟨x, rfl, hx⟩ := h
  rw [Bound.isBelow, Binary64.lt, decide_eq_true_eq, hx, Binary64.scaled_ofInt_eq hn,
    Binary64.scaledInt_lt_iff]

/-- What holds of a bound holds of the integer that it is. -/
theorem exists_bound_iff {bound : Option Bound} {integer : Option Int} {P : Bound → Prop}
    {Q : Int → Prop} (h : Option.Rel IsInteger bound integer)
    (hiff : ∀ b a, IsInteger b a → (P b ↔ Q a)) :
    (∃ b, bound = some b ∧ P b) ↔ ∃ a, integer = some a ∧ Q a := by
  cases h with
  | some h => simp [hiff _ _ h]
  | none => simp

section
variable [PatternEngine] (htype : HasType s.type (.num (.int n))) (hn : IsWord n = true)
include htype hn

/-- Of an integer of the right type nothing but breaches is reported. -/
theorem mem_reasons_iff_breach {r : Reason} :
    r ∈ s.reasons (.num (.int n)) ↔ Breach s (.num (.int n)) r := by
  rw [mem_reasons_iff (by simp) (by rintro m ⟨rfl⟩; exact hn)]
  constructor
  · intro hfault
    cases hfault with
    | type _ hno => exact absurd htype hno
    | breach _ _ hbreach => exact hbreach
  · exact .breach (by simp) htype

theorem belowMinimum_mem_iff {min : Bound} :
    .belowMinimum min ∈ s.reasons (.num (.int n)) ↔
      s.minValue = some min ∧ min.isAbove (Binary64.ofInt n) = true := by
  have hfound : min.isAbove (Binary64.ofInt n) = true ↔ _ := Bound.isAbove_iff (n := .int n) hn min
  rw [mem_reasons_iff_breach htype hn, hfound]
  constructor
  · intro hbreach
    cases hbreach with
    | belowMinimum hmin hnot hfound => exact ⟨hmin, hnot, hfound⟩
  · rintro ⟨hmin, hnot, hfound⟩
    exact .belowMinimum hmin hnot hfound

theorem aboveMaximum_mem_iff {max : Bound} :
    .aboveMaximum max ∈ s.reasons (.num (.int n)) ↔
      s.maxValue = some max ∧ max.isBelow (Binary64.ofInt n) = true := by
  have hfound : max.isBelow (Binary64.ofInt n) = true ↔ _ := Bound.isBelow_iff (n := .int n) hn max
  rw [mem_reasons_iff_breach htype hn, hfound]
  constructor
  · intro hbreach
    cases hbreach with
    | aboveMaximum hmax hnot hfound => exact ⟨hmax, hnot, hfound⟩
  · rintro ⟨hmax, hnot, hfound⟩
    exact .aboveMaximum hmax hnot hfound

variable (hbounds : s.BoundedBy low high)
include hbounds

/-- The minimum is reported exactly if the rounded integer is below it. -/
theorem belowMinimum_iff :
    (∃ min, ⟨s.name, .belowMinimum min⟩ ∈ s.check (.num (.int n))) ↔
      ∃ a, low = some a ∧ Binary64.roundInt n < a := by
  simp only [mem_check_iff, belowMinimum_mem_iff htype hn]
  exact exists_bound_iff hbounds.min fun b a h => isAbove_ofInt_iff h (natAbs_of_isWord hn)

/-- The maximum is reported exactly if the rounded integer is above it. -/
theorem aboveMaximum_iff :
    (∃ max, ⟨s.name, .aboveMaximum max⟩ ∈ s.check (.num (.int n))) ↔
      ∃ b, high = some b ∧ b < Binary64.roundInt n := by
  simp only [mem_check_iff, aboveMaximum_mem_iff htype hn]
  exact exists_bound_iff hbounds.max fun b a h => isBelow_ofInt_iff h (natAbs_of_isWord hn)

/-- An integer that passes is rounded to one between the bounds. -/
theorem between_roundInt_of_check (h : s.check (.num (.int n)) = []) :
    Between low high (Binary64.roundInt n) where
  low a ha := Int.not_lt.1 fun hlt => by
    obtain ⟨min, hmin⟩ := (belowMinimum_iff htype hn hbounds).2 ⟨a, ha, hlt⟩
    rw [h] at hmin
    cases hmin
  high b hb := Int.not_lt.1 fun hlt => by
    obtain ⟨max, hmax⟩ := (aboveMaximum_iff htype hn hbounds).2 ⟨b, hb, hlt⟩
    rw [h] at hmax
    cases hmax

end

/-! ## Rounded onto a bound -/

theorem exists_of_bound {bound : Option Bound} {integer : Option Int} {a : Int}
    (h : Option.Rel IsInteger bound integer) (ha : integer = some a) :
    ∃ x : Binary64, x.scaled = Binary64.scaledInt a := by
  subst ha
  cases h with
  | some h =>
    obtain ⟨x, -, hx⟩ := h
    exact ⟨x, hx⟩

/-- Rounding does not carry an integer beyond a bound. -/
theorem Between.roundInt (hn : n.natAbs < 2 ^ 64) (hbounds : s.BoundedBy low high)
    (h : Between low high n) : Between low high (Binary64.roundInt n) where
  low a ha := by
    obtain ⟨x, hx⟩ := exists_of_bound hbounds.min ha
    exact Binary64.le_roundInt hn hx (h.low a ha)
  high b hb := by
    obtain ⟨x, hx⟩ := exists_of_bound hbounds.max hb
    exact Binary64.roundInt_le hn hx (h.high b hb)

/-- An integer that is rounded to one between the bounds is between them itself, or it is rounded
onto a bound. -/
theorem between_iff_not_roundedOnto (hn : n.natAbs < 2 ^ 64) (hbounds : s.BoundedBy low high)
    (h : Between low high (Binary64.roundInt n)) :
    Between low high n ↔ ¬ RoundedOnto low high n := by
  constructor
  · rintro hbetween (⟨a, ha, hlt, -⟩ | ⟨b, hb, hlt, -⟩)
    · exact Int.not_lt.2 (hbetween.low a ha) hlt
    · exact Int.not_lt.2 (hbetween.high b hb) hlt
  · intro honto
    refine ⟨fun a ha => Int.not_lt.1 fun hlt => honto (.inl ⟨a, ha, hlt, ?_⟩),
      fun b hb => Int.not_lt.1 fun hlt => honto (.inr ⟨b, hb, hlt, ?_⟩)⟩
    · obtain ⟨x, hx⟩ := exists_of_bound hbounds.min ha
      exact Int.le_antisymm (Binary64.roundInt_le hn hx (Int.le_of_lt hlt)) (h.low a ha)
    · obtain ⟨x, hx⟩ := exists_of_bound hbounds.max hb
      exact Int.le_antisymm (h.high b hb) (Binary64.le_roundInt hn hx (Int.le_of_lt hlt))

/-- Up to 53 bits nothing is rounded onto a bound. -/
theorem not_roundedOnto_of_small (h : n.natAbs ≤ 2 ^ 53) : ¬ RoundedOnto low high n := by
  unfold RoundedOnto
  rw [Binary64.roundInt_of_natAbs_le h]
  rintro (⟨a, -, hlt, rfl⟩ | ⟨b, -, hlt, rfl⟩)
  · exact Int.lt_irrefl _ hlt
  · exact Int.lt_irrefl _ hlt

/-- Onto bounds of up to 53 bits nothing is rounded. -/
theorem not_roundedOnto_of_small_bounds
    (h : ∀ a, low = some a ∨ high = some a → a.natAbs < 2 ^ 53) : ¬ RoundedOnto low high n := by
  intro honto
  have hlarge : 2 ^ 53 ≤ n.natAbs :=
    Nat.le_of_not_le fun hle => not_roundedOnto_of_small hle honto
  have hrounded : 2 ^ 53 ≤ (Binary64.roundInt n).natAbs := by
    rw [Binary64.natAbs_roundInt]
    exact Binary64.le_rounded_of_le hlarge
  rcases honto with ⟨a, ha, -, rfl⟩ | ⟨b, hb, -, rfl⟩
  · exact absurd (h _ (.inl ha)) (Nat.not_lt.2 hrounded)
  · exact absurd (h _ (.inr hb)) (Nat.not_lt.2 hrounded)

/-- **Bounds of integers hold up to rounding.** A bound is reported exactly if the integer, rounded
to 53 significant bits, is beyond it, so never of an integer between the bounds. An integer that
passes is between the bounds if and only if it is not rounded onto one from beyond, which it is not
up to 2 ^ 53, nor where the bounds are below that. Otherwise it is beyond a bound by half of its
last place at most. -/
theorem integer_bounds_hold_up_to_rounding [PatternEngine]
    (htype : s.type = .integer ∨ s.type = .number) (hbounds : s.BoundedBy low high) (hn : -2 ^ 63 ≤ n ∧ n < 2 ^ 64) :
    ((∃ min, ⟨s.name, .belowMinimum min⟩ ∈ s.check (.int n)) ↔
      ∃ a, low = some a ∧ Binary64.roundInt n < a) ∧
    ((∃ max, ⟨s.name, .aboveMaximum max⟩ ∈ s.check (.int n)) ↔
      ∃ b, high = some b ∧ b < Binary64.roundInt n) ∧
    (Between low high n → Between low high (Binary64.roundInt n)) ∧
    (s.check (.int n) = [] →
      (Between low high n ↔ ¬ RoundedOnto low high n) ∧
      (∀ a, low = some a → 2 * (a - n) ≤ Binary64.lastPlace n.natAbs) ∧
      (∀ b, high = some b → 2 * (n - b) ≤ Binary64.lastPlace n.natAbs) ∧
      (n.natAbs ≤ 2 ^ 53 ∨ (∀ a, low = some a ∨ high = some a → a.natAbs < 2 ^ 53) →
        Between low high n)) := by
  have htype' : HasType s.type (.num (.int n)) := by
    rcases htype with h | h <;> rw [h]
    · exact .integer n
    · exact .number _
  have hword : IsWord n = true := (isWord_iff n).2 hn
  have hnatAbs : n.natAbs < 2 ^ 64 := natAbs_of_isWord hword
  refine ⟨belowMinimum_iff htype' hword hbounds, aboveMaximum_iff htype' hword hbounds,
    fun h => h.roundInt hnatAbs hbounds, fun h => ?_⟩
  have hrounded := between_roundInt_of_check htype' hword hbounds h
  have hiff := between_iff_not_roundedOnto hnatAbs hbounds hrounded
  obtain ⟨hnear, -⟩ := Binary64.roundInt_nearest n
  refine ⟨hiff, fun a ha => ?_, fun b hb => ?_, ?_⟩
  · have hle := hrounded.low a ha
    omega
  · have hle := hrounded.high b hb
    omega
  · rintro (hsmall | hsmall)
    · exact hiff.2 (not_roundedOnto_of_small hsmall)
    · exact hiff.2 (not_roundedOnto_of_small_bounds hsmall)

/-- An integer from 2 ^ 53 + 4 to 2 ^ 53 + 8. -/
def largeSpec : ParameterSpec where
  name := "n"
  type := .integer
  minValue := some (.finite (Binary64.ofInt 9007199254740996))
  maxValue := some (.finite (Binary64.ofInt 9007199254741000))

theorem largeSpec_boundedBy :
    largeSpec.BoundedBy (some 9007199254740996) (some 9007199254741000) :=
  ⟨.some ⟨_, rfl, by decide +kernel⟩, .some ⟨_, rfl, by decide +kernel⟩⟩

/-- Three above the maximum is rounded to four above it, and reported. -/
theorem largeSpec_reports_maximum :
    (largeSpec.type = .integer ∨ largeSpec.type = .number) ∧
      largeSpec.BoundedBy (some 9007199254740996) (some 9007199254741000) ∧
      (-2 ^ 63 ≤ (9007199254741003 : Int) ∧ (9007199254741003 : Int) < 2 ^ 64) ∧
      ∃ max, ⟨"n", .aboveMaximum max⟩ ∈ largeSpec.check (.int 9007199254741003) :=
  ⟨.inl rfl, largeSpec_boundedBy, by decide,
    (integer_bounds_hold_up_to_rounding (.inl rfl) largeSpec_boundedBy (by decide)).2.1.2
      ⟨_, rfl, by decide +kernel⟩⟩

/-- One below the minimum is rounded onto it, and passes. -/
theorem below_minimum_passes :
    largeSpec.BoundedBy (some 9007199254740996) (some 9007199254741000) ∧
      largeSpec.check (.int 9007199254740995) = [] ∧
      ¬ Between (some 9007199254740996) (some 9007199254741000) 9007199254740995 :=
  ⟨largeSpec_boundedBy, by decide +kernel, fun h => absurd (h.low _ rfl) (by decide)⟩

end ParameterSpec

end CasefileHub
