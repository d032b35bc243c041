import Mathlib.Data.List.Nodup
import CasefileHub.Proofs.Binary64.Rounding
import CasefileHub.Proofs.Json.Size
import CasefileHub.Proofs.Parameter.Validation
/-!
# What arguments are checked for

What a specification asks of a value is stated here apart from the functions that check it, with
bounds compared exactly. Arguments *conform* if every name is known, every required value is there
and not null, and every value meets its specification:

    r ∈ s.faults v ↔ s.Fault v r                                            (mem_faults_iff)
    all violations = those of each specification, and then the unknown names,
      each once                               (allViolations_eq, nodup_allViolations)
    the parameters = the arguments and the defaults of absent ones          (get?_parameters_iff)

An integer is compared with bounds after rounding, and no number is found beyond a bound that is not
a number. So a number beyond a bound slips past it if it rounds to that bound, or if nothing is less
or greater than the bound. Arguments that pass conform exactly if none of theirs does:

    Conforms specs m ↔ m passes, and no number of m slips past a bound      (conforms_iff_passes)

All of this holds for any engine that says what a pattern is and where it occurs.
-/

namespace CasefileHub

namespace Number

/-- The exact value, in units of 2 ^ -1074. -/
def scaled : Number → Int
  | .int n => Binary64.scaledInt n
  | .real x => x.scaled

end Number

namespace Bound

/-- The bound is at most a value, in units of 2 ^ -1074. -/
def AtMost : Bound → Int → Prop
  | finite b, x => b.scaled ≤ x
  | infinite negative, _ => negative = true
  | nan, _ => False

/-- The bound is at least a value, in units of 2 ^ -1074. -/
def AtLeast : Bound → Int → Prop
  | finite b, x => x ≤ b.scaled
  | infinite negative, _ => negative = false
  | nan, _ => False

/-- A number is not found beyond the bound, wherever it lies. -/
def Overlooks : Bound → Number → Prop
  | finite b, n => n.toReal.scaled = b.scaled
  | infinite _, _ => False
  | nan, _ => True

/-- A number that fits 64 bits is found below the bound if it lies below, and is not overlooked. -/
theorem isAbove_iff {n : Number} (hn : n.fits = true) (b : Bound) :
    b.isAbove n.toReal = true ↔ ¬ b.AtMost n.scaled ∧ ¬ b.Overlooks n := by
  cases b with
  | finite x =>
    rw [isAbove, AtMost, Overlooks, Int.not_le, Binary64.lt, decide_eq_true_eq]
    cases n with
    | int n => exact Binary64.ofInt_lt_iff (natAbs_of_isWord hn)
    | real y =>
      show y.scaled < x.scaled ↔ y.scaled < x.scaled ∧ y.scaled ≠ x.scaled
      omega
  | infinite negative => simp [isAbove, AtMost, Overlooks]
  | nan => simp [isAbove, AtMost, Overlooks]

theorem isBelow_iff {n : Number} (hn : n.fits = true) (b : Bound) :
    b.isBelow n.toReal = true ↔ ¬ b.AtLeast n.scaled ∧ ¬ b.Overlooks n := by
  cases b with
  | finite x =>
    rw [isBelow, AtLeast, Overlooks, Int.not_le, Binary64.lt, decide_eq_true_eq]
    cases n with
    | int n => exact Binary64.lt_ofInt_iff (natAbs_of_isWord hn)
    | real y =>
      show x.scaled < y.scaled ↔ x.scaled < y.scaled ∧ y.scaled ≠ x.scaled
      omega
  | infinite negative => simp [isBelow, AtLeast, Overlooks]
  | nan => simp [isBelow, AtLeast, Overlooks]

end Bound

namespace ParameterSpec

/-! ## What is asked of a value -/

/-- What type a value has. An integer is also a number. -/
inductive HasType : ParameterType → Json → Prop
  | string (text : String) : HasType .string (.str text)
  | integer (n : Int) : HasType .integer (.num (.int n))
  | number (n : Number) : HasType .number (.num n)
  | boolean (b : Bool) : HasType .boolean (.bool b)
  | array (items : List Json) : HasType .array (.arr items)
  | object (members : List (String × Json)) : HasType .object (.obj members)
  | any (v : Json) : HasType .any v

/-- A number does not keep to a bound, but is not found beyond it. -/
def SlipsPast (s : ParameterSpec) (n : Number) : Prop :=
  (∃ min, s.minValue = some min ∧ ¬ min.AtMost n.scaled ∧ min.Overlooks n) ∨
    ∃ max, s.maxValue = some max ∧ ¬ max.AtLeast n.scaled ∧ max.Overlooks n

section
variable [PatternEngine]

/-- A text is a pattern, and occurs in another. -/
def Matches (pattern text : String) : Prop :=
  ∃ occursIn, PatternEngine.compile? pattern = some occursIn ∧ occursIn text = true

/-- A value other than null has the type, and lies within the limits. -/
structure Meets (s : ParameterSpec) (v : Json) : Prop where
  type : HasType s.type v
  range : ∀ n, v = .num n →
    (∀ min, s.minValue = some min → min.AtMost n.scaled) ∧
      ∀ max, s.maxValue = some max → max.AtLeast n.scaled
  length : ∀ k, v.length? = some k →
    (∀ min, s.minLength = some min → min ≤ k) ∧ ∀ max, s.maxLength = some max → k ≤ max
  allowed : ∀ values, s.allowed = some values → ∃ w ∈ values, w.same v = true
  pattern : ∀ pattern, s.pattern = some pattern → ∀ text, v = .str text → Matches pattern text

/-- The arguments are known, there and right. -/
structure Conforms (specs : List ParameterSpec) (m : Table Json) : Prop where
  known : ∀ name ∈ m.names, ∃ s ∈ specs, s.name = name
  present : ∀ s ∈ specs, s.required = true → ∃ v, m.get? s.name = some v ∧ v ≠ .null
  meets : ∀ s ∈ specs, ∀ v, m.get? s.name = some v → v ≠ .null → s.Meets v

/-- What is wrong with a value that has the type. -/
inductive Breach (s : ParameterSpec) : Json → Reason → Prop
  | belowMinimum {n : Number} {min : Bound} (hmin : s.minValue = some min)
      (hnot : ¬ min.AtMost n.scaled) (hfound : ¬ min.Overlooks n) :
      Breach s (.num n) (.belowMinimum min)
  | aboveMaximum {n : Number} {max : Bound} (hmax : s.maxValue = some max)
      (hnot : ¬ max.AtLeast n.scaled) (hfound : ¬ max.Overlooks n) :
      Breach s (.num n) (.aboveMaximum max)
  | tooShort {v : Json} {k min : Nat} (hlength : v.length? = some k)
      (hmin : s.minLength = some min) (hlt : k < min) : Breach s v (.tooShort min)
  | tooLong {v : Json} {k max : Nat} (hlength : v.length? = some k)
      (hmax : s.maxLength = some max) (hlt : max < k) : Breach s v (.tooLong max)
  | notAllowed {v : Json} {values : List Json} (hvalues : s.allowed = some values)
      (hnone : ∀ w ∈ values, w.same v = false) : Breach s v (.notAllowed values)
  | unmatched {text pattern : String} (hpattern : s.pattern = some pattern)
      (hvalid : (PatternEngine.compile? pattern).isSome) (hno : ¬ Matches pattern text) :
      Breach s (.str text) (.unmatched pattern)
  | badPattern {text pattern : String} (hpattern : s.pattern = some pattern)
      (hinvalid : PatternEngine.compile? pattern = none) : Breach s (.str text) (.badPattern pattern)

/-- What is wrong with the value of a specification, or with its absence. -/
inductive Fault (s : ParameterSpec) : Option Json → Reason → Prop
  | required (h : s.required = true) : Fault s none .required
  | null (h : s.required = true) : Fault s (some .null) .null
  | type {v : Json} (hne : v ≠ .null) (h : ¬ HasType s.type v) :
      Fault s (some v) (.type s.type.text)
  | breach {v : Json} {r : Reason} (hne : v ≠ .null) (htype : HasType s.type v)
      (h : Breach s v r) : Fault s (some v) r

end

/-! ## What is checked of a value -/

theorem admits_iff_hasType (t : ParameterType) (v : Json) : t.admits v = true ↔ HasType t v := by
  constructor
  · intro h
    unfold ParameterType.admits at h
    split at h
    · exact .string _
    · exact .integer _
    · exact .number _
    · exact .boolean _
    · exact .array _
    · exact .object _
    · exact .any _
    · cases h
  · intro h
    cases h <;> rfl

variable {s : ParameterSpec} {r : Reason}

theorem mem_rangeReasons_iff {n : Number} (hn : n.fits = true) :
    r ∈ s.rangeReasons n.toReal ↔
      (∃ min, s.minValue = some min ∧ (¬ min.AtMost n.scaled ∧ ¬ min.Overlooks n) ∧
        r = .belowMinimum min) ∨
      ∃ max, s.maxValue = some max ∧ (¬ max.AtLeast n.scaled ∧ ¬ max.Overlooks n) ∧
        r = .aboveMaximum max := by
  simp only [← Bound.isAbove_iff hn, ← Bound.isBelow_iff hn]
  unfold rangeReasons
  rw [List.mem_append]
  refine or_congr ?_ ?_
  · cases s.minValue <;> simp
  · cases s.maxValue <;> simp

theorem mem_lengthReasons_iff (k : Nat) :
    r ∈ s.lengthReasons k ↔
      (∃ min, s.minLength = some min ∧ k < min ∧ r = .tooShort min) ∨
      ∃ max, s.maxLength = some max ∧ max < k ∧ r = .tooLong max := by
  unfold lengthReasons
  rw [List.mem_append]
  refine or_congr ?_ ?_
  · cases s.minLength <;> simp
  · cases s.maxLength <;> simp

theorem mem_allowedReasons_iff (v : Json) :
    r ∈ s.allowedReasons v ↔
      ∃ values, s.allowed = some values ∧ (∀ w ∈ values, w.same v = false) ∧
        r = .notAllowed values := by
  unfold allowedReasons
  cases s.allowed <;> simp

theorem mem_getD_map_iff {α : Type} {f : α → List Reason} {o : Option α} :
    r ∈ (o.map f).getD [] ↔ ∃ a, o = some a ∧ r ∈ f a := by
  cases o <;> simp

theorem number?_eq_some_iff {v : Json} {n : Number} : v.number? = some n ↔ v = .num n := by
  cases v <;> simp [Json.number?]

theorem text?_eq_some_iff {v : Json} {text : String} : v.text? = some text ↔ v = .str text := by
  cases v <;> simp [Json.text?]

theorem isNull_iff {v : Json} : v.isNull = true ↔ v = .null := by
  cases v <;> simp [Json.isNull]

theorem mem_ite_iff {b : Bool} {a : Reason} :
    r ∈ (if b = true then [a] else []) ↔ b = true ∧ r = a := by
  cases b <;> simp

section
variable [PatternEngine]

theorem mem_patternReasons_iff (text : String) :
    r ∈ s.patternReasons text ↔
      ∃ pattern, s.pattern = some pattern ∧
        (((PatternEngine.compile? pattern).isSome ∧ ¬ Matches pattern text ∧
            r = .unmatched pattern) ∨
          (PatternEngine.compile? pattern = none ∧ r = .badPattern pattern)) := by
  unfold patternReasons Matches
  cases s.pattern with
  | none => simp
  | some pattern =>
    cases hp : PatternEngine.compile? pattern <;> simp [hp]

/-- The constraints look at the number, the length, the whole value and the text of a value. -/
theorem constraintReasons_eq (s : ParameterSpec) (v : Json) :
    s.constraintReasons v =
      (v.number?.map fun n => s.rangeReasons n.toReal).getD [] ++
        (v.length?.map s.lengthReasons).getD [] ++ s.allowedReasons v ++
          (v.text?.map s.patternReasons).getD [] := by
  cases v <;> rfl

section
variable {v : Json} (hv : ∀ n, v = .num n → n.fits = true)
include hv

theorem breach_of_mem_constraintReasons (h : r ∈ s.constraintReasons v) : Breach s v r := by
  rw [constraintReasons_eq] at h
  simp only [List.mem_append, mem_getD_map_iff, number?_eq_some_iff, text?_eq_some_iff] at h
  rcases h with ((⟨n, rfl, hrange⟩ | ⟨k, hk, hlength⟩) | hallowed) | ⟨text, rfl, htext⟩
  · rcases (mem_rangeReasons_iff (hv n rfl)).1 hrange with
      ⟨min, hmin, ⟨hnot, hfound⟩, rfl⟩ | ⟨max, hmax, ⟨hnot, hfound⟩, rfl⟩
    · exact .belowMinimum hmin hnot hfound
    · exact .aboveMaximum hmax hnot hfound
  · rcases (mem_lengthReasons_iff k).1 hlength with ⟨min, hmin, hlt, rfl⟩ | ⟨max, hmax, hlt, rfl⟩
    · exact .tooShort hk hmin hlt
    · exact .tooLong hk hmax hlt
  · obtain ⟨values, hvalues, hnone, rfl⟩ := (mem_allowedReasons_iff v).1 hallowed
    exact .notAllowed hvalues hnone
  · rcases (mem_patternReasons_iff text).1 htext with
      ⟨pattern, hpattern, ⟨hvalid, hno, rfl⟩ | ⟨hinvalid, rfl⟩⟩
    · exact .unmatched hpattern hvalid hno
    · exact .badPattern hpattern hinvalid

theorem mem_constraintReasons_of_breach (h : Breach s v r) : r ∈ s.constraintReasons v := by
  rw [constraintReasons_eq]
  simp only [List.mem_append, mem_getD_map_iff, number?_eq_some_iff, text?_eq_some_iff]
  cases h with
  | belowMinimum hmin hnot hfound =>
    refine .inl (.inl (.inl ⟨_, rfl, (mem_rangeReasons_iff (hv _ rfl)).2 (.inl ?_)⟩))
    exact ⟨_, hmin, ⟨hnot, hfound⟩, rfl⟩
  | aboveMaximum hmax hnot hfound =>
    refine .inl (.inl (.inl ⟨_, rfl, (mem_rangeReasons_iff (hv _ rfl)).2 (.inr ?_)⟩))
    exact ⟨_, hmax, ⟨hnot, hfound⟩, rfl⟩
  | tooShort hlength hmin hlt =>
    refine .inl (.inl (.inr ⟨_, hlength, (mem_lengthReasons_iff _).2 (.inl ?_)⟩))
    exact ⟨_, hmin, hlt, rfl⟩
  | tooLong hlength hmax hlt =>
    refine .inl (.inl (.inr ⟨_, hlength, (mem_lengthReasons_iff _).2 (.inr ?_)⟩))
    exact ⟨_, hmax, hlt, rfl⟩
  | notAllowed hvalues hnone =>
    exact .inl (.inr ((mem_allowedReasons_iff v).2 ⟨_, hvalues, hnone, rfl⟩))
  | unmatched hpattern hvalid hno =>
    refine .inr ⟨_, rfl, (mem_patternReasons_iff _).2 ⟨_, hpattern, .inl ?_⟩⟩
    exact ⟨hvalid, hno, rfl⟩
  | badPattern hpattern hinvalid =>
    exact .inr ⟨_, rfl, (mem_patternReasons_iff _).2 ⟨_, hpattern, .inr ⟨hinvalid, rfl⟩⟩⟩

/-- The constraints are checked one by one. -/
theorem mem_constraintReasons_iff : r ∈ s.constraintReasons v ↔ Breach s v r :=
  ⟨breach_of_mem_constraintReasons hv, mem_constraintReasons_of_breach hv⟩

end

/-! ## The faults of a specification -/

/-- What is wrong with a value, or with its absence, in the order in which it is reported. -/
def faults (s : ParameterSpec) : Option Json → List Reason
  | some v => s.reasons v
  | none => if s.required then [.required] else []

section
variable {v : Json} (hne : v ≠ .null)
include hne

theorem reasons_of_hasType (h : HasType s.type v) : s.reasons v = s.constraintReasons v := by
  rw [reasons, if_neg (mt isNull_iff.1 hne), if_pos ((admits_iff_hasType _ _).2 h)]

theorem reasons_of_not_hasType (h : ¬ HasType s.type v) : s.reasons v = [.type s.type.text] := by
  rw [reasons, if_neg (mt isNull_iff.1 hne), if_neg (mt (admits_iff_hasType _ _).1 h)]

/-- A value with the type is checked for the constraints, and any other for nothing else. -/
theorem mem_reasons_iff (hv : ∀ n, v = .num n → n.fits = true) :
    r ∈ s.reasons v ↔ s.Fault (some v) r := by
  by_cases htype : HasType s.type v
  · rw [reasons_of_hasType hne htype, mem_constraintReasons_iff hv]
    constructor
    · exact .breach hne htype
    · intro h
      cases h with
      | null _ => exact absurd rfl hne
      | type _ hno => exact absurd htype hno
      | breach _ _ h => exact h
  · rw [reasons_of_not_hasType hne htype, List.mem_singleton]
    constructor
    · rintro rfl
      exact .type hne htype
    · intro h
      cases h with
      | null _ => exact absurd rfl hne
      | type _ _ => rfl
      | breach _ h _ => exact absurd h htype

end

/-- **Everything that is wrong is reported, and nothing else.** -/
theorem mem_faults_iff {v : Option Json} (hv : ∀ n, v = some (.num n) → n.fits = true) :
    r ∈ s.faults v ↔ s.Fault v r := by
  cases v with
  | none =>
    refine mem_ite_iff.trans ⟨?_, ?_⟩
    · rintro ⟨h, rfl⟩
      exact .required h
    · rintro ⟨h⟩
      exact ⟨h, rfl⟩
  | some v =>
    by_cases hnull : v = .null
    · subst hnull
      refine mem_ite_iff.trans ⟨?_, ?_⟩
      · rintro ⟨h, rfl⟩
        exact .null h
      · intro h
        cases h with
        | null h => exact ⟨h, rfl⟩
        | type hne _ => exact absurd rfl hne
        | breach hne _ _ => exact absurd rfl hne
    · exact mem_reasons_iff hnull fun n hn => hv n (hn ▸ rfl)

end

/-! ## Each fault once -/

/-- Where a reason stands among those of one specification. -/
def place : Reason → Nat
  | .belowMinimum _ => 0
  | .aboveMaximum _ => 1
  | .tooShort _ => 2
  | .tooLong _ => 3
  | .notAllowed _ => 4
  | _ => 5

/-- Reasons in the order of their places, of each place one at most, from one place to before
another. -/
def Within (first last : Nat) (l : List Reason) : Prop :=
  (l.Pairwise fun a b => place a < place b) ∧ ∀ a ∈ l, first ≤ place a ∧ place a < last

theorem Within.append {k m n : Nat} {l l' : List Reason} (hkm : k ≤ m) (hmn : m ≤ n)
    (h : Within k m l) (h' : Within m n l') : Within k n (l ++ l') := by
  refine ⟨List.pairwise_append.2 ⟨h.1, h'.1, fun a ha b hb => ?_⟩, fun a ha => ?_⟩
  · have hbelow := (h.2 a ha).2
    have habove := (h'.2 b hb).1
    omega
  · rcases List.mem_append.1 ha with hmem | hmem
    · have := h.2 a hmem
      omega
    · have := h'.2 a hmem
      omega

theorem Within.nodup {k n : Nat} {l : List Reason} (h : Within k n l) : l.Nodup :=
  h.1.imp fun hlt heq => absurd (heq ▸ hlt) (Nat.lt_irrefl _)

theorem within_getD {α : Type} {f : α → List Reason} {k n : Nat} (h : ∀ a, Within k n (f a))
    (o : Option α) : Within k n ((o.map f).getD []) := by
  cases o with
  | none => exact ⟨.nil, by simp⟩
  | some a => exact h a

theorem within_rangeReasons (s : ParameterSpec) (x : Binary64) : Within 0 2 (s.rangeReasons x) := by
  unfold rangeReasons Within
  cases s.minValue <;> cases s.maxValue <;> grind [place]

theorem within_lengthReasons (s : ParameterSpec) (k : Nat) : Within 2 4 (s.lengthReasons k) := by
  unfold lengthReasons Within
  cases s.minLength <;> cases s.maxLength <;> grind [place]

theorem within_allowedReasons (s : ParameterSpec) (v : Json) : Within 4 5 (s.allowedReasons v) := by
  unfold allowedReasons Within
  cases s.allowed <;> grind [place]

section
variable [PatternEngine]

theorem within_patternReasons (s : ParameterSpec) (text : String) :
    Within 5 6 (s.patternReasons text) := by
  unfold patternReasons Within
  cases s.pattern <;> grind [place]

theorem within_constraintReasons (s : ParameterSpec) (v : Json) :
    Within 0 6 (s.constraintReasons v) := by
  rw [constraintReasons_eq]
  have hrange := within_getD (fun n : Number => s.within_rangeReasons n.toReal) v.number?
  have hlength := within_getD s.within_lengthReasons v.length?
  have hpattern := within_getD s.within_patternReasons v.text?
  have hfront := hrange.append (by decide) (by decide) hlength
  have hmiddle := hfront.append (by decide) (by decide) (s.within_allowedReasons v)
  exact hmiddle.append (by decide) (by decide) hpattern

/-- No reason is reported twice. -/
theorem nodup_faults (s : ParameterSpec) (v : Option Json) : (s.faults v).Nodup := by
  cases v with
  | none =>
    show (if s.required = true then [Reason.required] else []).Nodup
    split <;> simp
  | some v =>
    show (s.reasons v).Nodup
    unfold reasons
    split
    · split <;> simp
    · split
      · exact (s.within_constraintReasons v).nodup
      · simp

end

/-! ## All violations -/

variable {specs : List ParameterSpec} {m : Table Json}

/-- The names that no specification has, in ascending order. -/
def unknown (specs : List ParameterSpec) (m : Table Json) : List String :=
  m.names.filter fun name => ∀ s ∈ specs, s.name ≠ name

theorem mem_unknown_iff {name : String} :
    name ∈ unknown specs m ↔ name ∈ m.names ∧ ∀ s ∈ specs, s.name ≠ name := by
  rw [unknown, List.mem_filter, decide_eq_true_eq]

theorem unknown_ascending (specs : List ParameterSpec) (m : Table Json) :
    (unknown specs m).Pairwise (· < ·) :=
  m.names_ascending.sublist List.filter_sublist

theorem unknown_eq_nil_iff :
    unknown specs m = [] ↔ ∀ name ∈ m.names, ∃ s ∈ specs, s.name = name := by
  simp only [List.eq_nil_iff_forall_not_mem, mem_unknown_iff]
  grind

theorem fits_of_get? (hm : (Json.obj m.entries).allNumbers Number.fits = true) {name : String}
    {n : Number} (h : m.get? name = some (.num n)) : n.fits = true :=
  Json.allNumbers_of_mem hm (Entries.mem_of_lookup h)

section
variable [PatternEngine]

/-- The faults of a value as violations of its specification. -/
def reported (s : ParameterSpec) (v : Option Json) : List Violation :=
  (s.faults v).map fun r => ⟨s.name, r⟩

theorem violations_eq (s : ParameterSpec) (m : Table Json) :
    s.violations m.entries = s.reported (m.get? s.name) := by
  show (match m.get? s.name with | some v => s.check v | none => _) = _
  cases m.get? s.name with
  | some v => rfl
  | none =>
    show (if s.required = true then _ else _) = List.map _ (if s.required = true then _ else _)
    split <;> rfl

/-- The violations of each specification, by its own value alone, and then the unknown names. -/
theorem allViolations_eq (specs : List ParameterSpec) (m : Table Json) :
    allViolations specs m.entries =
      specs.flatMap (fun s => s.reported (m.get? s.name)) ++
        (unknown specs m).map fun name => ⟨name, .unknown⟩ := by
  have hunknown : unknownNames specs m.entries =
      (unknown specs m).map fun name => ⟨name, .unknown⟩ := by
    unfold unknownNames unknown Table.names
    congr 2
    funext name
    rw [Bool.eq_iff_iff]
    simp
  rw [allViolations, hunknown]
  simp only [violations_eq]

theorem name_of_mem_reported {s : ParameterSpec} {v : Option Json} {x : Violation}
    (h : x ∈ s.reported v) : x.field = s.name := by
  obtain ⟨r, -, rfl⟩ := List.mem_map.1 h
  rfl

/-- Where names are distinct, no violation is reported twice. -/
theorem nodup_allViolations (hd : Distinct specs) (m : Table Json) :
    (allViolations specs m.entries).Nodup := by
  have hdistinct : specs.Pairwise fun s s' => s.name ≠ s'.name := List.pairwise_map.1 hd
  rw [allViolations_eq, List.nodup_append]
  refine ⟨List.nodup_flatMap.2 ⟨fun s _ => ?_, hdistinct.imp fun hne => ?_⟩, ?_, ?_⟩
  · exact (s.nodup_faults _).map fun r r' heq => (Violation.mk.inj heq).2
  · -- violations of two specifications are about different fields
    intro x hx hx'
    exact hne ((name_of_mem_reported hx).symm.trans (name_of_mem_reported hx'))
  · have hnames : (unknown specs m).Nodup := by
      refine (unknown_ascending specs m).imp fun {name name'} hlt heq => ?_
      exact Entries.not_lt_self name (heq ▸ hlt)
    exact hnames.map fun name name' heq => (Violation.mk.inj heq).1
  · rintro x hx y hy rfl
    obtain ⟨s, hs, hreported⟩ := List.mem_flatMap.1 hx
    obtain ⟨name, hname, rfl⟩ := List.mem_map.1 hy
    exact (mem_unknown_iff.1 hname).2 s hs (name_of_mem_reported hreported).symm

/-! ## What passes -/

theorem validate_eq_ok_iff {raw : Json} {args : List (String × Json)}
    (hargs : arguments raw = .ok args) {p : Parameters} :
    validate specs raw = .ok p ↔ allViolations specs args = [] ∧ p = parameters specs args := by
  simp only [validate, hargs, bind, Except.bind]
  cases allViolations specs args with
  | nil => simp [pure, Except.pure, eq_comm]
  | cons v vs => simp [throw, throwThe, MonadExceptOf.throw]

theorem validate_eq_error_iff {raw : Json} {args : List (String × Json)}
    (hargs : arguments raw = .ok args) {vs : List Violation} :
    validate specs raw = .error vs ↔ vs = allViolations specs args ∧ vs ≠ [] := by
  simp only [validate, hargs, bind, Except.bind]
  cases allViolations specs args with
  | nil => simp [pure, Except.pure]
  | cons v vs' =>
    simp only [throw, throwThe, MonadExceptOf.throw, Except.error.injEq]
    constructor
    · rintro rfl
      exact ⟨rfl, by simp⟩
    · rintro ⟨rfl, -⟩
      rfl

/-- Arguments pass if no specification reports anything and no name is unknown. -/
theorem passes_iff :
    (∃ p, validate specs (.obj m.entries) = .ok p) ↔
      (∀ s ∈ specs, s.faults (m.get? s.name) = []) ∧ unknown specs m = [] := by
  have hargs : arguments (.obj m.entries) = .ok m.entries := rfl
  simp only [validate_eq_ok_iff hargs, exists_and_left, exists_eq, and_true]
  rw [allViolations_eq, List.append_eq_nil_iff, List.flatMap_eq_nil_iff, List.map_eq_nil_iff]
  simp only [reported, List.map_eq_nil_iff]

/-- The parameters are the arguments and the defaults of absent optional ones. -/
theorem get?_parameters_iff (hd : Distinct specs) {p : Parameters}
    (h : validate specs (.obj m.entries) = .ok p) (name : String) (v : Json) :
    p.get? name = some v ↔ m.get? name = some v ∨
      (m.get? name = none ∧
        ∃ s ∈ specs, s.name = name ∧ s.required = false ∧ s.default = some v) := by
  obtain ⟨-, hunknown⟩ := passes_iff.1 ⟨p, h⟩
  obtain ⟨-, rfl⟩ := (validate_eq_ok_iff rfl).1 h
  rw [parameters_eq]
  by_cases hmem : name ∈ specs.map ParameterSpec.name
  · obtain ⟨s, hs, rfl⟩ := List.mem_map.1 hmem
    have honly : (∃ s' ∈ specs, s'.name = s.name ∧ s'.required = false ∧ s'.default = some v) ↔
        s.required = false ∧ s.default = some v := by
      constructor
      · rintro ⟨s', hs', hname, hs'v⟩
        rwa [← List.inj_on_of_nodup_map hd hs' hs hname]
      · exact fun hsv => ⟨s, hs, rfl, hsv⟩
    rw [get?_foldl_of_mem hd hs rfl, honly]
    show (match m.get? s.name with
      | some w => some w
      | none => if s.required = true then none else s.default) = some v ↔ _
    cases m.get? s.name with
    | some w => simp
    | none => cases s.required <;> simp
  · rw [get?_foldl_of_not_mem hmem]
    refine iff_of_false (by simp) ?_
    rintro (hv | ⟨-, s, hs, hname, -⟩)
    · have hknown : name ∈ unknown specs m := by
        refine mem_unknown_iff.2 ⟨(m.mem_names_iff name).2 (by rw [hv]; rfl), fun s hs hname => ?_⟩
        exact hmem (List.mem_map.2 ⟨s, hs, hname⟩)
      rw [hunknown] at hknown
      cases hknown
    · exact hmem (List.mem_map.2 ⟨s, hs, hname⟩)

/-! ## What conforms -/

theorem Meets.not_breach {v : Json} (h : s.Meets v) : ¬ Breach s v r := by
  intro hbreach
  cases hbreach with
  | belowMinimum hmin hnot _ => exact hnot ((h.range _ rfl).1 _ hmin)
  | aboveMaximum hmax hnot _ => exact hnot ((h.range _ rfl).2 _ hmax)
  | tooShort hlength hmin hlt => exact absurd ((h.length _ hlength).1 _ hmin) (Nat.not_le.2 hlt)
  | tooLong hlength hmax hlt => exact absurd ((h.length _ hlength).2 _ hmax) (Nat.not_le.2 hlt)
  | notAllowed hvalues hnone =>
    obtain ⟨w, hw, hsame⟩ := h.allowed _ hvalues
    rw [hnone w hw] at hsame
    cases hsame
  | unmatched hpattern _ hno => exact hno (h.pattern _ hpattern _ rfl)
  | badPattern hpattern hinvalid =>
    obtain ⟨p, hp, -⟩ := h.pattern _ hpattern _ rfl
    rw [hinvalid] at hp
    cases hp

theorem Meets.not_slipsPast {n : Number} (h : s.Meets (.num n)) : ¬ s.SlipsPast n := by
  rintro (⟨min, hmin, hnot, -⟩ | ⟨max, hmax, hnot, -⟩)
  · exact hnot ((h.range n rfl).1 min hmin)
  · exact hnot ((h.range n rfl).2 max hmax)

/-- A value with the type meets its specification if nothing is wrong with it, found or not. -/
theorem meets_of_no_breach {v : Json} (htype : HasType s.type v) (hbreach : ∀ r, ¬ Breach s v r)
    (hslip : ∀ n, v = .num n → ¬ s.SlipsPast n) : s.Meets v where
  type := htype
  range := by
    rintro n rfl
    refine ⟨fun min hmin => by_contra fun hnot => ?_, fun max hmax => by_contra fun hnot => ?_⟩
    · have hfound : ¬ min.Overlooks n := fun h => hslip n rfl (.inl ⟨min, hmin, hnot, h⟩)
      exact hbreach _ (.belowMinimum hmin hnot hfound)
    · have hfound : ¬ max.Overlooks n := fun h => hslip n rfl (.inr ⟨max, hmax, hnot, h⟩)
      exact hbreach _ (.aboveMaximum hmax hnot hfound)
  length k hk := by
    refine ⟨fun min hmin => Nat.not_lt.1 fun hlt => ?_, fun max hmax => Nat.not_lt.1 fun hlt => ?_⟩
    · exact hbreach _ (.tooShort hk hmin hlt)
    · exact hbreach _ (.tooLong hk hmax hlt)
  allowed values hvalues := by
    by_contra hnone
    refine hbreach _ (.notAllowed hvalues fun w hw => ?_)
    exact Bool.eq_false_iff.2 fun hsame => hnone ⟨w, hw, hsame⟩
  pattern := by
    rintro pattern hpattern text rfl
    by_contra hno
    cases hp : PatternEngine.compile? pattern with
    | none => exact hbreach _ (.badPattern hpattern hp)
    | some occursIn => exact hbreach _ (.unmatched hpattern (by rw [hp]; rfl) hno)

/-- A value meets its specification if it has no fault and slips past no bound. -/
theorem meets_iff {v : Json} (hne : v ≠ .null) :
    s.Meets v ↔ (∀ r, ¬ s.Fault (some v) r) ∧ ∀ n, v = .num n → ¬ s.SlipsPast n := by
  constructor
  · intro h
    refine ⟨fun r hfault => ?_, ?_⟩
    · cases hfault with
      | null _ => exact hne rfl
      | type _ hno => exact hno h.type
      | breach _ _ hbreach => exact h.not_breach hbreach
    · rintro n rfl
      exact h.not_slipsPast
  · rintro ⟨hfault, hslip⟩
    have htype : HasType s.type v := by
      by_contra hno
      exact hfault _ (.type hne hno)
    exact meets_of_no_breach htype (fun r hr => hfault r (.breach hne htype hr)) hslip

/-- A specification has no fault with the arguments if its value is there and meets it. -/
theorem presents_iff {v : Option Json} :
    (∀ r, ¬ s.Fault v r) ↔ (s.required = true → ∃ w, v = some w ∧ w ≠ .null) ∧
      ∀ w, v = some w → w ≠ .null → ∀ r, ¬ s.Fault (some w) r := by
  constructor
  · intro h
    refine ⟨fun hrequired => ?_, fun w hw _ => hw ▸ h⟩
    cases v with
    | none => exact absurd (.required hrequired) (h _)
    | some w =>
      refine ⟨w, rfl, ?_⟩
      rintro rfl
      exact h _ (.null hrequired)
  · rintro ⟨hpresent, hmeets⟩ r hfault
    cases hfault with
    | required hrequired =>
      obtain ⟨w, hw, -⟩ := hpresent hrequired
      cases hw
    | null hrequired =>
      obtain ⟨w, hw, hne⟩ := hpresent hrequired
      cases hw
      exact hne rfl
    | type hne hno => exact hmeets _ rfl hne _ (.type hne hno)
    | breach hne htype hbreach => exact hmeets _ rfl hne _ (.breach hne htype hbreach)

/-- Arguments that pass conform, but for numbers that slip past a bound. -/
theorem conforms_iff_passes (hm : (Json.obj m.entries).allNumbers Number.fits = true) :
    Conforms specs m ↔ (∃ p, validate specs (.obj m.entries) = .ok p) ∧
      ∀ s ∈ specs, ∀ n, m.get? s.name = some (.num n) → ¬ s.SlipsPast n := by
  have hclean : ∀ s : ParameterSpec, s.faults (m.get? s.name) = [] ↔
      (s.required = true → ∃ w, m.get? s.name = some w ∧ w ≠ .null) ∧
        ∀ w, m.get? s.name = some w → w ≠ .null → ∀ r, ¬ s.Fault (some w) r := by
    intro s
    refine Iff.trans ?_ presents_iff
    simp only [List.eq_nil_iff_forall_not_mem, mem_faults_iff fun n hn => fits_of_get? hm hn]
  rw [passes_iff, unknown_eq_nil_iff]
  simp only [hclean]
  constructor
  · rintro ⟨hknown, hpresent, hmeets⟩
    refine ⟨⟨fun s hs => ⟨hpresent s hs, fun w hw hne => ?_⟩, hknown⟩, fun s hs n hn => ?_⟩
    · exact ((meets_iff hne).1 (hmeets s hs w hw hne)).1
    · exact ((meets_iff (by simp)).1 (hmeets s hs _ hn (by simp))).2 n rfl
  · rintro ⟨⟨hpass, hknown⟩, hslip⟩
    refine ⟨hknown, fun s hs => (hpass s hs).1, fun s hs v hv hne => ?_⟩
    exact (meets_iff hne).2 ⟨(hpass s hs).2 v hv hne, fun n hn => hslip s hs n (hn ▸ hv)⟩

/-- **Validation is exact, but for bounds that are missed.** For any engine of patterns, and where
names are distinct, arguments conform if and only if they pass and none of their numbers slips past
a bound: by rounding onto it, or where it is not a number. Of those that pass, the parameters are
the arguments and the defaults of absent ones. Otherwise everything that is wrong is reported,
specification by specification and then the unknown names, and nothing twice. -/
theorem validation_exact (hd : Distinct specs)
    (hm : (Json.obj m.entries).allNumbers Number.fits = true) :
    (Conforms specs m ↔ (∃ p, validate specs (.obj m.entries) = .ok p) ∧
      ∀ s ∈ specs, ∀ n, m.get? s.name = some (.num n) → ¬ s.SlipsPast n) ∧
    (∀ p, validate specs (.obj m.entries) = .ok p → ∀ name v,
      p.get? name = some v ↔ m.get? name = some v ∨
        (m.get? name = none ∧
          ∃ s ∈ specs, s.name = name ∧ s.required = false ∧ s.default = some v)) ∧
    (∀ vs, validate specs (.obj m.entries) = .error vs ↔
      vs = specs.flatMap (fun s => s.reported (m.get? s.name)) ++
        (unknown specs m).map (fun name => ⟨name, .unknown⟩) ∧ vs ≠ [] ∧ vs.Nodup) ∧
    (∀ s ∈ specs, ∀ r, r ∈ s.faults (m.get? s.name) ↔ s.Fault (m.get? s.name) r) ∧
    (∀ name, name ∈ unknown specs m ↔ name ∈ m.names ∧ ∀ s ∈ specs, s.name ≠ name) ∧
    (unknown specs m).Pairwise (· < ·) := by
  refine ⟨conforms_iff_passes hm, fun p hp => get?_parameters_iff hd hp, fun vs => ?_,
    fun s _ r => mem_faults_iff fun n hn => fits_of_get? hm hn, fun name => mem_unknown_iff,
    unknown_ascending specs m⟩
  rw [validate_eq_error_iff rfl, ← allViolations_eq]
  constructor
  · rintro ⟨rfl, hne⟩
    exact ⟨rfl, hne, nodup_allViolations hd m⟩
  · rintro ⟨rfl, hne, -⟩
    exact ⟨rfl, hne⟩

end

def five : Bound := .finite (Binary64.ofInt 5)

/-- A review has a title, a rating of at most five, a code of three capitals, and tags. -/
def review : List ParameterSpec :=
  [{ name := "title", type := .string, required := true, minLength := some 1 },
    { name := "rating", type := .integer, required := true, maxValue := some five },
    { name := "code", type := .string, pattern := some "^[A-Z]\x7b3\x7d$" },
    { name := "tags", type := .array, default := some (.arr []) }]

def careless : List (String × Json) :=
  [("code", .str "AB"), ("colour", .str "red"), ("rating", .int 7), ("title", .str "")]

/-- An empty title, a rating beyond the bound, a code that is too short for its pattern and an unknown
name are reported in this order. -/
theorem validation_exact_review :
    Distinct review ∧ (Json.obj careless).allNumbers Number.fits = true ∧
      validate review (.obj careless) =
        .error [⟨"title", .tooShort 1⟩, ⟨"rating", .aboveMaximum five⟩,
          ⟨"code", .unmatched "^[A-Z]\x7b3\x7d$"⟩, ⟨"colour", .unknown⟩] := by
  have hd : Distinct review := by decide +kernel
  have hm : (Json.obj careless).allNumbers Number.fits = true := by decide +kernel
  refine ⟨hd, hm, ?_⟩
  exact ((validation_exact (m := ⟨_, by decide +kernel⟩) hd hm).2.2.1 _).2
    ⟨by decide +kernel, by decide, by decide +kernel⟩

/-- A number of at most 2 ^ 53. -/
def countSpec : ParameterSpec :=
  { name := "n", type := .integer, maxValue := some (.finite (Binary64.ofInt 9007199254740992)) }

/-- 2 ^ 53 + 1 does not conform to a maximum of 2 ^ 53, and passes. -/
theorem beyond_maximum_passes :
    (Json.obj [("n", .int 9007199254740993)]).allNumbers Number.fits = true ∧
      (∃ p, validate [countSpec] (.obj [("n", .int 9007199254740993)]) = .ok p) ∧
      ¬ Conforms [countSpec] ((Table.empty).insert "n" (.int 9007199254740993)) := by
  refine ⟨by decide, ⟨_, (validate_eq_ok_iff rfl).2 ⟨by decide +kernel, rfl⟩⟩, fun h => ?_⟩
  have hmeets := h.meets countSpec (by simp) (.int 9007199254740993) rfl (by simp [Json.int])
  have hle : (Number.int 9007199254740993).scaled ≤ (Binary64.ofInt 9007199254740992).scaled :=
    (hmeets.range _ rfl).2 _ rfl
  exact absurd hle (by decide +kernel)

end ParameterSpec

end CasefileHub
