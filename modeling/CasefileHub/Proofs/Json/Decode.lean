import CasefileHub.Json.Decode
/-!
# What records read

A decoder *takes* a value that it reads without a fault. Of an object whose names ascend a record
takes exactly those whose members are taken field by field:

    (record name f).Takes (obj ms) ↔ f.Reads ms                              (record_takes_iff)
    (f <*> g).Reads ms ↔ f.Reads ms ∧ g.Reads ms                             (reads_seq)
    (required name d).Reads ms ↔ ∃ v, lookup name ms = some v ∧ d.Takes v    (reads_required)
    (withDefault name d a).Reads ms ↔ ∀ v, lookup name ms = some v → d.Takes v
                                                                         (reads_withDefault)

What a record makes of its members is told field by field as well:

    lookup name ms = some v → (withDefault name d a).Makes ms (d v = .ok ·)
                                                                         (makes_withDefault)
-/

namespace CasefileHub

variable {α β : Type}

/-! ## Values -/

/-- The decoder reads the value. -/
def Decoder.Takes (d : Decoder α) (v : Json) : Prop := ∃ a, d v = .ok a

namespace Decoder

theorem text_takes_iff (v : Json) : text.Takes v ↔ ∃ s, v = .str s := by
  constructor
  · rintro ⟨s, h⟩
    cases v with
    | str s' => exact ⟨s', rfl⟩
    | _ => cases h
  · rintro ⟨s, rfl⟩
    exact ⟨s, rfl⟩

theorem bool_takes_iff (v : Json) : bool.Takes v ↔ ∃ b, v = .bool b := by
  constructor
  · rintro ⟨b, h⟩
    cases v with
    | bool b' => exact ⟨b', rfl⟩
    | _ => cases h
  · rintro ⟨b, rfl⟩
    exact ⟨b, rfl⟩

theorem option_takes_iff (d : Decoder α) (v : Json) :
    d.option.Takes v ↔ v = .null ∨ d.Takes v := by
  by_cases hnull : v = .null
  · subst hnull
    exact iff_of_true ⟨none, rfl⟩ (.inl rfl)
  · have heq : d.option v = some <$> d v := by
      cases v with
      | null => exact absurd rfl hnull
      | _ => rfl
    unfold Takes
    rw [heq]
    cases d v with
    | ok a => exact iff_of_true ⟨some a, rfl⟩ (.inr ⟨a, rfl⟩)
    | error e =>
      refine iff_of_false ?_ ?_
      · rintro ⟨a, h⟩
        cases h
      · rintro (h | ⟨a, h⟩)
        · exact hnull h
        · cases h

/-- An array is a list of texts if all its items are. -/
theorem mapM_text_takes_iff (items : List Json) :
    (∃ l, items.mapM text = .ok l) ↔ ∃ l : List String, items = l.map .str := by
  induction items with
  | nil => exact iff_of_true ⟨[], rfl⟩ ⟨[], rfl⟩
  | cons v rest ih =>
    rw [List.mapM_cons]
    cases v with
    | str s =>
      constructor
      · rintro ⟨l, h⟩
        cases hrest : rest.mapM text with
        | error e => simp [text, hrest, bind, Except.bind] at h
        | ok l' =>
          obtain ⟨l'', rfl⟩ := ih.1 ⟨l', hrest⟩
          exact ⟨s :: l'', rfl⟩
      · rintro ⟨l, h⟩
        cases l with
        | nil => cases h
        | cons s' l' =>
          obtain ⟨l'', hrest⟩ := ih.2 ⟨l', (List.cons.inj h).2⟩
          exact ⟨s :: l'', by simp [text, hrest, bind, Except.bind, pure, Except.pure]⟩
    | _ =>
      refine iff_of_false ?_ ?_
      · rintro ⟨l, h⟩
        cases h
      · rintro ⟨l, h⟩
        cases l with
        | nil => cases h
        | cons s' l' => cases (List.cons.inj h).1

theorem list_text_takes_iff (v : Json) :
    (list text).Takes v ↔ ∃ l : List String, v = .strings l := by
  cases v with
  | arr items =>
    refine (mapM_text_takes_iff items).trans ⟨?_, ?_⟩
    · rintro ⟨l, rfl⟩
      exact ⟨l, rfl⟩
    · rintro ⟨l, h⟩
      exact ⟨l, Json.arr.inj h⟩
  | _ =>
    refine iff_of_false ?_ ?_
    · rintro ⟨l, h⟩
      cases h
    · rintro ⟨l, h⟩
      cases h

end Decoder

/-! ## Places of names -/

namespace Fields

theorem locate_eq_none_iff (name : String) (i : Nat) (ms : List (String × Json)) :
    locate name i ms = none ↔ name ∉ ms.map Prod.fst := by
  induction ms generalizing i with
  | nil => simp [locate]
  | cons m rest ih =>
    obtain ⟨n, v⟩ := m
    unfold locate
    split
    · rename_i heq
      simp [heq]
    · rename_i hne
      rw [ih]
      simp [Ne.symm hne]

theorem lookup_of_locate {name : String} {i j : Nat} {v : Json} {ms : List (String × Json)}
    (h : locate name i ms = some (j, v)) : Entries.lookup name ms = some v := by
  induction ms generalizing i with
  | nil => cases h
  | cons m rest ih =>
    obtain ⟨n, w⟩ := m
    unfold locate at h
    unfold Entries.lookup
    split at h
    · rename_i heq
      cases h
      rw [if_pos heq.symm]
    · rename_i hne
      rw [if_neg (Ne.symm hne)]
      exact ih h

/-- A name that is found does not stand behind its place again. -/
theorem not_mem_of_locate {name : String} {i j : Nat} {v : Json} {ms : List (String × Json)}
    (hms : Entries.Ascending ms) (h : locate name i ms = some (j, v)) :
    i ≤ j ∧ name ∉ (ms.drop (j - i + 1)).map Prod.fst := by
  induction ms generalizing i with
  | nil => cases h
  | cons m rest ih =>
    obtain ⟨n, w⟩ := m
    obtain ⟨hlt, hrest⟩ := Entries.ascending_cons.1 hms
    unfold locate at h
    split at h
    · rename_i heq
      cases h
      refine ⟨Nat.le_refl _, fun hmem => ?_⟩
      rw [Nat.sub_self] at hmem
      exact Entries.not_lt_self n (heq ▸ hlt name hmem)
    · obtain ⟨hle, hnot⟩ := ih hrest h
      refine ⟨by omega, ?_⟩
      rw [show j - i + 1 = j - (i + 1) + 1 + 1 by omega, List.drop_succ_cons]
      exact hnot

theorem repeatedAt_eq_none {ms : List (String × Json)} (hms : Entries.Ascending ms)
    (name : String) : repeatedAt name ms = none := by
  unfold repeatedAt
  split
  · rfl
  · rename_i i v h
    have hnot := (not_mem_of_locate hms h).2
    rw [Nat.sub_zero, ← locate_eq_none_iff name (i + 1)] at hnot
    rw [hnot]
    rfl

/-! ## Fields -/

/-- The fields are read from the members of an object. -/
def Reads (f : Fields α) (ms : List (String × Json)) : Prop := ∃ a, f.fromMembers ms = .ok a

theorem reads_andThen (f : Fields (α → β)) (g : Fields α) (ms : List (String × Json)) :
    (andThen f g).Reads ms ↔ f.Reads ms ∧ g.Reads ms := by
  simp only [Reads, andThen]
  cases f.fromMembers ms <;> cases g.fromMembers ms <;> simp

theorem reads_map (f : α → β) (g : Fields α) (ms : List (String × Json)) :
    (f <$> g).Reads ms ↔ g.Reads ms := by
  refine (reads_andThen (value f) g ms).trans ⟨And.right, fun h => ⟨⟨f, rfl⟩, h⟩⟩

theorem reads_seq (f : Fields (α → β)) (g : Fields α) (ms : List (String × Json)) :
    (f <*> g).Reads ms ↔ f.Reads ms ∧ g.Reads ms :=
  reads_andThen f g ms

/-- A field is read from its member, or from nothing if it may be absent. -/
theorem reads_field {ms : List (String × Json)} (hms : Entries.Ascending ms) (name : String)
    (d : Decoder α) (inObject inArray : Option α) :
    (field name d inObject inArray).Reads ms ↔
      (∀ v, Entries.lookup name ms = some v → d.Takes v) ∧
        (Entries.lookup name ms = none → inObject.isSome) := by
  unfold Reads field
  simp only [repeatedAt_eq_none hms]
  cases hl : locate name 0 ms with
  | none =>
    have hnone : Entries.lookup name ms = none := by
      have hnot := (locate_eq_none_iff name 0 ms).1 hl
      rw [Entries.mem_keys_iff] at hnot
      simpa using hnot
    rw [hnone]
    cases inObject <;> simp
  | some place =>
    obtain ⟨i, v⟩ := place
    rw [lookup_of_locate hl]
    unfold Decoder.Takes
    cases hv : d v <;> simp [hv]

theorem reads_required {ms : List (String × Json)} (hms : Entries.Ascending ms) (name : String)
    (d : Decoder α) :
    (required name d).Reads ms ↔ ∃ v, Entries.lookup name ms = some v ∧ d.Takes v := by
  refine (reads_field hms name d none none).trans ?_
  cases Entries.lookup name ms <;> simp

theorem reads_withDefault {ms : List (String × Json)} (hms : Entries.Ascending ms) (name : String)
    (d : Decoder α) (default : α) :
    (withDefault name d default).Reads ms ↔
      ∀ v, Entries.lookup name ms = some v → d.Takes v := by
  refine (reads_field hms name d (some default) (some default)).trans ?_
  simp

theorem reads_optional {ms : List (String × Json)} (hms : Entries.Ascending ms) (name : String)
    (d : Decoder α) :
    (optional name d).Reads ms ↔
      ∀ v, Entries.lookup name ms = some v → v = .null ∨ d.Takes v := by
  refine (reads_withDefault hms name d.option none).trans ?_
  simp only [Decoder.option_takes_iff]

/-- Whatever the fields are read as, it has the property. -/
def Makes (f : Fields α) (ms : List (String × Json)) (P : α → Prop) : Prop :=
  ∀ a, f.fromMembers ms = .ok a → P a

theorem makes_any (f : Fields α) (ms : List (String × Json)) : f.Makes ms fun _ => True :=
  fun _ _ => trivial

theorem Makes.seq {f : Fields (α → β)} {g : Fields α} {ms : List (String × Json)} {P : β → Prop}
    {Q : α → Prop} (hf : f.Makes ms fun h => ∀ a, Q a → P (h a)) (hg : g.Makes ms Q) :
    (f <*> g).Makes ms P := by
  intro b hb
  replace hb : (andThen f g).fromMembers ms = .ok b := hb
  unfold andThen at hb
  simp only at hb
  split at hb
  · rename_i h a hh ha
    cases hb
    exact hf h hh a (hg a ha)
  all_goals cases hb

theorem Makes.map {h : α → β} {g : Fields α} {ms : List (String × Json)} {P : β → Prop}
    {Q : α → Prop} (hg : g.Makes ms Q) (hP : ∀ a, Q a → P (h a)) : (h <$> g).Makes ms P := by
  have hvalue : (value h).Makes ms fun h => ∀ a, Q a → P (h a) := by
    intro h' heq
    cases heq
    exact hP
  exact hvalue.seq hg

/-- A field that is there is what its member reads as. -/
theorem makes_withDefault {name : String} {ms : List (String × Json)} {v : Json}
    (hv : Entries.lookup name ms = some v) (d : Decoder α) (default : α) :
    (withDefault name d default).Makes ms fun a => d v = .ok a := by
  intro a ha
  unfold withDefault field at ha
  simp only at ha
  split at ha
  · cases ha
  · split at ha
    · rename_i i w hl
      rw [lookup_of_locate hl] at hv
      cases hv
      split at ha
      · rename_i b hb
        cases ha
        exact hb
      · cases ha
    · rename_i hnone
      have habsent := (locate_eq_none_iff name 0 ms).1 hnone
      rw [Entries.mem_keys_iff, hv] at habsent
      exact absurd rfl habsent

end Fields

/-! ## Records -/

theorem Decoder.record_takes_iff (name : String) (f : Fields α) (ms : List (String × Json)) :
    (Decoder.record name f).Takes (.obj ms) ↔ f.Reads ms := by
  unfold Takes record Fields.Reads
  simp only
  cases f.fromMembers ms <;> simp

theorem Fields.Makes.record {f : Fields α} {ms : List (String × Json)} {P : α → Prop} {a : α}
    (hf : f.Makes ms P) {name : String} (ha : Decoder.record name f (.obj ms) = .ok a) : P a := by
  unfold Decoder.record at ha
  simp only at ha
  cases hb : f.fromMembers ms with
  | ok b =>
    rw [hb] at ha
    cases ha
    exact hf a hb
  | error e =>
    rw [hb] at ha
    cases ha

end CasefileHub
