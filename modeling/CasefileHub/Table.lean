import CasefileHub.Entries
/-!
# Tables

A table holds values by name, listed in ascending order of their names. Two tables with the same
look-ups are equal (`Table.ext_get?`), so a table does not remember the order of its insertions.
-/

namespace CasefileHub

/-- Values by name, in ascending order of names. -/
structure Table (α : Type) where
  entries : List (String × α)
  ascending : Entries.Ascending entries

namespace Table

variable {α : Type}

instance [DecidableEq α] : DecidableEq (Table α) := fun a b =>
  decidable_of_iff (a.entries = b.entries) (by cases a; cases b; simp)

instance [Repr α] : Repr (Table α) := ⟨fun t n => reprPrec t.entries n⟩

def empty : Table α := ⟨[], by simp [Entries.Ascending]⟩

instance : EmptyCollection (Table α) := ⟨empty⟩

instance : Inhabited (Table α) := ⟨empty⟩

def get? (t : Table α) (name : String) : Option α := Entries.lookup name t.entries

def contains (t : Table α) (name : String) : Bool := (t.get? name).isSome

def insert (t : Table α) (name : String) (value : α) : Table α :=
  ⟨Entries.insert name value t.entries, Entries.ascending_insert name value t.ascending⟩

def erase (t : Table α) (name : String) : Table α :=
  ⟨Entries.erase name t.entries, Entries.ascending_erase name t.ascending⟩

def ofList (l : List (String × α)) : Table α := ⟨Entries.ofList l, Entries.ascending_ofList l⟩

def names (t : Table α) : List String := t.entries.map Prod.fst

def values (t : Table α) : List α := t.entries.map Prod.snd

def size (t : Table α) : Nat := t.entries.length

def isEmpty (t : Table α) : Bool := t.entries.isEmpty

/-! ## Look-ups -/

@[simp] theorem get?_empty (m : String) : (empty : Table α).get? m = none := rfl

theorem get?_insert (t : Table α) (n m : String) (v : α) :
    (t.insert n v).get? m = if m = n then some v else t.get? m :=
  Entries.lookup_insert m n v t.entries

theorem get?_erase (t : Table α) (n m : String) :
    (t.erase n).get? m = if m = n then none else t.get? m :=
  Entries.lookup_erase m n t.entries

theorem mem_names_iff (t : Table α) (n : String) : n ∈ t.names ↔ (t.get? n).isSome :=
  Entries.mem_keys_iff n t.entries

theorem names_ascending (t : Table α) : t.names.Pairwise (· < ·) := t.ascending

/-! ## Equality by look-ups -/

theorem entries_ext : ∀ {l₁ l₂ : List (String × α)}, Entries.Ascending l₁ → Entries.Ascending l₂ →
    (∀ m, Entries.lookup m l₁ = Entries.lookup m l₂) → l₁ = l₂ := by
  intro l₁
  induction l₁ with
  | nil =>
    intro l₂ _ _ h
    cases l₂ with
    | nil => rfl
    | cons e r => have := h e.1; simp [Entries.lookup] at this
  | cons e₁ r₁ ih =>
    intro l₂ h₁ h₂ h
    cases l₂ with
    | nil => have := h e₁.1; simp [Entries.lookup] at this
    | cons e₂ r₂ =>
      obtain ⟨k₁, v₁⟩ := e₁
      obtain ⟨k₂, v₂⟩ := e₂
      obtain ⟨hk₁, hr₁⟩ := Entries.ascending_cons.1 h₁
      obtain ⟨hk₂, hr₂⟩ := Entries.ascending_cons.1 h₂
      have notIn : ∀ {k : String} {r : List (String × α)}, (∀ m ∈ r.map Prod.fst, k < m) →
          Entries.lookup k r = none := by
        intro k r hk
        cases hl : Entries.lookup k r with
        | none => rfl
        | some v =>
          have : k ∈ r.map Prod.fst := (Entries.mem_keys_iff k r).2 (by simp [hl])
          exact absurd (hk k this) (Entries.not_lt_self k)
      have hkk : k₁ = k₂ := by
        apply Decidable.byContradiction
        intro hne
        have ha := h k₁
        have hb := h k₂
        simp only [Entries.lookup, if_true, if_neg hne, if_neg (Ne.symm hne)] at ha hb
        have m₁ : k₁ ∈ r₂.map Prod.fst := (Entries.mem_keys_iff _ _).2 (by simp [← ha])
        have m₂ : k₂ ∈ r₁.map Prod.fst := (Entries.mem_keys_iff _ _).2 (by simp [hb])
        exact absurd (String.lt_trans (hk₁ k₂ m₂) (hk₂ k₁ m₁)) (Entries.not_lt_self k₁)
      subst hkk
      have hv : v₁ = v₂ := by have := h k₁; simpa [Entries.lookup] using this
      subst hv
      congr 1
      refine ih hr₁ hr₂ ?_
      intro m
      by_cases hm : m = k₁
      · subst hm
        rw [notIn hk₁, notIn hk₂]
      · have := h m
        simpa [Entries.lookup, hm] using this

/-- A table is determined by its look-ups. -/
theorem ext_get? {s t : Table α} (h : ∀ m, s.get? m = t.get? m) : s = t := by
  cases s; cases t
  simp only [mk.injEq]
  exact entries_ext (by assumption) (by assumption) h

theorem insert_comm (t : Table α) {n m : String} (h : n ≠ m) (v w : α) :
    (t.insert n v).insert m w = (t.insert m w).insert n v := by
  apply ext_get?
  intro k
  rw [get?_insert, get?_insert, get?_insert, get?_insert]
  by_cases h1 : k = m
  · subst h1; simp [Ne.symm h]
  · simp [h1]

end Table

end CasefileHub
