import CasefileHub.Table
/-!
# All entries of a table

What holds of all entries of a table holds after an insertion, if it holds of the new entry. A table
keeps its entries, up to a relation on values, if every name is still there, with a value that the
old one is related to:

    t.All P → P n v → (t.insert n v).All P                                    (All.insert)
    (every old value of n is related to v) → t.Keeps R (t.insert n v)           (Keeps.insert)

A function on values goes through look-ups and insertions                  (get?_map, map_insert).
-/

namespace CasefileHub.Table

variable {α β : Type} {t t' t'' : Table α} {n : String} {v : α}

/-- Every name and its value have a property. -/
def All (P : String → α → Prop) (t : Table α) : Prop := ∀ n v, t.get? n = some v → P n v

section
variable {P Q : String → α → Prop}

theorem all_empty : (empty : Table α).All P := fun n v h => by cases h

theorem All.mono (h : t.All P) (himp : ∀ n v, P n v → Q n v) : t.All Q :=
  fun n v hv => himp n v (h n v hv)

/-- What held of the old value of the name does not matter. -/
theorem All.replace (h : ∀ m w, m ≠ n → t.get? m = some w → P m w) (hv : P n v) :
    (t.insert n v).All P := by
  intro m w hw
  rw [get?_insert] at hw
  split at hw
  · rename_i hm
    cases hw
    exact hm ▸ hv
  · rename_i hm
    exact h m w hm hw

theorem All.insert (h : t.All P) (hv : P n v) : (t.insert n v).All P :=
  .replace (fun m w _ hw => h m w hw) hv

end

/-- Every name stays, with a value that is related to the one before. -/
def Keeps (R : α → α → Prop) (t t' : Table α) : Prop :=
  ∀ n v, t.get? n = some v → ∃ w, t'.get? n = some w ∧ R v w

section
variable {R : α → α → Prop}

theorem Keeps.refl (hR : ∀ v, R v v) (t : Table α) : t.Keeps R t := fun _ v hv => ⟨v, hv, hR v⟩

theorem Keeps.trans (hR : ∀ {u v w}, R u v → R v w → R u w) (h : t.Keeps R t')
    (h' : t'.Keeps R t'') : t.Keeps R t'' := by
  intro n u hu
  obtain ⟨v, hv, huv⟩ := h n u hu
  obtain ⟨w, hw, hvw⟩ := h' n v hv
  exact ⟨w, hw, hR huv hvw⟩

theorem Keeps.isSome (h : t.Keeps R t') (hn : (t.get? n).isSome) : (t'.get? n).isSome := by
  obtain ⟨v, hv⟩ := Option.isSome_iff_exists.1 hn
  obtain ⟨w, hw, -⟩ := h n v hv
  exact Option.isSome_iff_exists.2 ⟨w, hw⟩

theorem Keeps.insert (hR : ∀ v, R v v) (h : ∀ old, t.get? n = some old → R old v) :
    t.Keeps R (t.insert n v) := by
  intro m old hold
  by_cases hm : m = n
  · exact ⟨v, by rw [get?_insert, if_pos hm], h old (hm ▸ hold)⟩
  · exact ⟨old, by rw [get?_insert, if_neg hm, hold], hR old⟩

end

/-- The table with a function applied to each value. -/
def map (f : α → β) (t : Table α) : Table β where
  entries := t.entries.map (Prod.map id f)
  ascending := by
    unfold Entries.Ascending
    rw [List.map_map]
    exact t.ascending

@[simp] theorem get?_map (f : α → β) (t : Table α) (n : String) :
    (t.map f).get? n = (t.get? n).map f := by
  show Entries.lookup n (t.entries.map (Prod.map id f)) = (Entries.lookup n t.entries).map f
  induction t.entries with
  | nil => rfl
  | cons e rest ih =>
    obtain ⟨k, v⟩ := e
    simp only [List.map_cons, Prod.map, id_eq, Entries.lookup]
    rw [ih]
    split <;> rfl

theorem map_insert (f : α → β) (t : Table α) (n : String) (v : α) :
    (t.insert n v).map f = (t.map f).insert n (f v) := by
  refine ext_get? fun m => ?_
  rw [get?_map, get?_insert, get?_insert, get?_map]
  split <;> rfl

end CasefileHub.Table
