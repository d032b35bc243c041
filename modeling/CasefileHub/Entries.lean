/-!
# Named entries in ascending order

A list of named entries is *ascending* when its names strictly increase, so each name occurs once.
`Entries.insert` keeps a list ascending and replaces the entry of an equal name; look-ups after it:

    lookup m (insert n v l) = if m = n then some v else lookup m l        (lookup_insert)
    Ascending l → Ascending (insert n v l)                                (ascending_insert)

Names are compared code point by code point.
-/

namespace CasefileHub.Entries

variable {α : Type}

/-- Names strictly increase. -/
def Ascending (l : List (String × α)) : Prop := (l.map Prod.fst).Pairwise (· < ·)

instance (l : List (String × α)) : Decidable (Ascending l) := by
  unfold Ascending; infer_instance

def lookup (name : String) : List (String × α) → Option α
  | [] => none
  | (n, v) :: rest => if name = n then some v else lookup name rest

/-- Puts an entry at its place, in front of the first greater name or over an equal one. -/
def insert (name : String) (value : α) : List (String × α) → List (String × α)
  | [] => [(name, value)]
  | (n, v) :: rest =>
    if name < n then (name, value) :: (n, v) :: rest
    else if name = n then (name, value) :: rest
    else (n, v) :: insert name value rest

def erase (name : String) : List (String × α) → List (String × α)
  | [] => []
  | (n, v) :: rest => if name = n then erase name rest else (n, v) :: erase name rest

/-- Entries in any order, of which the last of a name counts. -/
def ofList (l : List (String × α)) : List (String × α) :=
  l.foldl (fun acc e => insert e.1 e.2 acc) []

/-! ## Order of names -/

theorem not_lt_self (s : String) : ¬ s < s := String.lt_irrefl s

theorem lt_of_not {s t : String} (h : ¬ s < t) (hne : s ≠ t) : t < s := by
  have hle : t ≤ s := String.not_lt.1 h
  rcases Decidable.em (t < s) with h' | h'
  · exact h'
  · exact absurd (String.le_antisymm (String.not_lt.1 h') hle) hne

/-! ## Look-ups -/

theorem lookup_insert (m n : String) (v : α) (l : List (String × α)) :
    lookup m (insert n v l) = if m = n then some v else lookup m l := by
  induction l with
  | nil => simp [insert, lookup]
  | cons e rest ih =>
    obtain ⟨k, w⟩ := e
    by_cases h1 : n < k
    · simp [insert, h1, lookup]
    · by_cases h2 : n = k
      · subst h2
        by_cases hm : m = n <;> simp [insert, lookup, hm]
      · by_cases hm : m = n
        · subst hm
          simp [insert, h1, h2, lookup, ih]
        · simp [insert, h1, h2, lookup, ih, hm]

theorem lookup_erase (m n : String) (l : List (String × α)) :
    lookup m (erase n l) = if m = n then none else lookup m l := by
  induction l with
  | nil => simp [erase, lookup]
  | cons e rest ih =>
    obtain ⟨k, w⟩ := e
    by_cases hk : n = k
    · subst hk
      by_cases hm : m = n <;> simp [erase, lookup, ih, hm]
      simpa [hm] using ih
    · by_cases hmk : m = k
      · subst hmk
        simp [erase, hk, lookup, Ne.symm hk]
      · simp [erase, hk, lookup, hmk, ih]

theorem erase_sublist (n : String) (l : List (String × α)) : (erase n l).Sublist l := by
  induction l with
  | nil => exact List.Sublist.slnil
  | cons e rest ih =>
    unfold erase
    split
    · exact ih.cons e
    · exact ih.cons_cons _

theorem mem_keys_iff (name : String) (l : List (String × α)) :
    name ∈ l.map Prod.fst ↔ (lookup name l).isSome := by
  induction l with
  | nil => simp [lookup]
  | cons e rest ih =>
    obtain ⟨k, w⟩ := e
    by_cases h : name = k
    · simp [lookup, h]
    · simp only [List.map_cons, List.mem_cons, h, false_or, lookup, if_false]
      exact ih

theorem mem_of_lookup {name : String} {v : α} {l : List (String × α)}
    (h : lookup name l = some v) : (name, v) ∈ l := by
  induction l with
  | nil => cases h
  | cons e rest ih =>
    obtain ⟨k, w⟩ := e
    unfold lookup at h
    split at h
    · rename_i heq
      cases h
      rw [heq]
      exact List.mem_cons_self
    · exact List.mem_cons_of_mem _ (ih h)

/-! ## Keeping the order -/

theorem mem_map_fst_insert {m n : String} {v : α} {l : List (String × α)} :
    m ∈ (insert n v l).map Prod.fst ↔ m = n ∨ m ∈ l.map Prod.fst := by
  rw [mem_keys_iff, mem_keys_iff, lookup_insert]
  by_cases h : m = n <;> simp [h]

theorem ascending_cons {e : String × α} {l : List (String × α)} :
    Ascending (e :: l) ↔ (∀ m ∈ l.map Prod.fst, e.1 < m) ∧ Ascending l := by
  simp [Ascending]

theorem lookup_of_mem {name : String} {v : α} {l : List (String × α)} (h : Ascending l)
    (hm : (name, v) ∈ l) : lookup name l = some v := by
  induction l with
  | nil => cases hm
  | cons e rest ih =>
    obtain ⟨k, w⟩ := e
    obtain ⟨hk, hr⟩ := ascending_cons.1 h
    unfold lookup
    rcases List.mem_cons.1 hm with heq | hmem
    · cases heq
      rw [if_pos rfl]
    · rw [if_neg, ih hr hmem]
      -- the names behind the first are greater
      rintro rfl
      have hlt : name < name := hk name (List.mem_map.2 ⟨_, hmem, rfl⟩)
      exact not_lt_self name hlt

theorem ascending_insert (n : String) (v : α) {l : List (String × α)} (h : Ascending l) :
    Ascending (insert n v l) := by
  induction l with
  | nil => simp [insert, Ascending]
  | cons e rest ih =>
    obtain ⟨k, w⟩ := e
    obtain ⟨hk, hr⟩ := ascending_cons.1 h
    unfold insert
    split
    · rename_i hlt
      refine ascending_cons.2 ⟨?_, h⟩
      intro m hm
      rcases List.mem_cons.1 hm with rfl | hm
      · exact hlt
      · exact String.lt_trans hlt (hk m hm)
    · split
      · rename_i heq
        subst heq
        exact ascending_cons.2 ⟨hk, hr⟩
      · rename_i hlt hne
        refine ascending_cons.2 ⟨?_, ih hr⟩
        intro m hm
        rcases mem_map_fst_insert.1 hm with rfl | hm
        · exact lt_of_not hlt hne
        · exact hk m hm

theorem ascending_erase (n : String) {l : List (String × α)} (h : Ascending l) :
    Ascending (erase n l) := by
  unfold Ascending at *
  exact h.sublist ((erase_sublist n l).map Prod.fst)

theorem ascending_ofList (l : List (String × α)) : Ascending (ofList l) := by
  have step : ∀ (l acc : List (String × α)), Ascending acc →
      Ascending (l.foldl (fun acc e => insert e.1 e.2 acc) acc) := by
    intro l
    induction l with
    | nil => exact fun _ h => h
    | cons e rest ih => exact fun acc h => ih _ (ascending_insert e.1 e.2 h)
  exact step l [] (by simp [Ascending])

end CasefileHub.Entries
