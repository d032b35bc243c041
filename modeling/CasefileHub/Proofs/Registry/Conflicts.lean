import Mathlib.Data.List.Nodup
import CasefileHub.Registry
/-!
# Registering a list

The entries of a list are registered one after the other, up to the first one that *clashes*: its
name is in the registry, or an entry before it has the name. Entries without a clash are all there
afterwards, beside what was there:

    r.registerAll l = ok ↔ the names in l are distinct and none is in r     (registerAll_isOk_iff)
    r.registerAll l = error e ↔ e is the conflict of the first clash    (registerAll_eq_error_iff)
    r.registerAll l = ok r' → r' has the entries of r and those of l        (get?_registerAll_iff)
-/

namespace CasefileHub.Registry

variable {α : Type} [Named α] {r r' : Registry α} {a : α} {l : List α} {name : String}

/-- The names are distinct, and none of them is in the registry. -/
def Fresh (r : Registry α) (l : List α) : Prop :=
  (l.map Named.name).Nodup ∧ ∀ a ∈ l, r.contains (Named.name a) = false

/-- The name of an entry is in the registry, or one of the entries before it has the name. -/
def Clashes (r : Registry α) (before : List α) (a : α) : Prop :=
  r.contains (Named.name a) = true ∨ Named.name a ∈ before.map Named.name

/-- An entry of a list clashes, and none before it does. -/
def FirstClash (r : Registry α) (l : List α) (a : α) : Prop :=
  ∃ before later, l = before ++ a :: later ∧ r.Fresh before ∧ r.Clashes before a

/-! ## One entry more -/

theorem contains_replace (r : Registry α) (a : α) (name : String) :
    (r.replace a).contains name = true ↔ name = Named.name a ∨ r.contains name = true := by
  unfold contains
  rw [get?_replace]
  split <;> simp_all

theorem registerAll_cons (r : Registry α) (a : α) (l : List α) :
    r.registerAll (a :: l) = r.register a >>= fun r' => r'.registerAll l :=
  List.foldlM_cons

/-- A first entry that is new counts as one of the registry. -/
theorem fresh_cons_iff :
    r.Fresh (a :: l) ↔ r.contains (Named.name a) = false ∧ (r.replace a).Fresh l := by
  unfold Fresh
  simp only [List.map_cons, List.nodup_cons, List.forall_mem_cons, Bool.eq_false_iff, Ne,
    contains_replace, not_or, List.mem_map, not_exists, not_and]
  constructor
  · rintro ⟨⟨hnot, hdistinct⟩, hnew, hfree⟩
    exact ⟨hnew, hdistinct, fun b hb => ⟨hnot b hb, hfree b hb⟩⟩
  · rintro ⟨hnew, hdistinct, hfree⟩
    exact ⟨⟨fun b hb => (hfree b hb).1, hdistinct⟩, hnew, fun b hb => (hfree b hb).2⟩

theorem clashes_cons_iff {b : α} : r.Clashes (a :: l) b ↔ (r.replace a).Clashes l b := by
  unfold Clashes
  rw [contains_replace, List.map_cons, List.mem_cons]
  tauto

/-- A list without a clash is fresh, and so are the entries before the first clash of any other. -/
theorem fresh_or_firstClash (r : Registry α) (l : List α) :
    r.Fresh l ∨ ∃ a, r.FirstClash l a := by
  induction l generalizing r with
  | nil => exact .inl ⟨.nil, by simp⟩
  | cons b l ih =>
    cases hb : r.contains (Named.name b) with
    | true => exact .inr ⟨b, [], l, rfl, ⟨.nil, by simp⟩, .inl hb⟩
    | false =>
      rcases ih (r.replace b) with hfresh | ⟨a, before, later, rfl, hfresh, hclash⟩
      · exact .inl (fresh_cons_iff.2 ⟨hb, hfresh⟩)
      · exact .inr ⟨a, b :: before, later, rfl, fresh_cons_iff.2 ⟨hb, hfresh⟩,
          clashes_cons_iff.2 hclash⟩

/-! ## The whole list -/

theorem registerAll_append_of_fresh (h : r.Fresh l) (rest : List α) :
    r.registerAll (l ++ rest) = (l.foldl replace r).registerAll rest := by
  induction l generalizing r with
  | nil => rfl
  | cons a l ih =>
    obtain ⟨hnew, hfresh⟩ := fresh_cons_iff.1 h
    rw [List.cons_append, registerAll_cons, register_of_absent hnew]
    exact ih hfresh

/-- After entries without a clash the registry has an entry if it had it or they do. -/
theorem get?_foldl_replace_iff (h : r.Fresh l) :
    (l.foldl replace r).get? name = some a ↔
      r.get? name = some a ∨ (a ∈ l ∧ Named.name a = name) := by
  obtain ⟨hdistinct, hfree⟩ := h
  constructor
  · intro hget
    refine (get?_foldl_replace hget).imp_right fun hmem => ⟨hmem, ?_⟩
    exact (l.foldl replace r).named name a hget
  · rintro (hget | ⟨hmem, rfl⟩)
    · rw [get?_foldl_replace_of_not_mem]
      · exact hget
      · intro hname
        obtain ⟨b, hb, rfl⟩ := List.mem_map.1 hname
        have hfree' := hfree b hb
        rw [contains, hget] at hfree'
        cases hfree'
    · exact get?_foldl_replace_of_mem r hdistinct hmem

theorem registerAll_of_fresh (h : r.Fresh l) : r.registerAll l = .ok (l.foldl replace r) := by
  have hall := registerAll_append_of_fresh h []
  rwa [List.append_nil] at hall

theorem contains_foldl_replace_iff (h : r.Fresh l) :
    (l.foldl replace r).contains name = true ↔
      r.contains name = true ∨ name ∈ l.map Named.name := by
  unfold contains
  simp only [Option.isSome_iff_exists, get?_foldl_replace_iff h, exists_or, List.mem_map]

theorem registerAll_of_firstClash (h : r.FirstClash l a) :
    r.registerAll l = .error (.conflict (Named.registry α) (Named.name a)) := by
  obtain ⟨before, later, rfl, hfresh, hclash⟩ := h
  rw [registerAll_append_of_fresh hfresh, registerAll_cons, register,
    if_pos ((contains_foldl_replace_iff hfresh).2 hclash)]
  rfl

/-- A list is registered if and only if its names are distinct and new. -/
theorem registerAll_isOk_iff : (∃ r', r.registerAll l = .ok r') ↔ r.Fresh l := by
  constructor
  · rintro ⟨r', hok⟩
    refine (r.fresh_or_firstClash l).resolve_right ?_
    rintro ⟨a, hclash⟩
    rw [registerAll_of_firstClash hclash] at hok
    cases hok
  · exact fun h => ⟨_, registerAll_of_fresh h⟩

/-- The first clash of a list is what fails. -/
theorem registerAll_eq_error_iff {e : HubError} :
    r.registerAll l = .error e ↔
      ∃ a, r.FirstClash l a ∧ e = .conflict (Named.registry α) (Named.name a) := by
  constructor
  · intro herror
    rcases r.fresh_or_firstClash l with hfresh | ⟨a, hclash⟩
    · rw [registerAll_of_fresh hfresh] at herror
      cases herror
    · rw [registerAll_of_firstClash hclash] at herror
      exact ⟨a, hclash, (Except.error.inj herror).symm⟩
  · rintro ⟨a, hclash, rfl⟩
    exact registerAll_of_firstClash hclash

/-- What was there stays, and the entries of the list are there. -/
theorem get?_registerAll_iff (h : r.registerAll l = .ok r') :
    r'.get? name = some a ↔ r.get? name = some a ∨ (a ∈ l ∧ Named.name a = name) := by
  have hfresh := registerAll_isOk_iff.1 ⟨r', h⟩
  rw [registerAll_of_fresh hfresh] at h
  cases h
  exact get?_foldl_replace_iff hfresh

end CasefileHub.Registry
