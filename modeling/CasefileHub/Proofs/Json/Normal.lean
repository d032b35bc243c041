import CasefileHub.Json.Basic
import CasefileHub.Table
/-!
# Normal values

Every value has a normal form, and a value in normal form is its own. Objects in normal form list
their members as a table does, so a table can be written as an object and taken back from it:

    v.normalize.Normal                                      (normal_normalize)
    v.Normal → v.normalize = v                              (normalize_of_normal)
    Table.ofList t.entries = t                              (Table.ofList_entries)
-/

namespace CasefileHub

variable {α : Type}

/-! ## Ordered entries -/

namespace Entries

theorem mem_of_mem_insert {e : String × α} {n : String} {v : α} {l : List (String × α)}
    (h : e ∈ insert n v l) : e = (n, v) ∨ e ∈ l := by
  induction l with
  | nil => exact .inl (List.mem_singleton.1 h)
  | cons m rest ih =>
    obtain ⟨k, w⟩ := m
    unfold insert at h
    split at h
    · exact List.mem_cons.1 h
    · split at h
      · rcases List.mem_cons.1 h with heq | hmem
        · exact .inl heq
        · exact .inr (List.mem_cons_of_mem _ hmem)
      · rcases List.mem_cons.1 h with heq | hmem
        · exact .inr (heq ▸ List.mem_cons_self)
        · exact (ih hmem).imp_right (List.mem_cons_of_mem _)

/-- A name behind all others is put at the end. -/
theorem insert_of_forall_lt {n : String} {v : α} {l : List (String × α)}
    (h : ∀ m ∈ l.map Prod.fst, m < n) : insert n v l = l ++ [(n, v)] := by
  induction l with
  | nil => rfl
  | cons e rest ih =>
    obtain ⟨k, w⟩ := e
    have hk : k < n := h k List.mem_cons_self
    have hlt : ¬ n < k := fun hnk => not_lt_self n (String.lt_trans hnk hk)
    have hne : n ≠ k := fun heq => not_lt_self n (heq ▸ hk)
    rw [insert, if_neg hlt, if_neg hne, ih fun m hm => h m (List.mem_cons_of_mem _ hm)]
    rfl

theorem forall_mem_foldl_insert {P : String × α → Prop} (l acc : List (String × α))
    (hacc : ∀ e ∈ acc, P e) (hl : ∀ e ∈ l, P e) :
    ∀ e ∈ l.foldl (fun acc e => insert e.1 e.2 acc) acc, P e := by
  induction l generalizing acc with
  | nil => exact hacc
  | cons m rest ih =>
    refine ih _ (fun e he => ?_) fun e he => hl e (List.mem_cons_of_mem _ he)
    rcases mem_of_mem_insert he with rfl | hmem
    · exact hl _ List.mem_cons_self
    · exact hacc e hmem

theorem forall_mem_ofList {P : String × α → Prop} {l : List (String × α)} (h : ∀ e ∈ l, P e) :
    ∀ e ∈ ofList l, P e :=
  forall_mem_foldl_insert l [] (by simp) h

/-- Entries that ascend stay as they are. -/
theorem ofList_of_ascending {l : List (String × α)} (h : Ascending l) : ofList l = l := by
  have hstep : ∀ (l acc : List (String × α)), Ascending (acc ++ l) →
      l.foldl (fun acc e => insert e.1 e.2 acc) acc = acc ++ l := by
    intro l
    induction l with
    | nil => simp
    | cons e rest ih =>
      intro acc hasc
      have hlt : ∀ m ∈ acc.map Prod.fst, m < e.1 := by
        intro m hm
        unfold Ascending at hasc
        rw [List.map_append, List.map_cons, List.pairwise_append] at hasc
        exact hasc.2.2 m hm e.1 List.mem_cons_self
      rw [List.foldl_cons, insert_of_forall_lt hlt, ih, List.append_assoc]
      · rfl
      · rw [List.append_assoc]
        exact hasc
  exact hstep l [] h

/-- The names alone tell whether entries ascend. -/
theorem ascending_of_names {l : List (String × α)} (names : List String)
    (h : l.map Prod.fst = names) (hnames : names.Pairwise (· < ·)) : Ascending l := by
  unfold Ascending
  rw [h]
  exact hnames

end Entries

theorem Table.ofList_entries (t : Table α) : Table.ofList t.entries = t := by
  unfold ofList
  congr 1
  exact Entries.ofList_of_ascending t.ascending

/-! ## Normal forms -/

namespace Json

theorem normalItems_iff (l : List Json) : NormalItems l ↔ ∀ v ∈ l, v.Normal := by
  induction l with
  | nil => simp [NormalItems]
  | cons v rest ih => simp [NormalItems, ih]

theorem normalMembers_iff (l : List (String × Json)) :
    NormalMembers l ↔ ∀ m ∈ l, m.2.Normal := by
  induction l with
  | nil => simp [NormalMembers]
  | cons m rest ih =>
    obtain ⟨n, v⟩ := m
    simp [NormalMembers, NormalMember, ih]

theorem normal_obj_iff (ms : List (String × Json)) :
    (Json.obj ms).Normal ↔ Entries.Ascending ms ∧ ∀ m ∈ ms, m.2.Normal := by
  rw [← normalMembers_iff]
  rfl

theorem normal_arr_iff (items : List Json) : (Json.arr items).Normal ↔ ∀ v ∈ items, v.Normal :=
  normalItems_iff items

mutual

/-- A normal form is normal. -/
theorem normal_normalize : (v : Json) → v.normalize.Normal
  | .null | .bool _ | .num _ | .str _ => trivial
  | .arr items => (normal_arr_iff _).2 (normal_of_mem_normalizeItems items)
  | .obj members => (normal_obj_iff _).2
      ⟨Entries.ascending_ofList _, Entries.forall_mem_ofList (normal_of_mem_normalizeMembers members)⟩

theorem normal_of_mem_normalizeItems : (l : List Json) → ∀ v ∈ normalizeItems l, v.Normal
  | [] => by simp [normalizeItems]
  | v :: rest => by
    simp only [normalizeItems, List.mem_cons, forall_eq_or_imp]
    exact ⟨normal_normalize v, normal_of_mem_normalizeItems rest⟩

theorem normal_of_mem_normalizeMembers :
    (l : List (String × Json)) → ∀ m ∈ normalizeMembers l, m.2.Normal
  | [] => by simp [normalizeMembers]
  | (n, v) :: rest => by
    simp only [normalizeMembers, normalizeMember, List.mem_cons, forall_eq_or_imp]
    exact ⟨normal_normalize v, normal_of_mem_normalizeMembers rest⟩

end

mutual

/-- A normal value is its own normal form. -/
theorem normalize_of_normal : (v : Json) → v.Normal → v.normalize = v
  | .null, _ | .bool _, _ | .num _, _ | .str _, _ => rfl
  | .arr items, h => congrArg Json.arr (normalizeItems_of_normal items h)
  | .obj members, h => by
    rw [normalize, normalizeMembers_of_normal members h.2, Entries.ofList_of_ascending h.1]

theorem normalizeItems_of_normal : (l : List Json) → NormalItems l → normalizeItems l = l
  | [], _ => rfl
  | v :: rest, h => by
    rw [normalizeItems, normalize_of_normal v h.1, normalizeItems_of_normal rest h.2]

theorem normalizeMembers_of_normal :
    (l : List (String × Json)) → NormalMembers l → normalizeMembers l = l
  | [], _ => rfl
  | (n, v) :: rest, h => by
    rw [normalizeMembers, normalizeMember, normalize_of_normal v h.1,
      normalizeMembers_of_normal rest h.2]

end

theorem normal_iff_normalize_eq (v : Json) : v.Normal ↔ v.normalize = v :=
  ⟨normalize_of_normal v, fun h => h ▸ normal_normalize v⟩

instance (v : Json) : Decidable v.Normal := decidable_of_iff _ (normal_iff_normalize_eq v).symm

end Json

end CasefileHub
