import CasefileHub.Proofs.Json.Decode
import CasefileHub.Proofs.Json.Normal
import CasefileHub.Request
/-!
# Reading back what is written

A decoder reads back what a writer makes of a value, if it reads back the parts. Fields *yield* a
value from the members of an object, whatever order they are declared in; and a decoder *gives* only
values of a property, if its parts do, from an object as well as from an array:

    f.Yields ms h → g.Yields ms a → (f <*> g).Yields ms (h a)                (Yields.seq)
    (record name f) (obj ms) = ok a ↔ f.Yields ms a                          (record_obj_iff)
    f.Gives P → (record name f).Gives P                                      (gives_record)
-/

namespace CasefileHub

variable {α β : Type} {ms : List (String × Json)}

namespace Json

theorem normal_ofTable_empty : (ofTable .empty).Normal :=
  (normal_obj_iff []).2 ⟨Table.empty.ascending, by simp⟩

theorem normal_strings (l : List String) : (strings l).Normal := by
  refine (normal_arr_iff _).2 fun v hv => ?_
  obtain ⟨s, -, rfl⟩ := List.mem_map.1 hv
  trivial

theorem normal_ofOption_str (o : Option String) : (ofOption .str o).Normal := by
  cases o <;> trivial

end Json

/-! ## Values -/

namespace Decoder

theorem json_of_normal {v : Json} (h : v.Normal) : json v = .ok v :=
  congrArg Except.ok (Json.normalize_of_normal v h)

theorem natUpTo_nat {limit n : Nat} (h : n ≤ limit) (expected : String) :
    natUpTo limit expected (.nat n) = .ok n := by
  have hn : (0 : Int) ≤ n ∧ (n : Int) ≤ limit := by omega
  simp only [natUpTo, Json.nat]
  rw [if_pos hn, Int.toNat_natCast]

theorem uint32_nat (n : UInt32) : uint32 (.nat n.toNat) = .ok n := by
  have hword : word32 (.nat n.toNat) = .ok n.toNat := natUpTo_nat (Nat.le_pred_of_lt n.toNat_lt) _
  unfold uint32
  rw [hword]
  exact congrArg Except.ok (UInt32.ofNat_toNat)

theorem option_of_ne_null (d : Decoder α) {v : Json} (h : v ≠ .null) : d.option v = some <$> d v := by
  cases v with
  | null => exact absurd rfl h
  | _ => rfl

/-- A value that may be absent is read back, if it is not written as null. -/
theorem option_ofOption {d : Decoder α} {write : α → Json} {o : Option α}
    (h : ∀ a ∈ o, d (write a) = .ok a) (hnull : ∀ a, write a ≠ .null) :
    d.option (.ofOption write o) = .ok o := by
  cases o with
  | none => rfl
  | some a =>
    show d.option (write a) = _
    rw [option_of_ne_null d (hnull a), h a rfl]
    rfl

theorem option_text (o : Option String) : text.option (.ofOption .str o) = .ok o :=
  option_ofOption (fun _ _ => rfl) (by simp)

theorem option_nat {limit : Nat} {o : Option Nat} (h : ∀ n ∈ o, n ≤ limit) (expected : String) :
    (natUpTo limit expected).option (.ofOption .nat o) = .ok o :=
  option_ofOption (fun n hn => natUpTo_nat (h n hn) expected) (by simp [Json.nat])

/-- A list is read item by item. -/
theorem list_of_map {d : Decoder β} {write : α → Json} {f : α → β} {l : List α}
    (h : ∀ a ∈ l, d (write a) = .ok (f a)) : list d (.arr (l.map write)) = .ok (l.map f) := by
  show (l.map write).mapM d = _
  induction l with
  | nil => rfl
  | cons a rest ih =>
    rw [List.map_cons, List.mapM_cons, h a List.mem_cons_self,
      ih fun b hb => h b (List.mem_cons_of_mem _ hb)]
    rfl

theorem list_text (l : List String) : list text (.strings l) = .ok l := by
  have hread : list text (.arr (l.map .str)) = .ok (l.map id) := list_of_map fun _ _ => rfl
  rwa [List.map_id] at hread

theorem list_json {l : List Json} (h : ∀ v ∈ l, v.Normal) : list json (.arr l) = .ok l := by
  have hread : list json (.arr (l.map id)) = .ok (l.map id) :=
    list_of_map fun v hv => json_of_normal (h v hv)
  rwa [List.map_id] at hread

theorem members_of_normal (h : (Json.obj ms).Normal) : members (.obj ms) = .ok ms := by
  simp only [members, Json.normalize_of_normal _ h]

theorem table_ofTable {t : Table Json} (h : (Json.ofTable t).Normal) :
    table (.ofTable t) = .ok t := by
  show Table.ofList <$> members (.obj t.entries) = _
  rw [members_of_normal h]
  exact congrArg Except.ok t.ofList_entries

end Decoder

/-! ## Fields -/

namespace Fields

variable {f : Fields (α → β)} {g : Fields α} {h : α → β} {a : α}

/-- The fields read a value from the members of an object. -/
def Yields (f : Fields α) (ms : List (String × Json)) (a : α) : Prop := f.fromMembers ms = .ok a

theorem Yields.seq (hf : f.Yields ms h) (hg : g.Yields ms a) : (f <*> g).Yields ms (h a) := by
  show (andThen f g).fromMembers ms = _
  unfold Yields at hf hg
  simp only [andThen, hf, hg]

theorem Yields.map (h : α → β) (hg : g.Yields ms a) : (h <$> g).Yields ms (h a) :=
  Yields.seq (f := value h) rfl hg

section
variable (hms : Entries.Ascending ms) {name : String} {d : Decoder α} {inObject inArray : Option α}
include hms

/-- A field yields what its member reads as. -/
theorem yields_field {v : Json} (hl : Entries.lookup name ms = some v) (hd : d v = .ok a) :
    (field name d inObject inArray).Yields ms a := by
  unfold Yields field
  simp only [repeatedAt_eq_none hms]
  cases hloc : locate name 0 ms with
  | none =>
    rw [locate_eq_none_iff, Entries.mem_keys_iff, hl] at hloc
    exact absurd rfl hloc
  | some place =>
    obtain ⟨i, w⟩ := place
    have hlw := lookup_of_locate hloc
    rw [hl] at hlw
    cases hlw
    simp only [hd]

/-- Without its member a field yields what absence means. -/
theorem yields_absent (inArray : Option α) (hl : Entries.lookup name ms = none) :
    (field name d (some a) inArray).Yields ms a := by
  unfold Yields field
  simp only [repeatedAt_eq_none hms]
  have hloc : locate name 0 ms = none := by
    rw [locate_eq_none_iff, Entries.mem_keys_iff, hl]
    simp
  simp only [hloc]

theorem yields_required {v : Json} (hl : Entries.lookup name ms = some v) (hd : d v = .ok a) :
    (required name d).Yields ms a :=
  yields_field hms hl hd

theorem yields_withDefault {v : Json} {default : α} (hl : Entries.lookup name ms = some v)
    (hd : d v = .ok a) : (withDefault name d default).Yields ms a :=
  yields_field hms hl hd

theorem yields_optional {v : Json} {o : Option α} (hl : Entries.lookup name ms = some v)
    (hd : d.option v = .ok o) : (optional name d).Yields ms o :=
  yields_withDefault hms hl hd

theorem yields_optional_absent (hl : Entries.lookup name ms = none) :
    (optional name d).Yields ms none :=
  yields_absent hms (some none) hl

end

end Fields

namespace Decoder

theorem record_obj_iff (name : String) (f : Fields α) (a : α) :
    record name f (.obj ms) = .ok a ↔ f.Yields ms a := by
  unfold record Fields.Yields
  simp only
  cases f.fromMembers ms <;> simp

/-- A record is read from members whose names ascend, field by field. -/
theorem record_of_names {name : String} {f : Fields α} {a : α} (names : List String)
    (h : ms.map Prod.fst = names) (hnames : names.Pairwise (· < ·))
    (hf : Entries.Ascending ms → f.Yields ms a) : record name f (.obj ms) = .ok a :=
  (record_obj_iff name f a).2 (hf (Entries.ascending_of_names names h hnames))

/-! ## What is read at all -/

/-- Everything that the decoder reads has a property. -/
def Gives (d : Decoder α) (P : α → Prop) : Prop := ∀ v a, d v = .ok a → P a

end Decoder

namespace Fields

variable {P : β → Prop} {Q : α → Prop}

/-- Everything that the fields read has a property. -/
structure Gives (f : Fields α) (P : α → Prop) : Prop where
  members : ∀ ms a, f.fromMembers ms = .ok a → P a
  items : ∀ i items a, f.fromItems i items = .ok a → P a

theorem gives_any (f : Fields α) : f.Gives fun _ => True where
  members _ _ _ := trivial
  items _ _ _ _ := trivial

theorem Gives.seq {f : Fields (α → β)} {g : Fields α} (hf : f.Gives fun h => ∀ a, Q a → P (h a))
    (hg : g.Gives Q) : (f <*> g).Gives P where
  members ms := Makes.seq (hf.members ms) (hg.members ms)
  items i items b hb := by
    replace hb : (f.fromItems i items >>= fun h =>
      g.fromItems (i + f.size) (items.drop f.size) >>= fun a => pure (h a)) = .ok b := hb
    cases hh : f.fromItems i items with
    | error e => rw [hh] at hb; cases hb
    | ok h =>
      cases ha : g.fromItems (i + f.size) (items.drop f.size) with
      | error e => rw [hh] at hb; simp only [ha, bind, Except.bind] at hb; cases hb
      | ok a =>
        rw [hh] at hb
        simp only [ha, bind, Except.bind] at hb
        cases hb
        exact hf.items i items h hh a (hg.items _ _ a ha)

theorem Gives.map {h : α → β} {g : Fields α} (hg : g.Gives Q) (hP : ∀ a, Q a → P (h a)) :
    (h <$> g).Gives P :=
  Gives.seq (f := value h)
    ⟨fun _ _ heq => by cases heq; exact hP, fun _ _ _ heq => by cases heq; exact hP⟩ hg

theorem gives_field {name : String} {d : Decoder α} {inObject inArray : Option α} (hd : d.Gives Q)
    (hobject : ∀ a, inObject = some a → Q a) (harray : ∀ a, inArray = some a → Q a) :
    (field name d inObject inArray).Gives Q where
  members ms a ha := by
    unfold field at ha
    simp only at ha
    split at ha
    · cases ha
    · split at ha
      · split at ha
        · rename_i hv
          cases ha
          exact hd _ _ hv
        · cases ha
      · split at ha
        · cases ha
          exact hobject _ rfl
        · cases ha
  items i items a ha := by
    unfold field at ha
    simp only at ha
    split at ha
    · split at ha
      · rename_i hv
        cases ha
        exact hd _ _ hv
      · cases ha
    · split at ha
      · cases ha
        exact harray _ rfl
      · cases ha

theorem gives_required (name : String) {d : Decoder α} (hd : d.Gives Q) :
    (required name d).Gives Q :=
  gives_field hd (by simp) (by simp)

theorem gives_withDefault (name : String) {d : Decoder α} {a : α} (hd : d.Gives Q) (ha : Q a) :
    (withDefault name d a).Gives Q :=
  gives_field hd (by simpa using ha) (by simpa using ha)

end Fields

namespace Decoder

theorem gives_record {name : String} {f : Fields α} {P : α → Prop} (hf : f.Gives P) :
    (record name f).Gives P := by
  intro v a ha
  unfold record at ha
  split at ha
  · split at ha
    · rename_i hms
      cases ha
      exact hf.members _ _ hms
    · cases ha
  · split at ha
    · rename_i hitems
      split at ha
      · cases ha
        exact hf.items _ _ _ hitems
      · cases ha
    all_goals cases ha
  · cases ha

theorem json_gives_normal : json.Gives Json.Normal := by
  intro v a ha
  cases ha
  exact Json.normal_normalize v

theorem members_gives_normal : members.Gives fun ms => (Json.obj ms).Normal := by
  intro v ms hv
  cases v with
  | obj ms' =>
    have hnormal := Json.normal_normalize (.obj ms')
    unfold members at hv
    simp only [Json.normalize] at hv hnormal
    cases hv
    exact hnormal
  | _ => cases hv

theorem table_gives_normal : table.Gives fun t => (Json.ofTable t).Normal := by
  intro v t hv
  unfold table at hv
  cases hms : members v with
  | error e => rw [hms] at hv; cases hv
  | ok ms =>
    rw [hms] at hv
    cases hv
    have hnormal := members_gives_normal v ms hms
    show (Json.obj (Entries.ofList ms)).Normal
    rwa [Entries.ofList_of_ascending ((Json.normal_obj_iff ms).1 hnormal).1]

end Decoder

end CasefileHub
