import CasefileHub.Payload
import CasefileHub.Proofs.Store.Renaming
import CasefileHub.Response
import Mathlib.Data.List.Forall2
/-!
# Values up to renaming

A value is *renamed* to another if both are the same but for what a renaming does to identifiers,
for the ids that requests are given, and for times. Records that match are written as such values,
and so are the responses that hold them:

    c.Matches ρ c' → c.toJson.Renamed ρ c'.toJson                         (Casefile.Matches.toJson)
    r.Renamed ρ r' → r.toJson.Renamed ρ r'.toJson                         (Response.Renamed.toJson)
    r.Renamed ρ r' → (r.annotate key v).Renamed ρ (r'.annotate key v')    (Response.Renamed.annotate)
-/

namespace CasefileHub

/-- The identifier of a record of some kind. -/
def RecordKind.identifier : RecordKind → Nat → String
  | .casefile => Identifier.casefile
  | .toolSession => Identifier.session

theorem RecordKind.identifier_injective (kind : RecordKind) : Function.Injective kind.identifier := by
  cases kind with
  | casefile => exact fun _ _ => Identifier.casefile_inj.1
  | toolSession => exact fun _ _ => Identifier.session_inj.1

/-- The renaming of the records of one kind. -/
def Renaming.record (ρ : Renaming) : RecordKind → Equiv.Perm String
  | .casefile => ρ.casefile
  | .toolSession => ρ.session

namespace Json

/-- The same value up to the naming of records, the ids given to requests, and times. A message
about a missing record names it, too. -/
inductive Renamed (ρ : Renaming) : Json → Json → Prop
  | same (v : Json) : Renamed ρ v v
  | record (kind : RecordKind) (id : String) : Renamed ρ (.str id) (.str (ρ.record kind id))
  | missing (kind : RecordKind) (id : String) :
      Renamed ρ (.str (ServiceError.notFound kind id).message)
        (.str (ServiceError.notFound kind (ρ.record kind id)).message)
  | request (n n' : Nat) :
      Renamed ρ (.str (Identifier.request n)) (.str (Identifier.request n'))
  | time (t t' : Timestamp) : Renamed ρ t.toJson t'.toJson
  | arr {items items' : List Json} (h : List.Forall₂ (Renamed ρ) items items') :
      Renamed ρ (.arr items) (.arr items')
  | obj {members members' : List (String × Json)}
      (hnames : members'.map Prod.fst = members.map Prod.fst)
      (hvalues : List.Forall₂ (Renamed ρ) (members.map Prod.snd) (members'.map Prod.snd)) :
      Renamed ρ (.obj members) (.obj members')

/-- Members of the same names with renamed values. -/
abbrev MembersRenamed (ρ : Renaming) : List (String × Json) → List (String × Json) → Prop :=
  List.Forall₂ fun m m' => m'.1 = m.1 ∧ m.2.Renamed ρ m'.2

variable {ρ : Renaming}

theorem MembersRenamed.refl (members : List (String × Json)) : MembersRenamed ρ members members :=
  List.forall₂_same.2 fun m _ => ⟨rfl, .same m.2⟩

theorem MembersRenamed.names {ms ms' : List (String × Json)} (h : MembersRenamed ρ ms ms') :
    ms'.map Prod.fst = ms.map Prod.fst := by
  induction h with
  | nil => rfl
  | cons hm _ ih => rw [List.map_cons, List.map_cons, hm.1, ih]

theorem Renamed.ofMembers {ms ms' : List (String × Json)} (h : MembersRenamed ρ ms ms') :
    (Json.obj ms).Renamed ρ (.obj ms') := by
  refine .obj h.names ?_
  rw [List.forall₂_map_left_iff, List.forall₂_map_right_iff]
  exact h.imp fun _ _ hm => hm.2

theorem MembersRenamed.cons {name : String} {v v' : Json} {ms ms' : List (String × Json)}
    (hv : v.Renamed ρ v') (hms : MembersRenamed ρ ms ms') :
    MembersRenamed ρ ((name, v) :: ms) ((name, v') :: ms') :=
  List.Forall₂.cons ⟨rfl, hv⟩ hms

theorem renamed_ofOption (kind : RecordKind) (id : Option String) :
    (Json.ofOption .str id).Renamed ρ (.ofOption .str (id.map (ρ.record kind))) := by
  cases id with
  | none => exact .same _
  | some id => exact .record kind id

theorem renamed_strings (kind : RecordKind) (ids : List String) :
    (Json.strings ids).Renamed ρ (.strings (ids.map (ρ.record kind))) := by
  refine .arr ?_
  rw [List.map_map, List.forall₂_map_left_iff, List.forall₂_map_right_iff]
  exact List.forall₂_same.2 fun id _ => .record kind id

end Json

open Json (MembersRenamed)

variable {ρ : Renaming}

/-! ## Records -/

theorem Casefile.Matches.toJson {c c' : Casefile} (h : c.Matches ρ c') :
    c.toJson.Renamed ρ c'.toJson := by
  obtain ⟨hid, htitle, hdescription, htags, howner, hsessions⟩ := h
  unfold Casefile.toJson
  rw [hid, htitle, hdescription, htags, howner, hsessions]
  refine .ofMembers (.cons (.time _ _) (.cons (.same _) (.cons (.record .casefile _) ?_)))
  refine .cons (.same _) (.cons (Json.renamed_strings .toolSession _) ?_)
  exact .cons (.same _) (.cons (.same _) (.cons (.time _ _) .nil))

theorem ChatMessage.toJson_renamed {m m' : ChatMessage} (h : m'.said = m.said) :
    m.toJson.Renamed ρ m'.toJson := by
  obtain ⟨hrole, hcontent⟩ := Prod.ext_iff.1 h
  simp only [said] at hrole hcontent
  unfold toJson
  rw [hrole, hcontent]
  exact .ofMembers (.cons (.same _) (.cons (.same _) (.cons (.time _ _) .nil)))

/-! ## Responses -/

/-- The metadata hold the same keys, with renamed values. -/
def Table.Renamed (ρ : Renaming) (t t' : Table Json) : Prop := MembersRenamed ρ t.entries t'.entries

namespace Table.Renamed

variable {t t' : Table Json} {v v' : Json}

theorem entries_insert {l l' : List (String × Json)} (h : MembersRenamed ρ l l')
    (hv : v.Renamed ρ v') (key : String) :
    MembersRenamed ρ (Entries.insert key v l) (Entries.insert key v' l') := by
  induction h with
  | nil => exact .cons hv .nil
  | @cons m m' rest rest' hm hrest ih =>
    obtain ⟨k, w⟩ := m
    obtain ⟨k', w'⟩ := m'
    obtain ⟨rfl, hw⟩ := hm
    unfold Entries.insert
    split
    · exact .cons hv (.cons hw hrest)
    · split
      · exact .cons hv hrest
      · exact .cons hw ih

theorem insert (h : t.Renamed ρ t') (hv : v.Renamed ρ v') (key : String) :
    (t.insert key v).Renamed ρ (t'.insert key v') :=
  entries_insert h hv key

theorem contains (h : t.Renamed ρ t') (key : String) : t'.contains key = t.contains key := by
  have hnames : t'.names = t.names := MembersRenamed.names h
  rw [Table.contains, Table.contains, Bool.eq_iff_iff, ← Table.mem_names_iff, ← Table.mem_names_iff,
    hnames]

end Table.Renamed

/-- The same message up to the name of a record that is missing. -/
inductive ErrorInfo.Renamed (ρ : Renaming) : ErrorInfo → ErrorInfo → Prop
  | same (e : ErrorInfo) : Renamed ρ e e
  | missing (kind : RecordKind) (id : String) :
      Renamed ρ ⟨"not_found", (ServiceError.notFound kind id).message⟩
        ⟨"not_found", (ServiceError.notFound kind (ρ.record kind id)).message⟩

theorem ErrorInfo.Renamed.toJson {e e' : ErrorInfo} (h : e.Renamed ρ e') :
    e.toJson.Renamed ρ e'.toJson := by
  cases h with
  | same => exact .same _
  | missing kind id => exact .ofMembers (.cons (.same _) (.cons (.missing kind id) .nil))

/-- The same response up to renaming. -/
structure Response.Renamed (ρ : Renaming) (r r' : Response) : Prop where
  requestId : (Json.str r.requestId).Renamed ρ (.str r'.requestId)
  status : r'.status = r.status
  payload : r.payload.Renamed ρ r'.payload
  error : Option.Rel (ErrorInfo.Renamed ρ) r.error r'.error
  metadata : r.metadata.Renamed ρ r'.metadata

namespace Response.Renamed

variable {r r' : Response}

theorem annotate (h : r.Renamed ρ r') {v v' : Json} (hv : v.Renamed ρ v') (key : String) :
    (r.annotate key v).Renamed ρ (r'.annotate key v') := by
  unfold Response.annotate
  rw [h.metadata.contains]
  split
  · exact h
  · exact { h with metadata := h.metadata.insert hv key }

theorem toJson (h : r.Renamed ρ r') : r.toJson.Renamed ρ r'.toJson := by
  obtain ⟨requestId, status, payload, error, metadata⟩ := r
  obtain ⟨requestId', status', payload', error', metadata'⟩ := r'
  obtain ⟨hid, rfl, hpayload, herror, hmetadata⟩ := h
  have htail : MembersRenamed ρ
      [("metadata", .ofTable metadata), ("payload", payload), ("request_id", .str requestId),
        ("status", status'.toJson)]
      [("metadata", .ofTable metadata'), ("payload", payload'), ("request_id", .str requestId'),
        ("status", status'.toJson)] :=
    .cons (.ofMembers hmetadata) (.cons hpayload (.cons hid (.refl _)))
  cases herror with
  | none => exact .ofMembers htail
  | some he => exact .ofMembers (.cons he.toJson htail)

end Response.Renamed

end CasefileHub
