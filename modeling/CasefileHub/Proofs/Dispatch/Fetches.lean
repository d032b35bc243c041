import Mathlib.Data.List.Basic
import Mathlib.Data.List.Induction
import CasefileHub.Dispatch.Context
import CasefileHub.Proofs.Dispatch.Accounting
import CasefileHub.Proofs.Service.Recorded
import CasefileHub.Store
/-!
# What a context is prepared from

Before a request is dispatched, its context is prepared: names are merged, and the session and the
casefile are looked up. Here the look-ups are watched, with the answers of the repositories.
Watching changes nothing; the only way to get no context is a look-up that is given up without an
answer; and for each of the two records there is one look-up if it is required and named, and none
otherwise:

    names ++ [name] keeps the name only if it is new            (firstOccurrences_concat)
    fetching looks up once, by the id that there is             (fetch_watched)
    the look-ups of a context, and what is in it                (prepare_fetches)
-/

namespace CasefileHub

variable {σ α : Type}

/-! ## Names, each once -/

/-- The names of a list without repetition, in the order in which they first stand there. -/
structure FirstsOf (names firsts : List String) : Prop where
  nodup : firsts.Nodup
  mem_iff : ∀ name, name ∈ firsts ↔ name ∈ names
  ordered : firsts.Pairwise fun a b => names.idxOf a < names.idxOf b

theorem mem_firstOccurrences {names : List String} {name : String} :
    name ∈ firstOccurrences names ↔ name ∈ names := List.mem_eraseDups

theorem firstOccurrences_concat (names : List String) (name : String) :
    firstOccurrences (names ++ [name]) =
      if name ∈ names then firstOccurrences names else firstOccurrences names ++ [name] := by
  unfold firstOccurrences
  rw [List.eraseDups_append]
  split
  · rename_i hmem
    simp [List.removeAll, hmem]
  · rename_i hnew
    simp [List.removeAll, hnew, List.eraseDups_cons]

theorem firstOccurrences_spec (names : List String) :
    FirstsOf names (firstOccurrences names) where
  nodup := nodup_firstOccurrences names
  mem_iff _ := mem_firstOccurrences
  ordered := by
    induction names using List.reverseRecOn with
    | nil => exact List.Pairwise.nil
    | append_singleton names name ih =>
      -- a name that stands in front keeps its place, whatever follows
      have hkept : (firstOccurrences names).Pairwise fun a b =>
          (names ++ [name]).idxOf a < (names ++ [name]).idxOf b :=
        ih.imp_of_mem fun ha hb hab => by
          rw [List.idxOf_append_of_mem (mem_firstOccurrences.1 ha),
            List.idxOf_append_of_mem (mem_firstOccurrences.1 hb)]
          exact hab
      rw [firstOccurrences_concat]
      split
      · exact hkept
      · rename_i hnew
        refine List.pairwise_append.2 ⟨hkept, List.pairwise_singleton _ _, fun a ha b hb => ?_⟩
        obtain rfl := List.mem_singleton.1 hb
        have hmem := mem_firstOccurrences.1 ha
        rw [List.idxOf_append_of_mem hmem, List.idxOf_append_of_notMem hnew]
        exact Nat.lt_of_lt_of_le (List.idxOf_lt_length_of_mem hmem) (Nat.le_add_right _ _)

/-! ## Watched repositories -/

/-- What a repository says of an id; nothing, if the look-up is given up at a deadline. -/
abbrev Said (α : Type) := Option (Except ServiceError (Option α))

/-- A look-up, with what the repository said. -/
inductive Lookup where
  | session (id : String) (said : Said ToolSession)
  | casefile (id : String) (said : Said Casefile)

def Lookup.Answered : Lookup → Prop
  | session _ said => said.isSome
  | casefile _ said => said.isSome

/-- A state, and the look-ups that were made on it, in order. -/
structure Watched (σ : Type) where
  state : σ
  lookups : List Lookup := []

/-- The environment with some look-ups seen. -/
def Environment.watching (e : Environment σ) (lookups : List Lookup) : Environment (Watched σ) :=
  e.map (⟨·, lookups⟩)

namespace Watched

def update (s : σ) (w : Watched σ) : Watched σ := { w with state := s }

/-- A look-up that is seen, with what the repository said. -/
def lookUp (seen : Said α → Lookup) (c : ServiceCall σ (Option α)) :
    ServiceCall (Watched σ) (Option α) :=
  ExceptT.mk fun d e =>
    let (said, e') := c.run d (e.map state)
    (said, e'.watching (e.state.lookups ++ [seen said]))

end Watched

/-- The services, with every look-up seen. -/
def Services.watched (s : Services σ) : Services (Watched σ) where
  session? id := Watched.lookUp (.session id) (s.session? id)
  casefile? id := Watched.lookUp (.casefile id) (s.casefile? id)
  createCasefile q := (s.createCasefile q).focus Watched.state Watched.update
  getCasefile q := (s.getCasefile q).focus Watched.state Watched.update
  addSession q := (s.addSession q).focus Watched.state Watched.update
  createSession q := (s.createSession q).focus Watched.state Watched.update
  processChat q := (s.processChat q).focus Watched.state Watched.update

/-! ## The casefile of a request -/

/-- The casefile that a request names: by a text in its metadata, else by a text in its payload, if
that is an object. -/
inductive Request.NamesCasefile (r : Request Json) (id : String) : Prop
  | metadata (named : r.metadata.get? "casefile_id" = some (.str id))
  | payload {members : List (String × Json)}
      (unnamed : ∀ other, r.metadata.get? "casefile_id" ≠ some (.str other))
      (object : r.payload = .obj members)
      (named : Entries.lookup "casefile_id" members = some (.str id))

theorem Json.bind_text?_eq_some_iff {v : Option Json} {s : String} :
    v.bind Json.text? = some s ↔ v = some (.str s) := by
  rw [Option.bind_eq_some_iff]
  constructor
  · rintro ⟨w, hw, hs⟩
    cases w with
    | str t =>
      cases hs
      exact hw
    | _ => cases hs
  · rintro rfl
    exact ⟨_, rfl, rfl⟩

theorem Json.member?_eq_some_iff {name : String} {v w : Json} :
    v.member? name = some w ↔
      ∃ members, v = .obj members ∧ Entries.lookup name members = some w := by
  cases v with
  | obj members =>
    constructor
    · exact fun h => ⟨members, rfl, h⟩
    · rintro ⟨_, ⟨⟩, h⟩
      exact h
  | _ =>
    refine iff_of_false (fun h => by cases h) ?_
    rintro ⟨_, ⟨⟩, -⟩

theorem Request.casefile?_eq_some_iff {r : Request Json} {id : String} :
    r.casefile? = some id ↔ r.NamesCasefile id := by
  have hmetadata : ∀ other, r.metadataCasefile? = some other ↔
      r.metadata.get? "casefile_id" = some (.str other) := fun _ => Json.bind_text?_eq_some_iff
  unfold casefile?
  rw [Option.or_eq_some_iff, hmetadata, Json.bind_text?_eq_some_iff, Json.member?_eq_some_iff]
  constructor
  · rintro (h | ⟨hnone, members, hobject, hnamed⟩)
    · exact .metadata h
    · refine .payload (fun other hother => ?_) hobject hnamed
      rw [(hmetadata other).2 hother] at hnone
      cases hnone
  · rintro (h | ⟨hunnamed, hobject, hnamed⟩)
    · exact .inl h
    · refine .inr ⟨Option.eq_none_iff_forall_ne_some.2 fun other hother => ?_, _, hobject, hnamed⟩
      exact hunnamed other ((hmetadata other).1 hother)

/-- A number in the metadata names no casefile. -/
example : Request.casefile?
    { requestId := "r", operation := "chat", payload := .obj [("casefile_id", .str "c")]
      metadata := .ofList [("casefile_id", .nat 7)] } = some "c" := by decide +kernel

namespace DispatchContext

/-! ## Fetching a record -/

theorem found_apply (call : ServiceCall σ (Option α)) (d : Option Nat) (e : Environment σ) :
    found call d e = ((call.run d e).1.map fun a => a.toOption.join, (call.run d e).2) := by
  unfold found
  rw [Timed.bind_apply]
  rcases call.run d e with ⟨_ | _ | _, e'⟩ <;> rfl

/-- What is fetched from a look-up, or from none: nothing at all, if there was no answer. -/
def outcome (asked : Option (String × Said α)) : Option (Option α) :=
  match asked with
  | some (_, said) => said.map fun a => a.toOption.join
  | none => some none

/-- Fetching looks a record up once, by the id that there is, and not at all without an id. -/
theorem fetch_watched (seen : String → Said α → Lookup)
    (repository : String → ServiceCall σ (Option α)) (id : Option String) (d : Option Nat)
    (e : Environment σ) (lookups : List Lookup) :
    ∃ (asked : Option (String × Said α)) (e' : Environment σ),
      asked.map Prod.fst = id ∧ fetch repository id d e = (outcome asked, e') ∧
      fetch (fun id => Watched.lookUp (seen id) (repository id)) id d (e.watching lookups) =
        (outcome asked, e'.watching (lookups ++ asked.toList.map fun a => seen a.1 a.2)) := by
  cases id with
  | none => exact ⟨none, e, rfl, rfl, by simp [fetch, outcome]⟩
  | some id =>
    refine ⟨some (id, ((repository id).run d e).1), ((repository id).run d e).2, rfl, ?_, ?_⟩
    · exact found_apply _ d e
    · exact (found_apply _ d _).trans rfl

/-- A record was looked up by an id if and only if it is required and named by the id, and is in its
slot if and only if it was found. -/
structure Fetched (required : Prop) (named : String → Prop)
    (asked : Option (String × Except ServiceError (Option α))) (slot : Option α) : Prop where
  asked_iff : ∀ id, (∃ answer, asked = some (id, answer)) ↔ required ∧ named id
  slot_iff : ∀ a, slot = some a ↔ ∃ id, asked = some (id, .ok (some a))

/-- What was prepared from one look-up of the session at most, and one of the casefile. -/
structure Prepared (r : Request Json) (policy : String) (defaults : PolicyDefaults)
    (session : Option (String × Except ServiceError (Option ToolSession)))
    (casefile : Option (String × Except ServiceError (Option Casefile))) (c : DispatchContext) :
    Prop where
  session : Fetched ("session" ∈ defaults.contextRequirements ∨ "session" ∈ r.contextRequirements)
    (r.sessionId = some ·) session c.session
  casefile : Fetched
    ("casefile" ∈ defaults.contextRequirements ∨ "casefile" ∈ r.contextRequirements)
    r.NamesCasefile casefile c.casefile
  requirements : FirstsOf (defaults.contextRequirements ++ r.contextRequirements)
    c.contextRequirements
  hooks : FirstsOf (defaults.hooks ++ r.hooks) c.hooks
  /-- The rest is copied, or empty. -/
  copied : c = { c with
    requestId := r.requestId, operation := r.operation, userId := r.userId
    sessionId := r.sessionId, policy := policy
    hookEvents := [], auditLog := [], skippedHooks := [] }

theorem requires_resolve {r : Request Json} {policy : String} {defaults : PolicyDefaults}
    {requirement : String} : (resolve r policy defaults).requires requirement = true ↔
      requirement ∈ defaults.contextRequirements ∨ requirement ∈ r.contextRequirements := by
  unfold requires resolve
  rw [List.contains_iff_mem, mem_firstOccurrences, List.mem_append]

/-- An id that is only used if it is required, and the answer to it. -/
theorem fetched_of_fst {required : Bool} {named : String → Prop} {id : Option String}
    {asked : Option (String × Except ServiceError (Option α))}
    (hnamed : ∀ name, id = some name ↔ named name)
    (h : asked.map Prod.fst = if required then id else none) :
    Fetched (required = true) named asked (asked.bind fun a => a.2.toOption.join) where
  asked_iff name := by
    have hasked : (∃ answer, asked = some (name, answer)) ↔ asked.map Prod.fst = some name := by
      rcases asked with _ | ⟨other, answer⟩ <;> simp
    rw [hasked, h, ← hnamed]
    cases required <;> simp
  slot_iff a := by
    rcases asked with _ | ⟨name, err | found⟩
    · simp
    · simp [Except.toOption]
    · simp [Except.toOption]

theorem prepared_of_fst {r : Request Json} {policy : String} {defaults : PolicyDefaults}
    {session : Option (String × Except ServiceError (Option ToolSession))}
    {casefile : Option (String × Except ServiceError (Option Casefile))}
    (hsession : session.map Prod.fst =
      if (resolve r policy defaults).requires sessionRequirement then r.sessionId else none)
    (hcasefile : casefile.map Prod.fst =
      if (resolve r policy defaults).requires casefileRequirement then r.casefile? else none) :
    Prepared r policy defaults session casefile
      { resolve r policy defaults with
        session := session.bind fun a => a.2.toOption.join
        casefile := casefile.bind fun a => a.2.toOption.join } where
  session := by
    have h := fetched_of_fst (fun _ => Iff.rfl) hsession
    rw [requires_resolve] at h
    exact h
  casefile := by
    have h := fetched_of_fst (fun _ => Request.casefile?_eq_some_iff) hcasefile
    rw [requires_resolve] at h
    exact h
  requirements := firstOccurrences_spec _
  hooks := firstOccurrences_spec _
  copied := rfl

theorem eq_of_outcome_none {asked : Option (String × Said α)} (h : outcome asked = none) :
    ∃ id, asked = some (id, none) := by
  rcases asked with _ | ⟨id, _ | _⟩
  · cases h
  · exact ⟨id, rfl⟩
  · cases h

theorem eq_of_outcome_some {asked : Option (String × Said α)} {slot : Option α}
    (h : outcome asked = some slot) :
    ∃ answered : Option (String × Except ServiceError (Option α)),
      asked = answered.map (fun a => (a.1, some a.2)) ∧
      slot = answered.bind fun a => a.2.toOption.join := by
  rcases asked with _ | ⟨id, _ | answer⟩
  · cases h
    exact ⟨none, rfl, rfl⟩
  · cases h
  · cases h
    exact ⟨some (id, answer), rfl, rfl⟩

theorem toList_answered (seen : String → Said α → Lookup)
    (answered : Option (String × Except ServiceError (Option α))) :
    (answered.map fun a => (a.1, some a.2)).toList.map (fun a => seen a.1 a.2) =
      answered.toList.map fun a => seen a.1 (some a.2) := by
  cases answered <;> rfl

theorem prepare_apply (services : Services σ) (r : Request Json) (policy : String)
    (defaults : PolicyDefaults) (d : Option Nat) (e : Environment σ) :
    prepare services r policy defaults d e =
      match fetch services.session? (if (resolve r policy defaults).requires sessionRequirement
          then r.sessionId else none) d e with
      | (none, e₁) => (none, e₁)
      | (some session, e₁) =>
        match fetch services.casefile? (if (resolve r policy defaults).requires casefileRequirement
            then r.casefile? else none) d e₁ with
        | (none, e₂) => (none, e₂)
        | (some casefile, e₂) =>
          (some { resolve r policy defaults with session, casefile }, e₂) := by
  unfold prepare
  rw [Timed.bind_apply]
  rcases fetch services.session? _ d e with ⟨_ | session, e₁⟩
  · rfl
  · dsimp only
    rw [Timed.bind_apply]
    rcases fetch services.casefile? _ d e₁ with ⟨_ | casefile, e₂⟩ <;> rfl

/-- **The look-ups of a context, and what is in it.** Watching changes nothing. There is a context
if and only if every look-up was answered, by a record, by none or by an error. Then at most one
session was looked up and after it at most one casefile, as the requirements of the policy and of
the request say, and the context has what was found. -/
theorem prepare_fetches (services : Services σ) (r : Request Json) (policy : String)
    (defaults : PolicyDefaults) (d : Option Nat) (e : Environment σ) :
    ∃ (result : Option DispatchContext) (e' : Environment σ) (lookups : List Lookup),
      prepare services r policy defaults d e = (result, e') ∧
      prepare services.watched r policy defaults d (e.watching []) =
        (result, e'.watching lookups) ∧
      ((∃ c, result = some c) ↔ ∀ l ∈ lookups, l.Answered) ∧
      ∀ c, result = some c → ∃ session casefile,
        lookups = (session.toList.map fun a => Lookup.session a.1 (some a.2)) ++
          (casefile.toList.map fun a => Lookup.casefile a.1 (some a.2)) ∧
        Prepared r policy defaults session casefile c := by
  obtain ⟨session, e₁, hsession, hplain₁, hwatched₁⟩ := fetch_watched .session services.session?
    (if (resolve r policy defaults).requires sessionRequirement then r.sessionId else none) d e []
  obtain ⟨casefile, e₂, hcasefile, hplain₂, hwatched₂⟩ := fetch_watched .casefile
    services.casefile?
    (if (resolve r policy defaults).requires casefileRequirement then r.casefile? else none) d e₁
    ([] ++ session.toList.map fun a => .session a.1 a.2)
  change fetch services.watched.session? _ d _ = _ at hwatched₁
  change fetch services.watched.casefile? _ d _ = _ at hwatched₂
  rw [prepare_apply, prepare_apply, hplain₁, hwatched₁]
  cases h₁ : outcome session with
  | none =>
    -- no answer about the session, and no look-up of the casefile
    obtain ⟨id, rfl⟩ := eq_of_outcome_none h₁
    refine ⟨none, e₁, _, rfl, rfl, ?_, fun _ h => by cases h⟩
    simp [Lookup.Answered]
  | some sessionFound =>
    obtain ⟨session, rfl, rfl⟩ := eq_of_outcome_some h₁
    simp only [hplain₂, hwatched₂]
    cases h₂ : outcome casefile with
    | none =>
      obtain ⟨id, rfl⟩ := eq_of_outcome_none h₂
      refine ⟨none, e₂, _, rfl, rfl, ?_, fun _ h => by cases h⟩
      simp [Lookup.Answered]
    | some casefileFound =>
      obtain ⟨casefile, rfl, rfl⟩ := eq_of_outcome_some h₂
      rw [List.nil_append, toList_answered .session, toList_answered .casefile]
      refine ⟨_, e₂, _, rfl, rfl, iff_of_true ⟨_, rfl⟩ ?_, fun c hc => ⟨session, casefile, rfl, ?_⟩⟩
      · intro l hl
        rcases List.mem_append.1 hl with hl | hl
        · obtain ⟨_, -, rfl⟩ := List.mem_map.1 hl
          rfl
        · obtain ⟨_, -, rfl⟩ := List.mem_map.1 hl
          rfl
      · obtain rfl := Option.some.inj hc
        rw [Option.map_map] at hsession hcasefile
        exact prepared_of_fst hsession hcasefile

/-- A session that is missing does not keep the casefile from being looked up. -/
example : ((prepare Store.services.watched
    { requestId := "r", operation := "chat", sessionId := some "ts"
      payload := .obj [("casefile_id", .str "cf")], contextRequirements := ["casefile"] }
    "default" { contextRequirements := ["session"] } none
    (Environment.watching { state := {} } [])).2).state.lookups =
      [.session "ts" (some (.ok none)), .casefile "cf" (some (.ok none))] := rfl

end DispatchContext

end CasefileHub
