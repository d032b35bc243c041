import CasefileHub.CommandLine
import CasefileHub.Proofs.Json.Alike
import CasefileHub.Proofs.Renaming.Dispatch
/-!
# The same line again

A line reads as the same request whichever id a request without one would be given. If the renaming
keeps the records that the request mentions, then it is renamed to itself, and an accepted request
uses up the same numbers every time:

    a line reads alike under two ids, but for requests that are given them    (parseRequest_alike)
    ρ keeps what r mentions → r.Renamed ρ r'                                         (Again.renamed)
    an accepted request uses up as many numbers again                    (Again.exists_uses)
-/

namespace CasefileHub

/-! ## Readings -/

/-- The same request, but for ids that both were given. -/
structure Request.Again (id id' : String) (r r' : Request Json) : Prop where
  eq : r' = { r with requestId := r'.requestId }
  requestId : r'.requestId = r.requestId ∨ r.requestId = id ∧ r'.requestId = id'

theorem Request.decoder_alike (id id' : String) (v : Json) :
    ReadAlike (Again id id') (decoder id v) (decoder id' v) := by
  refine Decoder.record_alike ?_ v
  iterate 9 refine .seq ?_ (.refl _)
  refine (Fields.withDefault_alike _ _ id id').map ?_
  intro requestId requestId' hid
  rintro _ _ rfl _ _ rfl _ _ rfl _ _ rfl _ _ rfl _ _ rfl _ _ rfl _ _ rfl _ _ rfl
  exact ⟨rfl, hid⟩

/-- A line is no request under any id, or it is the same request under all. -/
theorem CommandLine.parseRequest_alike (id id' line : String) :
    ReadAlike (Request.Again id id') (parseRequest id line) (parseRequest id' line) := by
  unfold parseRequest
  cases Json.readMembers Request.fieldNames.contains line with
  | error e => exact .inl ⟨_, rfl, rfl⟩
  | ok v =>
    simp only
    rcases Request.decoder_alike id id' v with ⟨e, he, he'⟩ | ⟨r, r', hr, hr', hagain⟩
    · rw [he, he']
      exact .inl ⟨_, rfl, rfl⟩
    · rw [hr, hr']
      exact .inr ⟨r, r', rfl, rfl, hagain⟩

/-! ## Mentioned records -/

/-- The request names a record: its session, the casefile in its metadata, or what its payload is
about. -/
inductive Request.Mentions (r : Request Json) : RecordKind → String → Prop
  | session {id : String} (h : r.sessionId = some id) : Mentions r .toolSession id
  | scope {id : String} (h : r.metadataCasefile? = some id) : Mentions r .casefile id
  | read {id : String} (hop : r.operation = OperationName.getCasefile)
      (h : Payload.decoder r.payload = .ok (GetCasefile.mk id)) : Mentions r .casefile id
  | linkTo {casefileId sessionId : String} (hop : r.operation = OperationName.addSession)
      (h : Payload.decoder r.payload = .ok (AddSession.mk casefileId sessionId)) :
      Mentions r .casefile casefileId
  | linkOf {casefileId sessionId : String} (hop : r.operation = OperationName.addSession)
      (h : Payload.decoder r.payload = .ok (AddSession.mk casefileId sessionId)) :
      Mentions r .toolSession sessionId

variable {ρ : Renaming} {config : HubConfig} {r r' : Request Json} {n n' : Nat}
  {call : Services Store → ServiceCall Store Json}

theorem getCasefile_mem_builtin : (Route.getCasefile : Route Store) ∈ Route.builtin := by
  simp [Route.builtin]

theorem addSession_mem_builtin : (Route.addSession : Route Store) ∈ Route.builtin := by
  simp [Route.builtin]

theorem Hub.handler_of_accept (haccept : (inMemory config).accept r = .ok call)
    {route : Route Store} (hroute : route ∈ Route.builtin) (hop : r.operation = route.operation) :
    route.handler r = .ok call := by
  obtain ⟨route', hroute', hhandler⟩ := exists_route_of_accept haccept
  have hfound : (inMemory config).operations.get? r.operation = some route :=
    hop ▸ Route.get?_builtinTable hroute
  rw [hfound] at hroute'
  cases hroute'
  exact hhandler

/-- A request whose records keep their names is renamed to itself. -/
theorem Request.Again.renamed
    (hagain : Again (Identifier.request n) (Identifier.request n') r r')
    (haccept : (Hub.inMemory config).accept r = .ok call)
    (hkeeps : ∀ kind id, r.Mentions kind id → ρ.record kind id = id) : r.Renamed ρ r' := by
  obtain ⟨heq, hid⟩ := hagain
  have hmap (kind : RecordKind) (o : Option String) (ho : ∀ id, o = some id → r.Mentions kind id) :
      o = o.map (ρ.record kind) := by
    cases o with
    | none => rfl
    | some id => rw [Option.map_some, hkeeps kind id (ho id rfl)]
  have hpayload : PayloadRenamed ρ r.operation r.payload r.payload := by
    by_cases hget : r.operation = OperationName.getCasefile
    · obtain ⟨⟨id⟩, hread⟩ := Route.exists_read
        (Hub.handler_of_accept haccept getCasefile_mem_builtin hget)
      refine .read hget hread (hread.trans ?_)
      have hsame : ρ.casefile id = id := hkeeps .casefile id (.read hget hread)
      rw [hsame]
    · by_cases hadd : r.operation = OperationName.addSession
      · obtain ⟨⟨casefileId, sessionId⟩, hread⟩ := Route.exists_read
          (Hub.handler_of_accept haccept addSession_mem_builtin hadd)
        refine .link hadd hread (hread.trans ?_)
        have hcasefile : ρ.casefile casefileId = casefileId :=
          hkeeps .casefile casefileId (.linkTo hadd hread)
        have hsession : ρ.session sessionId = sessionId :=
          hkeeps .toolSession sessionId (.linkOf hadd hread)
        rw [hcasefile, hsession]
      · exact .same hget hadd rfl
  rw [heq]
  exact {
    requestId := hid.imp_right fun hgiven => ⟨n, n', hgiven⟩
    sessionId := hmap .toolSession r.sessionId fun _ => .session
    userId := rfl
    operation := rfl
    payload := hpayload
    casefile := hmap .casefile r.metadataCasefile? fun _ => .scope
    hooks := rfl
    pattern := rfl }

/-- An accepted request is accepted again, and uses up as many numbers. -/
theorem Request.Again.exists_uses
    (hagain : Again (Identifier.request n) (Identifier.request n') r r')
    (haccept : (Hub.inMemory config).accept r = .ok call) :
    ∃ call' count, (Hub.inMemory config).accept r' = .ok call' ∧
      Store.Uses (call Store.services) count ∧ Store.Uses (call' Store.services) count := by
  have hrenamed : r.Renamed ⟨Equiv.refl _, Equiv.refl _⟩ r' :=
    hagain.renamed haccept fun kind id _ => by cases kind <;> rfl
  obtain ⟨call', count, haccept', huses, huses', -⟩ := Hub.accept_renamed hrenamed haccept
  exact ⟨call', count, haccept', huses, huses'⟩

end CasefileHub
