import CasefileHub.Dispatch.Route
/-!
# Routes

A typed handler fails exactly where the payload does not read. The six built-in operations have
different names, each that of the method it performs. So the table of the built-in routes holds them
and nothing else, and each is found by its operation and by its method:

    route ∈ builtin → builtinTable.get? route.operation = some route       (get?_builtinTable)
    route ∈ builtin → toMethod? builtinTable route.method = some route     (toMethod?_builtin)
    builtinTable.get? operation = some route → route ∈ builtin             (mem_builtin_of_get?)
    the payload reads → typedHandler perform r performs the typed request    (typedHandler_of_ok)
-/

namespace CasefileHub.Route

variable {σ : Type}

/-! ## Built-in routes -/

theorem builtin_names_nodup : ((builtin : List (Route σ)).map Named.name).Nodup := by
  show [OperationName.createCasefile, OperationName.getCasefile, OperationName.addSession,
    OperationName.createSession, OperationName.processChat,
    OperationName.createCasefileWithSession].Nodup
  decide

theorem get?_builtinTable {route : Route σ} (h : route ∈ builtin) :
    builtinTable.get? route.operation = some route :=
  Registry.get?_foldl_replace_of_mem .empty builtin_names_nodup h

theorem mem_builtin_of_get? {operation : String} {route : Route σ}
    (h : builtinTable.get? operation = some route) : route ∈ builtin := by
  rcases Registry.get?_foldl_replace h with hempty | hmem
  · cases hempty
  · exact hmem

theorem method_eq_operation {route : Route σ} (h : route ∈ builtin) :
    route.method = route.operation := by
  simp only [builtin, List.mem_cons, List.not_mem_nil, or_false] at h
  rcases h with rfl | rfl | rfl | rfl | rfl | rfl <;> rfl

/-- A method that one operation only is routed to. -/
theorem toMethod?_of_unique {routes : Registry (Route σ)} {route : Route σ} {m : String}
    (hroute : route ∈ routes.toList) (hmethod : route.method = m)
    (hunique : ∀ other ∈ routes.toList, other.method = m → other = route) :
    toMethod? routes m = some route := by
  unfold toMethod?
  cases hfind : routes.toList.find? (·.method == m) with
  | none =>
    have hne := List.find?_eq_none.1 hfind route hroute
    exact absurd (beq_iff_eq.2 hmethod) hne
  | some other =>
    have hlisted : other ∈ routes.toList := List.mem_of_find?_eq_some hfind
    have hfound := List.find?_some hfind
    rw [hunique other hlisted (eq_of_beq hfound)]

theorem mem_builtinTable {route : Route σ} (h : route ∈ builtin) : route ∈ builtinTable.toList :=
  Registry.mem_toList_of_get? (get?_builtinTable h)

/-- A built-in method is routed to by the operation of its name only. -/
theorem eq_of_method_eq {route other : Route σ} (h : route ∈ builtin)
    (hlisted : other ∈ builtinTable.toList) (hmethod : other.method = route.method) :
    other = route := by
  have hget := Registry.get?_of_mem_toList hlisted
  have hother := mem_builtin_of_get? hget
  rw [method_eq_operation hother, method_eq_operation h] at hmethod
  have hsame := (get?_builtinTable hother).symm.trans (hmethod ▸ get?_builtinTable h)
  exact Option.some.inj hsame

theorem toMethod?_builtin {route : Route σ} (h : route ∈ builtin) :
    toMethod? builtinTable route.method = some route :=
  toMethod?_of_unique (mem_builtinTable h) rfl fun _ hlisted => eq_of_method_eq h hlisted

/-! ## Typed handlers -/

variable {Req Resp : Type} [Payload Req] [Payload Resp]
  (perform : Services σ → Request Req → ServiceCall σ Resp) {r : Request Json}

theorem typedHandler_of_error {cause : Json.DecodeError}
    (hread : (Payload.decoder : Decoder Req) r.payload = .error cause) :
    typedHandler perform r = .error cause := by
  unfold typedHandler Request.typed
  rw [hread]
  rfl

theorem typedHandler_of_ok {payload : Req} (hread : Payload.decoder r.payload = .ok payload) :
    typedHandler perform r =
      .ok fun services => Payload.toJson <$> perform services (r.withPayload payload) := by
  unfold typedHandler Request.typed
  rw [hread]
  rfl

/-- A typed handler that succeeds has read a payload. -/
theorem exists_of_typedHandler {call : Services σ → ServiceCall σ Json}
    (hr : typedHandler perform r = .ok call) :
    ∃ typed : Request Req, call = fun services => Payload.toJson <$> perform services typed := by
  cases hread : (Payload.decoder : Decoder Req) r.payload with
  | error cause =>
    rw [typedHandler_of_error perform hread] at hr
    cases hr
  | ok payload =>
    rw [typedHandler_of_ok perform hread] at hr
    cases hr
    exact ⟨r.withPayload payload, rfl⟩

end CasefileHub.Route
