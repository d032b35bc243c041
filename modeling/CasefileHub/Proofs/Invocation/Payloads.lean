import CasefileHub.Proofs.Dispatch.Answer
import CasefileHub.Proofs.Invocation.Gates
import CasefileHub.Proofs.Payload
/-!
# Built-in tools through the hub

A built-in tool is executed by the operation that is routed to its method, whose handler reads the
validated parameters once more. It reads them exactly if they are readable; otherwise an executed
call, which has taken its use of the quota, ends with violations of the payload:

    t ∈ Tool.builtin → t.validate raw = ok p → (the handler reads p ↔ p.Readable)
    … and an executed call fails as invalid ↔ ¬ p.Readable             (handler_reads_iff_readable)
-/

namespace CasefileHub

variable {σ : Type}

/-! ## Routes of built-in methods -/

namespace Route

/-- The handler stands ready to perform the request. -/
def Handles (route : Route σ) (r : Request Json) : Prop := ∃ call, route.handler r = .ok call

theorem typed_handles_iff {Req Resp : Type} [Payload Req] [Payload Resp] (name : String)
    (perform : Services σ → Request Req → ServiceCall σ Resp) (defaultPolicy : Option String)
    (r : Request Json) :
    (typed name perform defaultPolicy).Handles r ↔
      (Payload.decoder : Decoder Req).Takes r.payload := by
  have hhandler : (typed name perform defaultPolicy).handler r =
      (((Payload.decoder : Decoder Req) r.payload).map r.withPayload).bind fun typed =>
        .ok fun services => Payload.toJson <$> perform services typed := rfl
  unfold Handles Decoder.Takes
  rw [hhandler]
  cases (Payload.decoder : Decoder Req) r.payload with
  | ok payload => exact iff_of_true ⟨_, rfl⟩ ⟨payload, rfl⟩
  | error e =>
    refine iff_of_false ?_ ?_
    · rintro ⟨call, h⟩
      cases h
    · rintro ⟨payload, h⟩
      cases h

/-- The handler reads the parameters exactly if they are readable. -/
def Agrees (route : Route σ) (p : Parameters) : Prop :=
  ∀ r : Request Json, r.payload = p.toJson → (route.Handles r ↔ p.Readable)

theorem typed_agrees {Req Resp : Type} [Payload Req] [Payload Resp] (name : String)
    (perform : Services σ → Request Req → ServiceCall σ Resp) (defaultPolicy : Option String)
    {p : Parameters} (h : (Payload.decoder : Decoder Req).Takes p.toJson ↔ p.Readable) :
    (typed name perform defaultPolicy).Agrees p := by
  intro r hr
  rw [typed_handles_iff, hr]
  exact h

end Route

/-- A built-in tool has the parameters of a model, and its route reads that model. -/
theorem Tool.exists_route {t : Tool} (ht : t ∈ Tool.builtin) :
    ∃ route : Route σ, route ∈ Route.builtin ∧ t.methodName = some route.method ∧
      ∀ raw p, t.validate raw = .ok p → route.Agrees p := by
  simp only [Tool.builtin, List.mem_cons, List.not_mem_nil, or_false] at ht
  rcases ht with rfl | rfl | rfl | rfl | rfl | rfl
  · exact ⟨.createCasefile, by simp [Route.builtin], rfl, fun raw p h =>
      Route.typed_agrees _ _ _ (createCasefile_takes_iff h)⟩
  · exact ⟨.getCasefile, by simp [Route.builtin], rfl, fun raw p h =>
      Route.typed_agrees _ _ _ (getCasefile_takes_iff h)⟩
  · exact ⟨.addSession, by simp [Route.builtin], rfl, fun raw p h =>
      Route.typed_agrees _ _ _ (addSession_takes_iff h)⟩
  · exact ⟨.createSession, by simp [Route.builtin], rfl, fun raw p h =>
      Route.typed_agrees _ _ _ (createSession_takes_iff h)⟩
  · exact ⟨.processChat, by simp [Route.builtin], rfl, fun raw p h =>
      Route.typed_agrees _ _ _ (chat_takes_iff h)⟩
  · exact ⟨.createCasefileWithSession, by simp [Route.builtin], rfl, fun raw p h =>
      Route.typed_agrees _ _ _ (createCasefileWithSession_takes_iff h)⟩

/-! ## The hub as executor -/

namespace Hub

variable {h : Hub σ} {t : Tool} {raw : Json} {p : Parameters} {route : Route σ}

/-- The method of a route is executed by a dispatch of its operation. -/
theorem executeMethod_eq (ho : h.operations = Route.builtinTable) (hr : route ∈ Route.builtin)
    (p : Parameters) (caller : Caller) (d : Option Nat) (e : Environment σ) :
    h.executeMethod route.method p caller d e =
      ((fun answer => answer.bind (payload route.operation)) <$>
        h.dispatch (requestOf caller (Identifier.request e.unused) route.operation p))
        d { e with unused := e.unused + 1 } :=
  executeMethod_of_some (by rw [ho, Route.toMethod?_builtin hr]) p caller d e

/-- A request that its handler does not read is refused. -/
theorem exists_dispatch_invalid (ho : h.operations = Route.builtinTable)
    (hr : route ∈ Route.builtin) {r : Request Json} (hop : r.operation = route.operation)
    (hn : ¬ route.Handles r) : ∃ vs, h.dispatch r = pure (.error (.invalid vs)) := by
  have hroute : h.operations.get? r.operation = some route := by
    rw [ho, hop, Route.get?_builtinTable hr]
  cases hhandler : route.handler r with
  | ok call => exact absurd ⟨call, hhandler⟩ hn
  | error err => exact ⟨_, dispatch_of_error (accept_of_handler_error hroute hhandler)⟩

/-- A request that its handler reads is performed. -/
theorem exists_dispatch_perform (ho : h.operations = Route.builtinTable)
    (hr : route ∈ Route.builtin) {r : Request Json} (hop : r.operation = route.operation)
    (hn : route.Handles r) : ∃ call, h.dispatch r = .ok <$> h.perform r call := by
  obtain ⟨call, hhandler⟩ := hn
  have hroute : h.operations.get? r.operation = some route := by
    rw [ho, hop, Route.get?_builtinTable hr]
  exact ⟨call, dispatch_of_accept (accept_of_handler_ok hroute hhandler)⟩

/-- The payload of a response is no violation. -/
theorem payload_ne_invalid (operation : String) (resp : Response) (vs : List Violation) :
    payload operation resp ≠ .error (.invalid vs) := by
  unfold payload
  split <;> simp

theorem executeMethod_invalid_of_not_readable (ho : h.operations = Route.builtinTable)
    (hr : route ∈ Route.builtin) (hreads : route.Agrees p) (hp : ¬ p.Readable)
    (caller : Caller) (d : Option Nat) (e : Environment σ) :
    ∃ vs e', h.executeMethod route.method p caller d e = (some (.error (.invalid vs)), e') := by
  rw [executeMethod_eq ho hr]
  obtain ⟨vs, hdispatch⟩ := exists_dispatch_invalid ho hr rfl
    (mt (hreads (requestOf caller (Identifier.request e.unused) route.operation p) rfl).1 hp)
  rw [hdispatch]
  exact ⟨vs, _, rfl⟩

theorem executeMethod_ne_invalid_of_readable (ho : h.operations = Route.builtinTable)
    (hr : route ∈ Route.builtin) (hreads : route.Agrees p) (hp : p.Readable)
    {caller : Caller} {d : Option Nat} {e e' : Environment σ} {vs : List Violation} :
    h.executeMethod route.method p caller d e ≠ (some (.error (.invalid vs)), e') := by
  rw [executeMethod_eq ho hr]
  obtain ⟨call, hdispatch⟩ := exists_dispatch_perform ho hr rfl
    ((hreads (requestOf caller (Identifier.request e.unused) route.operation p) rfl).2 hp)
  rw [hdispatch, Timed.map_apply, Timed.map_apply]
  intro heq
  split at heq
  · rename_i hperform
    split at hperform
    · cases hperform
      exact payload_ne_invalid route.operation _ vs (Option.some.inj (congrArg Prod.fst heq))
    · cases hperform
  · cases heq

end Hub

/-! ## Invocation -/

/-- An invoker that leaves a tool to a hub. -/
structure Invoker.LeavesTo (i : Invoker σ) (t : Tool) (h : Hub σ) : Prop where
  own : i.implementations.get? t.name = none
  executor : i.executor = some h.executeMethod

theorem Invoker.LeavesTo.work {i : Invoker σ} {h : Hub σ} {a : Admission} {m : String}
    (hi : i.LeavesTo a.tool h) (hm : a.tool.methodName = some m) (caller : Caller) :
    i.work a caller = h.executeMethod m a.parameters caller := by
  unfold Invoker.work
  rw [hi.own, hm, hi.executor]

/-- An attempt fails as invalid exactly if the hub does not read the parameters. -/
theorem Invoker.attempt_invalid_iff {i : Invoker σ} {h : Hub σ} {a : Admission} {route : Route σ}
    (hi : i.LeavesTo a.tool h) (ho : h.operations = Route.builtinTable)
    (hr : route ∈ Route.builtin) (hm : a.tool.methodName = some route.method)
    (hreads : route.Agrees a.parameters)
    {options : InvokeOptions} {d : Option Nat} {e e' : Environment σ} {r : Except HubError Json}
    (hrun : i.attempt a options d e = (some r, e')) :
    (∃ vs, r = .error (.invalid vs)) ↔ ¬ a.parameters.Readable := by
  have refused : ¬ a.parameters.Readable → ∀ inner, ∃ vs e₁,
      i.work a options.caller inner e = (some (.error (.invalid vs)), e₁) := by
    intro hp inner
    rw [hi.work hm]
    exact Hub.executeMethod_invalid_of_not_readable ho hr hreads hp options.caller inner e
  rcases Invoker.attempt_cases hrun with ⟨inner, e₁, hwork⟩ | ⟨⟨inner, e₁, hwork⟩, s, rfl⟩
  · constructor
    · rintro ⟨vs, rfl⟩ hp
      rw [hi.work hm] at hwork
      exact Hub.executeMethod_ne_invalid_of_readable ho hr hreads hp hwork
    · intro hp
      obtain ⟨vs, e₂, hinvalid⟩ := refused hp inner
      rw [hinvalid] at hwork
      cases hwork
      exact ⟨vs, rfl⟩
  · -- a call that is refused at once does not run out of time
    refine iff_of_false (by rintro ⟨vs, hvs⟩; cases hvs) fun hp => ?_
    obtain ⟨vs, e₂, hinvalid⟩ := refused hp inner
    rw [hinvalid] at hwork
    cases hwork

/-- **What validation leaves to the reader.** The validated parameters of a built-in tool read as
the payload of its operation exactly if tags are texts and the choice to start a session is not
null. An executed call through the hub has taken its use, which is counted in every period that has a
limit, and it fails as invalid exactly if they do not. -/
theorem handler_reads_iff_readable {t : Tool} (ht : t ∈ Tool.builtin) {raw : Json} {p : Parameters}
    (hv : t.validate raw = .ok p) :
    ∃ route : Route σ, t.methodName = some route.method ∧
      Route.toMethod? Route.builtinTable route.method = some route ∧
      (∀ r : Request Json, r.payload = p.toJson → (route.Handles r ↔ p.Readable)) ∧
      ∀ (h : Hub σ) (i : Invoker σ), h.operations = Route.builtinTable → i.LeavesTo t h →
        ∀ c : ToolCall, c.tool? = some t → c.raw = raw →
          ∀ d e r q' e', c.invoke i d e = (some (.ok r, q'), e') → 1 ≤ r.attempts →
            c.quota.take e.now c.name t.rules.perMinute t.rules.perHour = (.ok (), q') ∧
            (t.rules.perMinute.isSome →
              q'.uses e.now .minute c.name = c.quota.uses e.now .minute c.name + 1) ∧
            (t.rules.perHour.isSome →
              q'.uses e.now .hour c.name = c.quota.uses e.now .hour c.name + 1) ∧
            ((∃ vs, r.outcome = .failure (.invalid vs)) ↔ ¬ p.Readable) := by
  obtain ⟨route, hr, hm, hreads⟩ := Tool.exists_route (σ := σ) ht
  refine ⟨route, hm, Route.toMethod?_builtin hr, hreads raw p hv, ?_⟩
  intro h i ho hi c hc hraw d e r q' e' hrun hpos
  obtain hopen | ⟨g, hg⟩ := ToolCall.opens_or_stops c e.now
  · obtain ⟨t', p', q₁, ht', hp', htake, hexec⟩ := ToolCall.invoke_of_opens hopen
    rw [hc] at ht'
    cases ht'
    rw [hraw, hv] at hp'
    cases hp'
    rw [hexec, Timed.map_apply] at hrun
    split at hrun
    · rename_i hexecute
      cases hrun
      obtain ⟨answer, e₁, e₂, hattempt, houtcome⟩ := Invoker.exists_attempt_of_execute hexecute
      obtain ⟨hminute, hhour, -⟩ := Quota.uses_of_take htake
      refine ⟨htake, hminute, hhour, ?_⟩
      rw [← Invoker.attempt_invalid_iff hi ho hr hm (hreads raw p hv) hattempt, houtcome]
      cases answer <;> simp [ToolOutcome.ofResult]
    · cases hrun
  · obtain ⟨answer, q₁, hans, hsame, -⟩ := ToolCall.invoke_of_stops hg
    rw [hsame] at hrun
    cases hrun
    have := hans.attempts_eq_zero rfl
    omega

/-- Arguments for a casefile with a title and some tags. -/
def tagged (tags : Json) : Json := .obj [("tags", tags), ("title", .str "t")]

def casefileTool : Tool :=
  .forMethod .createCasefile "create_casefile_tool" "casefile"
    { requiresAuth := true, perMinute := some 30 }

/-- Tags that are texts are validated and then read. -/
theorem handler_reads_textTags :
    casefileTool ∈ Tool.builtin ∧
    casefileTool.validate (tagged (.strings ["a"])) =
      .ok (.ofList [("title", .str "t"), ("description", .null), ("tags", .strings ["a"])]) ∧
    ∃ route : Route Store, Route.toMethod? Route.builtinTable OperationName.createCasefile =
        some route ∧
      route.Handles (Hub.requestOf {} "r" route.operation
        (.ofList [("title", .str "t"), ("description", .null), ("tags", .strings ["a"])])) := by
  have ht : casefileTool ∈ Tool.builtin := List.mem_cons_self
  have hv : casefileTool.validate (tagged (.strings ["a"])) =
      .ok (.ofList [("title", .str "t"), ("description", .null), ("tags", .strings ["a"])]) := rfl
  refine ⟨ht, hv, ?_⟩
  obtain ⟨route, hm, hroute, hreads, -⟩ := handler_reads_iff_readable (σ := Store) ht hv
  have hmethod : OperationName.createCasefile = route.method := Option.some.inj hm
  refine ⟨route, by rw [hmethod]; exact hroute, (hreads _ rfl).2 ⟨fun v htags => ?_, by decide⟩⟩
  cases htags
  exact ⟨["a"], rfl⟩

/-- A call of a built-in tool with null for the tags. -/
def nullTags : ToolCall where
  catalog := .builtin
  quota := {}
  name := "create_casefile_tool"
  raw := tagged .null
  options := { caller := { permissions := ["casefile:write"], authenticated := true } }

/-- What validation leaves of null for the tags. -/
def nullTagged : Parameters :=
  .ofList [("title", .str "t"), ("description", .null), ("tags", .null)]

theorem nullTagged_not_readable : ¬ nullTagged.Readable := by
  intro hp
  obtain ⟨l, hl⟩ := hp.tags .null rfl
  cases hl

/-- Null passes for the tags, but the operation does not read it: the call fails after its use of
the quota was counted. -/
theorem nullTags_fails_late :
    nullTags.tool? = some casefileTool ∧ casefileTool ∈ Tool.builtin ∧
    casefileTool.validate nullTags.raw = .ok nullTagged ∧
    ¬ (Payload.decoder : Decoder CreateCasefile).Takes nullTagged.toJson ∧
    ((nullTags.invoke { catalog := .builtin, executor := some (Hub.inMemory {}).executeMethod } none
        ⟨{}, 0, ⟨0⟩, 0⟩).1.map fun (answer, q) =>
          (answer.toOption.bind fun r => r.outcome.error?.map HubError.kind,
            q.uses ⟨0⟩ .minute "create_casefile_tool")) =
      some (some "validation_error", 1) := by
  have hv : casefileTool.validate nullTags.raw = .ok nullTagged := rfl
  have ht : casefileTool ∈ Tool.builtin := List.mem_cons_self
  have hnames : (Tool.builtin.map Named.name).Nodup := by decide
  refine ⟨Registry.get?_foldl_replace_of_mem .empty hnames ht, ht, hv, ?_, by decide +kernel⟩
  exact mt (createCasefile_takes_iff hv).1 nullTagged_not_readable

end CasefileHub
