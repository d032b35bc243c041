import CasefileHub.Proofs.Dispatch.Silence
/-!
# What the built-in hooks leave behind

The hooks of a request are those of its policy followed by its own, each once. At each stage every
one of them that is known records one event, and `audit` an entry besides. So a response holds twice
as many events as hooks are known, and two entries if `audit` is among them, whether the operation
succeeded, failed or was given up:

    runAll builtin stage response names c e records names in c and leaves e       (runAll_builtin)
    the metadata of a response from the records of its context       (get?_annotated_hookEvents, …)
    the metadata of a response from its hooks                                   (dispatch_accounts)
-/

namespace CasefileHub

variable {σ : Type}

/-! ## Names -/

theorem nodup_firstOccurrences (names : List String) : (firstOccurrences names).Nodup := by
  cases names with
  | nil => exact List.nodup_nil
  | cons name rest =>
    unfold firstOccurrences
    rw [List.eraseDups_cons, List.nodup_cons]
    refine ⟨?_, nodup_firstOccurrences (rest.filter fun other => !other == name)⟩
    rw [List.mem_eraseDups]
    simp
termination_by names.length
decreasing_by
  have := List.length_filter_le (fun other => !other == name) rest
  rw [List.length_cons]
  omega

/-- Among different names there is one of a kind, or none. -/
theorem filter_eq_of_nodup {names : List String} (h : names.Nodup) (name : String) :
    names.filter (· == name) = if name ∈ names then [name] else [] := by
  rw [List.filter_beq, h.count]
  split <;> rfl

/-! ## Records of the built-in hooks -/

namespace Hook

/-- The records of some names at a stage: an event of each that is known, and an entry of each
audit. -/
def recorded (stage : HookStage) (response : Option Response) (now : Timestamp)
    (names : List String) (c : DispatchContext) : DispatchContext :=
  { c with
    hookEvents := c.hookEvents ++
      (names.filter (builtin : Registry (Hook σ)).contains).map fun name =>
        event name stage response c now
    auditLog := c.auditLog ++
      (names.filter (· == "audit")).map fun name => entry c (event name stage response c now) }

/-- The built-in hooks record, and do nothing else. -/
theorem runAll_builtin (stage : HookStage) (response : Option Response) (names : List String)
    (c : DispatchContext) (e : Environment σ) :
    runAll builtin stage response names c e =
      (recorded (σ := σ) stage response e.now names c, e) := by
  unfold runAll
  induction names generalizing c with
  | nil => simp [recorded]
  | cons name rest ih =>
    have hcontains : (builtin : Registry (Hook σ)).contains name =
        (decide (name = "audit") || decide (name = "metrics")) := by
      unfold Registry.contains
      rw [get?_builtin]
      split
      · simp [*]
      · split <;> simp [*]
    rw [List.foldl_cons, get?_builtin]
    by_cases haudit : name = "audit"
    · subst haudit
      simp only [if_true]
      refine (ih _).trans ?_
      simp [recorded, hcontains, event, entry]
    · by_cases hmetrics : name = "metrics"
      · subst hmetrics
        simp only [haudit, if_true, if_false]
        refine (ih _).trans ?_
        simp [recorded, hcontains, event, entry]
      · simp only [haudit, hmetrics, if_false]
        refine (ih _).trans ?_
        simp [recorded, hcontains, haudit, hmetrics, event, entry]

theorem runStage_builtin (stage : HookStage) (response : Option Response) (c : DispatchContext)
    (d : Option Nat) (e : Environment σ) :
    runStage builtin stage response c d e =
      (some (recorded (σ := σ) stage response e.now c.hooks c), e) := by
  have hrun := runAll_builtin stage response c.hooks c e
  exact congrArg (fun out => (some out.1, out.2)) hrun

end Hook

/-! ## Metadata -/

namespace Response

theorem get?_annotate_self {r : Response} {key : String} (h : r.metadata.get? key = none)
    (value : Json) : (r.annotate key value).metadata.get? key = some value := by
  have hkey : r.metadata.contains key = false := by rw [Table.contains, h]; rfl
  unfold annotate
  rw [hkey]
  exact (Table.get?_insert _ _ _ _).trans (if_pos rfl)

theorem get?_annotate_of_ne (r : Response) {key other : String} (h : other ≠ key) (value : Json) :
    (r.annotate key value).metadata.get? other = r.metadata.get? other := by
  unfold annotate
  split
  · rfl
  · exact (Table.get?_insert _ _ _ _).trans (if_neg h)

end Response

namespace DispatchContext

variable {r : Response}

theorem get?_attachSkipped_of_ne (c : DispatchContext) (r : Response) {key : String}
    (h : key ≠ "skipped_hooks") :
    (c.attachSkipped r).metadata.get? key = r.metadata.get? key := by
  unfold attachSkipped
  split
  · rfl
  · exact Response.get?_annotate_of_ne r h _

theorem get?_annotated_hookEvents (c : DispatchContext) (hr : r.metadata = .empty) :
    (c.annotated r).metadata.get? "hook_events" =
      some (.arr (c.hookEvents.map HookEvent.toJson)) := by
  have hempty : r.metadata.get? "hook_events" = none := by rw [hr]; rfl
  unfold annotated
  rw [get?_attachSkipped_of_ne c _ (by decide)]
  unfold attach
  split
  · exact Response.get?_annotate_self hempty _
  · rw [Response.get?_annotate_of_ne _ (by decide)]
    exact Response.get?_annotate_self hempty _

theorem get?_annotated_auditLog (c : DispatchContext) (hr : r.metadata = .empty) :
    (c.annotated r).metadata.get? "audit_log" =
      if c.auditLog = [] then none else some (.arr (c.auditLog.map AuditEntry.toJson)) := by
  have hempty (value : Json) : (r.annotate "hook_events" value).metadata.get? "audit_log" = none := by
    rw [Response.get?_annotate_of_ne r (by decide), hr]
    rfl
  unfold annotated
  rw [get?_attachSkipped_of_ne c _ (by decide)]
  unfold attach
  cases c.auditLog with
  | nil => exact hempty _
  | cons a rest => exact Response.get?_annotate_self (hempty _) _

theorem get?_annotated_skippedHooks (c : DispatchContext) (hr : r.metadata = .empty) :
    (c.annotated r).metadata.get? "skipped_hooks" =
      if c.skippedHooks = [] then none else some (.strings c.skippedHooks) := by
  have hempty : (c.attach r).metadata.get? "skipped_hooks" = none := by
    unfold attach
    split
    · rw [Response.get?_annotate_of_ne r (by decide), hr]
      rfl
    · rw [Response.get?_annotate_of_ne _ (by decide), Response.get?_annotate_of_ne r (by decide), hr]
      rfl
  unfold annotated attachSkipped
  cases c.skippedHooks with
  | nil => exact hempty
  | cons name rest => exact Response.get?_annotate_self hempty _

/-- A context that is prepared is the resolved one, with what was found. -/
theorem exists_of_prepare {services : Services σ} {q : Request Json} {policy : String}
    {defaults : PolicyDefaults} {d : Option Nat} {e e' : Environment σ} {c : DispatchContext}
    (h : prepare services q policy defaults d e = (some c, e')) :
    ∃ session casefile,
      c = { resolve q policy defaults with session := session, casefile := casefile } := by
  obtain ⟨session, e₁, -, h⟩ := Timed.exists_of_bind_some h
  obtain ⟨casefile, e₂, -, h⟩ := Timed.exists_of_bind_some h
  cases h
  exact ⟨session, casefile, rfl⟩

end DispatchContext

/-! ## Dispatches -/

namespace Hub

/-- The hooks of a request: those of its policy, then its own, each once. -/
def hooksOf (h : Hub σ) (r : Request Json) : List String :=
  firstOccurrences ((h.policies.defaults (h.selectPolicy r)).hooks ++ r.hooks)

/-- The hooks of a request that the hub has. -/
def knownHooks (h : Hub σ) (r : Request Json) : List String :=
  (h.hooksOf r).filter h.hooks.contains

/-- The hooks of a request that the hub does not have. -/
def unknownHooks (h : Hub σ) (r : Request Json) : List String :=
  (h.hooksOf r).filter (!h.hooks.contains ·)

/-- The records of a request up to its operation, made at some time. -/
structure Begun (h : Hub σ) (r : Request Json) (now : Timestamp) (c : DispatchContext) : Prop where
  operation : c.operation = r.operation
  userId : c.userId = r.userId
  sessionId : c.sessionId = r.sessionId
  hooks : c.hooks = h.hooksOf r
  hookEvents : c.hookEvents = (h.knownHooks r).map fun name =>
    ⟨name, .pre, r.operation, now, none⟩
  auditLog : c.auditLog = if "audit" ∈ h.hooksOf r then
    [⟨r.operation, r.userId, r.sessionId, .pre, none, now⟩] else []
  skippedHooks : c.skippedHooks = if h.config.warnOnUnknownHooks then h.unknownHooks r else []

/-- The metadata of a response account for the hooks of its request: each known one has its events
before the operation and after it, `audit` has its entries, and those that are not known are listed
if the settings ask for it. -/
structure Accounts (h : Hub σ) (r : Request Json) (before after : Timestamp) (resp : Response) :
    Prop where
  hookEvents : resp.metadata.get? "hook_events" = some (.arr (List.map HookEvent.toJson
    (((h.knownHooks r).map fun name => ⟨name, .pre, r.operation, before, none⟩) ++
      (h.knownHooks r).map fun name => ⟨name, .post, r.operation, after, some resp.status⟩)))
  auditLog : resp.metadata.get? "audit_log" = if "audit" ∈ h.hooksOf r then
    some (.arr (List.map AuditEntry.toJson
      [⟨r.operation, r.userId, r.sessionId, .pre, none, before⟩,
        ⟨r.operation, r.userId, r.sessionId, .post, some resp.status, after⟩])) else none
  skippedHooks : resp.metadata.get? "skipped_hooks" =
    if h.config.warnOnUnknownHooks = true ∧ h.unknownHooks r ≠ [] then
      some (.strings (h.unknownHooks r)) else none

variable {h : Hub σ} {r : Request Json} {d : Option Nat} {e e' : Environment σ}

theorem filter_audit (h : Hub σ) (r : Request Json) :
    (h.hooksOf r).filter (· == "audit") = if "audit" ∈ h.hooksOf r then ["audit"] else [] :=
  filter_eq_of_nodup (nodup_firstOccurrences _) "audit"

theorem begun_of_begin (hh : h.hooks = Hook.builtin) {c : DispatchContext}
    (hrun : h.begin r d e = (some c, e')) : ∃ now, h.Begun r now c := by
  obtain ⟨c₀, e₁, hprepare, hrun⟩ := Timed.exists_of_bind_some hrun
  obtain ⟨session, casefile, hc₀⟩ := DispatchContext.exists_of_prepare hprepare
  obtain ⟨c₁, e₂, hstage, hrun⟩ := Timed.exists_of_bind_some hrun
  rw [hh, Hook.runStage_builtin] at hstage
  cases hstage
  have hskipped (b : Bool) (c : DispatchContext) (names : List String) :
      (if b then { c with skippedHooks := names } else c) =
        { c with skippedHooks := if b then names else c.skippedHooks } := by
    cases b <;> rfl
  rw [hskipped] at hrun
  cases hrun
  subst hc₀
  refine ⟨e'.now, rfl, rfl, rfl, rfl, ?_, ?_, ?_⟩
  · rw [knownHooks, hh]
    rfl
  · show [] ++ (List.filter (· == "audit") (h.hooksOf r)).map _ = _
    rw [filter_audit]
    split <;> rfl
  · show (if (h.config.warnOnUnknownHooks && !(h.unknownHooks r).isEmpty) = true
      then h.unknownHooks r else []) = _
    cases h.config.warnOnUnknownHooks <;> cases h.unknownHooks r <;> rfl

/-- The records of a request after its operation, in the metadata of its response. -/
theorem accounts_of_finish (hh : h.hooks = Hook.builtin) {c : DispatchContext} {now : Timestamp}
    (hc : h.Begun r now c) {result : Except ErrorInfo Json} {resp : Response}
    (hrun : h.finish r c result d e = (some resp, e')) : h.Accounts r now e.now resp := by
  rw [finish_apply, hh, Hook.runAll_builtin, hc.hooks] at hrun
  cases hrun
  have hempty : (Response.ofOutcome r.requestId result).metadata = .empty := by
    cases result <;> rfl
  rw [DispatchContext.annotated_eq]
  refine ⟨?_, ?_, ?_⟩
  · refine (DispatchContext.get?_annotated_hookEvents _ hempty).trans ?_
    simp only [Hook.recorded, Hook.event, hc.hookEvents, hc.operation, knownHooks, hh]
    rfl
  · refine (DispatchContext.get?_annotated_auditLog _ hempty).trans ?_
    simp only [Hook.recorded, Hook.entry, Hook.event, hc.auditLog, hc.operation, hc.userId,
      hc.sessionId, filter_audit]
    split <;> rfl
  · refine (DispatchContext.get?_annotated_skippedHooks _ hempty).trans ?_
    simp only [Hook.recorded, hc.skippedHooks]
    cases h.config.warnOnUnknownHooks <;> cases h.unknownHooks r <;> rfl

/-- **A response accounts for its hooks.** With the built-in hooks, a request that is not refused is
answered, unless something never answers, and the metadata hold two events for each known hook of
the request: one before the operation without a status and one after it with the final status, in
the order of the hooks. `Accounts` says this and what becomes of audits and of unknown hooks, for
operations that succeed, fail or are given up alike. -/
theorem dispatch_accounts (hh : h.hooks = Hook.builtin) {call : Services σ → ServiceCall σ Json}
    (haccept : h.accept r = .ok call) (d : Option Nat) (e : Environment σ) :
    (∃ resp e₁ e' before after events, h.dispatch r d e = (some (.ok resp), e') ∧
      h.Settles r (call h.services) e₁ resp ∧
      resp.metadata.get? "hook_events" = some (.arr (List.map HookEvent.toJson events)) ∧
      events.length = 2 * (h.knownHooks r).length ∧
      h.Accounts r before after resp) ∨
    (h.dispatch r d e).1 = none ∧ h.Stalls (call h.services) d := by
  rw [dispatch_of_accept haccept, Timed.map_apply]
  rcases hrun : h.perform r call d e with ⟨_ | resp, e'⟩
  · exact .inr ⟨rfl, stalls_of_perform hrun⟩
  · obtain ⟨c, e₁, result, e₂, hbegin, -, hfinish⟩ := stages_of_perform hrun
    obtain ⟨c', e₁', -, hsettles⟩ := settles_of_perform hrun
    obtain ⟨before, hc⟩ := begun_of_begin hh hbegin
    have haccounts := accounts_of_finish hh hc hfinish
    refine .inl ⟨resp, e₁', e', before, e₂.now, _, rfl, hsettles, haccounts.hookEvents, ?_,
      haccounts⟩
    rw [List.length_append, List.length_map, List.length_map]
    omega

/-- A request that fails, and names one hook twice and one that is not known. -/
def hooked : Request Json :=
  { creating (.obj [("title", .str " ")]) with hooks := ["audit", "trace", "audit"] }

/-- Its failed response holds four events, two entries and the unknown hook. -/
theorem dispatch_hooked_accounts :
    (inMemory {}).knownHooks hooked = ["metrics", "audit"] ∧
    (inMemory {}).unknownHooks hooked = ["trace"] ∧
    ∃ resp e' before after, (inMemory {}).dispatch hooked none ⟨{}, 0, ⟨0⟩, 0⟩ =
        (some (.ok resp), e') ∧ (inMemory {}).Accounts hooked before after resp := by
  refine ⟨by decide +kernel, by decide +kernel, ?_⟩
  rcases dispatch_accounts (h := inMemory {}) (r := hooked) rfl rfl none
      ⟨{}, 0, ⟨0⟩, 0⟩ with
    ⟨resp, e₁, e', before, after, events, hrun, -, -, -, haccounts⟩ | ⟨hnone, -⟩
  · exact ⟨resp, e', before, after, hrun, haccounts⟩
  · exact absurd hnone (by decide +kernel)

end Hub

end CasefileHub
