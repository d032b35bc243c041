import CasefileHub.Proofs.Invocation.Execution
import CasefileHub.Proofs.Quota
/-!
# The gates of an invocation

Nine gates stand in front of the work of a tool. What each asks for is stated here of the call alone,
apart from the functions that check it. A call is executed exactly when all gates open; otherwise the
first that does not gives the answer, nothing downstream is called, and no count changes but that of
a minute that is over:

    (∀ g, c.Opens now g) → i.invoke … = execute … and attempts ≥ 1             (invoke_of_opens)
    c.Stops now g → i.invoke … = the answer of g, in the same environment      (invoke_of_stops)
-/

namespace CasefileHub

/-- A call of a tool, with all that its gates look at. -/
structure ToolCall where
  catalog : Catalog
  quota : Quota
  name : String
  raw : Json
  options : InvokeOptions

/-- The gates of a call. -/
inductive Gate where
  | known | enabled | authenticated | role | permissions | arguments | casefile | real | quota
deriving DecidableEq, Repr

/-- Where a gate stands in the order of the gates. -/
def Gate.place : Gate → Nat
  | .known => 0
  | .enabled => 1
  | .authenticated => 2
  | .role => 3
  | .permissions => 4
  | .arguments => 5
  | .casefile => 6
  | .real => 7
  | .quota => 8

namespace ToolCall

def caller (c : ToolCall) : Caller := c.options.caller

def tool? (c : ToolCall) : Option Tool := c.catalog.tool? c.name

/-- The method that a tool is bound to, if it is registered. -/
def method? (c : ToolCall) (t : Tool) : Option Method := t.methodName.bind c.catalog.method?

/-- The permissions of a tool, and then those of its registered method. -/
def permissions (c : ToolCall) (t : Tool) : List String :=
  match c.method? t with
  | some m => t.rules.requiredPermissions ++ m.rules.requiredPermissions
  | none => t.rules.requiredPermissions

/-- The permissions that the caller does not hold. -/
def missing (c : ToolCall) (t : Tool) : List String :=
  (c.permissions t).filter (· ∉ c.caller.permissions)

/-- The arguments or the caller name a casefile. -/
def HasCasefile (c : ToolCall) (t : Tool) : Prop :=
  (∃ p id, t.validate c.raw = .ok p ∧ p.text? Request.casefileKey = some id) ∨
    ∃ id, c.caller.casefileId = some id

/-- What a gate asks of a call and its tool. -/
def Asks (c : ToolCall) (now : Timestamp) (t : Tool) : Gate → Prop
  | .known => True
  | .enabled => t.rules.enabled = true
  | .authenticated => t.rules.requiresAuth = true → c.caller.authenticated = true
  | .role => t.rules.allowedRoles = [] ∨ ∃ role ∈ c.caller.roles, role ∈ t.rules.allowedRoles
  | .permissions => (∀ p ∈ t.rules.requiredPermissions, p ∈ c.caller.permissions) ∧
      ∀ m, c.method? t = some m → m.permits c.caller.permissions = true
  | .arguments => ∃ p, t.validate c.raw = .ok p
  | .casefile => t.rules.requiresCasefile = true → c.HasCasefile t
  | .real => c.options.dryRun = false
  | .quota => c.quota.Admits now c.name t.rules.perMinute t.rules.perHour

/-- The tool exists and the call has what the gate asks for. -/
def Opens (c : ToolCall) (now : Timestamp) (g : Gate) : Prop := ∃ t, c.tool? = some t ∧ c.Asks now t g

/-- The gate is the first that does not open. -/
def Stops (c : ToolCall) (now : Timestamp) (g : Gate) : Prop :=
  ¬ c.Opens now g ∧ ∀ g', g'.place < g.place → c.Opens now g'

/-- The answer of a gate that does not open. A dry run is answered with a preview, and all others
with an error. -/
inductive Answers (c : ToolCall) (now : Timestamp) : Gate → Except ToolError ToolResult → Prop
  | known : c.tool? = none → c.Answers now .known (.error (.unknown c.name))
  | enabled {t : Tool} : c.tool? = some t →
      c.Answers now .enabled (.error (.disabled t.name
        (t.rules.deprecationMessage.getD "disabled by business rules")))
  | authenticated {t : Tool} : c.tool? = some t →
      c.Answers now .authenticated (.error (.unauthenticated t.name))
  | role {t : Tool} : c.tool? = some t →
      c.Answers now .role (.error (.noRole t.name t.rules.allowedRoles))
  | permissions {t : Tool} : c.tool? = some t →
      c.Answers now .permissions (.error (.missingPermissions t.name (c.missing t)))
  | arguments {t : Tool} {vs : List Violation} : c.tool? = some t → t.validate c.raw = .error vs →
      c.Answers now .arguments (.error (.invalid vs))
  | casefile {t : Tool} : c.tool? = some t →
      c.Answers now .casefile (.error (.casefileRequired t.name))
  | real {t : Tool} {p : Parameters} : c.tool? = some t → t.validate c.raw = .ok p →
      c.Answers now .real (.ok (Invoker.preview ⟨t, c.method? t, p⟩))
  | quota {t : Tool} {s : Shortage} : c.tool? = some t →
      c.quota.Refuses now c.name t.rules.perMinute t.rules.perHour s →
      c.Answers now .quota (.error (.rateLimited c.name s.wait))

/-- The gate is that of the quota, and the minute of the tool has a limit and is over. -/
def RestartsMinute (c : ToolCall) (now : Timestamp) (g : Gate) : Prop :=
  g = .quota ∧ ∃ t, c.tool? = some t ∧ c.quota.RestartsMinute now c.name t.rules.perMinute

/-- What a gate that does not open leaves of the quota of a call: the counts of all tools as they
are, but for a minute of the call's own tool that is over, whose count begins anew. The uses in the
current periods are what they were, now and later. -/
structure KeepsCounts (c : ToolCall) (now : Timestamp) (g : Gate) (q' : Quota) : Prop where
  hour : ∀ tool, q'.hourCount tool = c.quota.hourCount tool
  minute : ∀ tool, ¬ (tool = c.name ∧ c.RestartsMinute now g) →
    q'.minuteCount tool = c.quota.minuteCount tool
  restarted : c.RestartsMinute now g → q'.minuteCount c.name = 0
  uses : ∀ later, now.nanoseconds ≤ later.nanoseconds → ∀ w tool,
    q'.uses later w tool = c.quota.uses later w tool

variable {c : ToolCall} {now : Timestamp} {t : Tool}

/-- The gates before that of the quota leave the quota alone. -/
theorem keepsCounts_self {g : Gate} (hg : g ≠ .quota) : c.KeepsCounts now g c.quota where
  hour _ := rfl
  minute _ _ := rfl
  restarted h := absurd h.1 hg
  uses _ _ _ _ := rfl

theorem keepsCounts_of_refuses (ht : c.tool? = some t) {s : Shortage}
    (h : c.quota.Refuses now c.name t.rules.perMinute t.rules.perHour s) :
    c.KeepsCounts now .quota (c.quota.take now c.name t.rules.perMinute t.rules.perHour).2 := by
  obtain ⟨hhour, hminute, hrestarted⟩ := Quota.counts_of_refuses h
  have hown : c.RestartsMinute now .quota ↔
      c.quota.RestartsMinute now c.name t.rules.perMinute := by
    simp [RestartsMinute, ht]
  constructor
  · exact hhour
  · rw [hown]
    exact hminute
  · rw [hown]
    exact hrestarted
  · exact fun later hle w tool => Quota.uses_of_refuses h hle w tool

/-! ## The first gate that does not open -/

theorem opens_iff_asks (ht : c.tool? = some t) (g : Gate) :
    c.Opens now g ↔ c.Asks now t g := by
  constructor
  · rintro ⟨t', ht', h⟩
    rw [ht] at ht'
    cases ht'
    exact h
  · intro h
    exact ⟨t, ht, h⟩

/-- A gate that does not open has a first one before it, or is the first. -/
theorem exists_stops_of_not_opens (n : Nat) :
    ∀ g, g.place ≤ n → ¬ c.Opens now g → ∃ g, c.Stops now g := by
  induction n with
  | zero =>
    intro g hg hn
    refine ⟨g, hn, fun g' hg' => ?_⟩
    omega
  | succ n ih =>
    intro g hg hn
    by_cases h : ∃ g', g'.place < g.place ∧ ¬ c.Opens now g'
    · obtain ⟨g', hlt, hn'⟩ := h
      exact ih g' (by omega) hn'
    · refine ⟨g, hn, fun g' hg' => ?_⟩
      exact Classical.not_not.1 fun hn' => h ⟨g', hg', hn'⟩

theorem opens_or_stops (c : ToolCall) (now : Timestamp) : (∀ g, c.Opens now g) ∨ ∃ g, c.Stops now g := by
  by_cases h : ∀ g, c.Opens now g
  · exact .inl h
  · obtain ⟨g, hg⟩ := Classical.not_forall.1 h
    exact .inr (exists_stops_of_not_opens _ g (Nat.le_refl _) hg)

theorem Stops.tool?_eq_none (h : c.Stops now .known) : c.tool? = none := by
  cases ht : c.tool? with
  | none => rfl
  | some t => exact absurd ⟨t, ht, trivial⟩ h.1

/-- The tool of a call that is stopped behind the first gate. -/
theorem Stops.exists_tool {g : Gate} (h : c.Stops now g) (hg : 0 < g.place) :
    ∃ t, c.tool? = some t ∧ ¬ c.Asks now t g ∧ ∀ g' : Gate, g'.place < g.place → c.Asks now t g' := by
  obtain ⟨t, ht, -⟩ := h.2 .known hg
  refine ⟨t, ht, fun hasks => h.1 ⟨t, ht, hasks⟩, fun g' hlt => ?_⟩
  exact (opens_iff_asks ht g').1 (h.2 g' hlt)

/-! ## The gates before the preview -/

theorem requireEnabled_of_asks (h : c.Asks now t .enabled) :
    Admission.requireEnabled t = .ok () := by
  simp only [Asks] at h
  simp [Admission.requireEnabled, h]

theorem requireEnabled_of_not_asks (h : ¬ c.Asks now t .enabled) :
    Admission.requireEnabled t =
      .error (.disabled t.name (t.rules.deprecationMessage.getD "disabled by business rules")) := by
  simp only [Asks] at h
  simp [Admission.requireEnabled, h]

theorem requireAuthenticated_of_asks (h : c.Asks now t .authenticated) :
    Admission.requireAuthenticated t c.caller = .ok () := by
  simp only [Asks] at h
  unfold Admission.requireAuthenticated
  rw [if_neg]
  simpa using h

theorem requireAuthenticated_of_not_asks (h : ¬ c.Asks now t .authenticated) :
    Admission.requireAuthenticated t c.caller = .error (.unauthenticated t.name) := by
  simp only [Asks, Classical.not_imp, Bool.not_eq_true] at h
  simp [Admission.requireAuthenticated, h.1, h.2]

theorem hasRole_iff_asks (c : ToolCall) (now : Timestamp) (t : Tool) :
    Admission.hasRole t c.caller = true ↔ c.Asks now t .role := by
  simp [Admission.hasRole, Asks]

theorem requireRole_of_asks (h : c.Asks now t .role) :
    Admission.requireRole t c.caller = .ok () := by
  rw [Admission.requireRole, if_pos ((hasRole_iff_asks c now t).2 h)]

theorem requireRole_of_not_asks (h : ¬ c.Asks now t .role) :
    Admission.requireRole t c.caller = .error (.noRole t.name t.rules.allowedRoles) := by
  rw [Admission.requireRole, if_neg (mt (hasRole_iff_asks c now t).1 h)]

theorem missing_eq (c : ToolCall) (t : Tool) :
    Method.missing (Admission.requiredPermissions t (c.method? t)) c.caller.permissions =
      c.missing t := by
  unfold Method.missing Admission.requiredPermissions missing permissions
  cases c.method? t <;> simp

theorem missing_eq_nil_iff_asks (c : ToolCall) (t : Tool) :
    c.missing t = [] ↔ c.Asks now t .permissions := by
  unfold missing permissions Asks
  cases c.method? t with
  | none => simp
  | some m =>
    simp only [List.filter_eq_nil_iff, List.mem_append, decide_eq_true_eq, Decidable.not_not,
      Method.permits, List.all_eq_true, List.contains_iff_mem, Option.some.injEq, forall_eq']
    exact ⟨fun h => ⟨fun p hp => h p (.inl hp), fun p hp => h p (.inr hp)⟩,
      fun h p hp => hp.elim (h.1 p) (h.2 p)⟩

theorem requirePermissions_of_asks (h : c.Asks now t .permissions) :
    Admission.requirePermissions t (c.method? t) c.caller = .ok () := by
  rw [Admission.requirePermissions, missing_eq, (missing_eq_nil_iff_asks c t).2 h]

theorem requirePermissions_of_not_asks (h : ¬ c.Asks now t .permissions) :
    Admission.requirePermissions t (c.method? t) c.caller =
      .error (.missingPermissions t.name (c.missing t)) := by
  rw [Admission.requirePermissions, missing_eq]
  split
  · rename_i hnil
    exact absurd ((missing_eq_nil_iff_asks c t).1 hnil) h
  · rfl

theorem requireValid_of_ok {t : Tool} {raw : Json} {p : Parameters}
    (h : t.validate raw = .ok p) : Admission.requireValid t raw = .ok p := by
  rw [Admission.requireValid, h]
  rfl

theorem requireValid_of_error {t : Tool} {raw : Json} {vs : List Violation}
    (h : t.validate raw = .error vs) : Admission.requireValid t raw = .error (.invalid vs) := by
  rw [Admission.requireValid, h]
  rfl

theorem exists_error_of_not_asks (h : ¬ c.Asks now t .arguments) :
    ∃ vs, t.validate c.raw = .error vs := by
  cases hv : t.validate c.raw with
  | error vs => exact ⟨vs, rfl⟩
  | ok p => exact absurd ⟨p, hv⟩ h

theorem requireCasefile_of_asks {p : Parameters} (hp : t.validate c.raw = .ok p)
    (h : c.Asks now t .casefile) :
    Admission.requireCasefile t p c.caller = .ok () := by
  unfold Admission.requireCasefile
  rw [if_neg]
  intro hb
  simp only [Bool.and_eq_true, Option.isNone_iff_eq_none] at hb
  obtain ⟨⟨hreq, htext⟩, hcaller⟩ := hb
  rcases h hreq with ⟨p', id, hp', hid⟩ | ⟨id, hid⟩
  · rw [hp] at hp'
    cases hp'
    rw [htext] at hid
    cases hid
  · rw [hcaller] at hid
    cases hid

theorem requireCasefile_of_not_asks {p : Parameters} (hp : t.validate c.raw = .ok p)
    (h : ¬ c.Asks now t .casefile) :
    Admission.requireCasefile t p c.caller = .error (.casefileRequired t.name) := by
  unfold Admission.requireCasefile
  rw [if_pos]
  obtain ⟨hreq, hno⟩ := Classical.not_imp.1 h
  obtain ⟨htext, hcaller⟩ := not_or.1 hno
  simp only [Bool.and_eq_true, Option.isNone_iff_eq_none, Option.eq_none_iff_forall_ne_some]
  exact ⟨⟨hreq, fun id hid => htext ⟨p, id, hp, hid⟩⟩, fun id hid => hcaller ⟨id, hid⟩⟩

theorem ofCall_of_tool (ht : c.tool? = some t) :
    Admission.ofCall c.catalog c.name c.raw c.caller = (do
      Admission.requireEnabled t
      Admission.requireAuthenticated t c.caller
      Admission.requireRole t c.caller
      Admission.requirePermissions t (c.method? t) c.caller
      let p ← Admission.requireValid t c.raw
      Admission.requireCasefile t p c.caller
      return ⟨t, c.method? t, p⟩) := by
  simp only [Admission.ofCall, show c.catalog.tool? c.name = some t from ht]
  rfl

/-- Behind the gates that look at the caller, the arguments are validated. -/
theorem ofCall_of_authorized (ht : c.tool? = some t)
    (h : ∀ g : Gate, g.place < 5 → c.Asks now t g) :
    Admission.ofCall c.catalog c.name c.raw c.caller = (do
      let p ← Admission.requireValid t c.raw
      Admission.requireCasefile t p c.caller
      return ⟨t, c.method? t, p⟩) := by
  rw [ofCall_of_tool ht, requireEnabled_of_asks (h .enabled (by decide)),
    requireAuthenticated_of_asks (h .authenticated (by decide)),
    requireRole_of_asks (h .role (by decide)),
    requirePermissions_of_asks (h .permissions (by decide))]
  rfl

/-- A call passes all gates before the preview. -/
theorem ofCall_of_asks {p : Parameters} (ht : c.tool? = some t)
    (h : ∀ g : Gate, g.place < 7 → c.Asks now t g) (hp : t.validate c.raw = .ok p) :
    Admission.ofCall c.catalog c.name c.raw c.caller = .ok ⟨t, c.method? t, p⟩ := by
  rw [ofCall_of_authorized ht fun g hg => h g (by omega), requireValid_of_ok hp]
  show (Admission.requireCasefile t p c.caller >>= fun _ => pure _) = _
  rw [requireCasefile_of_asks hp (h .casefile (by decide))]
  rfl

/-- The first gate before the preview that does not open refuses the call. -/
theorem ofCall_of_stops {g : Gate} (h : c.Stops now g) (hg : g.place < 7) :
    ∃ err, c.Answers now g (.error err) ∧
      Admission.ofCall c.catalog c.name c.raw c.caller = .error err := by
  cases g with
  | known =>
    have ht := h.tool?_eq_none
    refine ⟨_, .known ht, ?_⟩
    simp only [Admission.ofCall, show c.catalog.tool? c.name = none from ht]
  | enabled =>
    obtain ⟨t, ht, hn, hb⟩ := h.exists_tool (by decide)
    refine ⟨_, .enabled ht, ?_⟩
    rw [ofCall_of_tool ht, requireEnabled_of_not_asks hn]
    rfl
  | authenticated =>
    obtain ⟨t, ht, hn, hb⟩ := h.exists_tool (by decide)
    refine ⟨_, .authenticated ht, ?_⟩
    rw [ofCall_of_tool ht, requireEnabled_of_asks (hb .enabled (by decide)),
      requireAuthenticated_of_not_asks hn]
    rfl
  | role =>
    obtain ⟨t, ht, hn, hb⟩ := h.exists_tool (by decide)
    refine ⟨_, .role ht, ?_⟩
    rw [ofCall_of_tool ht, requireEnabled_of_asks (hb .enabled (by decide)),
      requireAuthenticated_of_asks (hb .authenticated (by decide)), requireRole_of_not_asks hn]
    rfl
  | permissions =>
    obtain ⟨t, ht, hn, hb⟩ := h.exists_tool (by decide)
    refine ⟨_, .permissions ht, ?_⟩
    rw [ofCall_of_tool ht, requireEnabled_of_asks (hb .enabled (by decide)),
      requireAuthenticated_of_asks (hb .authenticated (by decide)),
      requireRole_of_asks (hb .role (by decide)), requirePermissions_of_not_asks hn]
    rfl
  | arguments =>
    obtain ⟨t, ht, hn, hb⟩ := h.exists_tool (by decide)
    obtain ⟨vs, hvs⟩ := exists_error_of_not_asks hn
    refine ⟨_, .arguments ht hvs, ?_⟩
    rw [ofCall_of_authorized ht hb, requireValid_of_error hvs]
    rfl
  | casefile =>
    obtain ⟨t, ht, hn, hb⟩ := h.exists_tool (by decide)
    obtain ⟨p, hp⟩ := hb .arguments (by decide)
    refine ⟨_, .casefile ht, ?_⟩
    rw [ofCall_of_authorized ht fun g hg => hb g (Nat.lt_succ_of_lt hg), requireValid_of_ok hp]
    show (Admission.requireCasefile t p c.caller >>= fun _ => pure _) = _
    rw [requireCasefile_of_not_asks hp hn]
    rfl
  | real => exact absurd hg (by decide)
  | quota => exact absurd hg (by decide)

/-- An admission is one of the call's tool, with the method that it names and the parameters of valid
arguments. -/
theorem exists_of_admission (ht : c.tool? = some t) {a : Admission}
    (h : Admission.ofCall c.catalog c.name c.raw c.caller = .ok a) :
    ∃ p, t.validate c.raw = .ok p ∧ a = ⟨t, c.method? t, p⟩ := by
  by_cases hall : ∀ g : Gate, g.place < 7 → c.Asks ⟨0⟩ t g
  · obtain ⟨p, hp⟩ := hall .arguments (by decide)
    rw [ofCall_of_asks ht hall hp] at h
    cases h
    exact ⟨p, hp, rfl⟩
  · -- the first gate that does not open refuses the call
    simp only [Classical.not_forall] at hall
    obtain ⟨g, hlt, hn⟩ := hall
    obtain ⟨g', hstops⟩ :=
      exists_stops_of_not_opens g.place g (Nat.le_refl _) (mt (opens_iff_asks ht g).1 hn)
    have hle : g'.place ≤ g.place := Nat.not_lt.1 fun hgt =>
      hn ((opens_iff_asks ht g).1 (hstops.2 g hgt))
    obtain ⟨err, -, hcall⟩ := ofCall_of_stops hstops (by omega)
    rw [hcall] at h
    cases h

theorem tool?_of_admission {a : Admission}
    (h : Admission.ofCall c.catalog c.name c.raw c.caller = .ok a) : c.tool? = some a.tool := by
  cases ht : c.tool? with
  | none =>
    simp only [Admission.ofCall, show c.catalog.tool? c.name = none from ht] at h
    cases h
  | some t =>
    obtain ⟨p, -, rfl⟩ := exists_of_admission ht h
    rfl

/-! ## Invocation -/

variable {σ : Type} {i : Invoker σ} {d : Option Nat} {e : Environment σ}

/-- Invokes the tool over the catalog of the call, through the implementations and the executor of
an invoker. -/
def invoke (c : ToolCall) (i : Invoker σ) : Timed σ (Except ToolError ToolResult × Quota) :=
  { i with catalog := c.catalog : Invoker σ }.invoke c.quota c.name c.raw c.options

theorem invoke_of_refusal {err : ToolError}
    (h : Admission.ofCall c.catalog c.name c.raw c.caller = .error err) :
    c.invoke i d e = (some (.error err, c.quota), e) := by
  simp only [invoke, Invoker.invoke, show Admission.ofCall _ _ _ c.options.caller = _ from h]
  rfl

theorem invoke_of_dryRun {a : Admission}
    (h : Admission.ofCall c.catalog c.name c.raw c.caller = .ok a)
    (hdry : c.options.dryRun = true) :
    c.invoke i d e = (some (.ok (Invoker.preview a), c.quota), e) := by
  simp only [invoke, Invoker.invoke, show Admission.ofCall _ _ _ c.options.caller = _ from h]
  rw [if_pos hdry]
  rfl

/-- A call that passes the gates before the quota takes a use, and is executed if it gets one. -/
theorem invoke_of_admission {a : Admission}
    (h : Admission.ofCall c.catalog c.name c.raw c.caller = .ok a)
    (hdry : c.options.dryRun = false) {r : Except Shortage Unit} {q' : Quota}
    (htake : c.quota.take e.now c.name a.tool.rules.perMinute a.tool.rules.perHour = (r, q')) :
    c.invoke i d e =
      match r with
      | .error s => (some (.error (.rateLimited c.name s.wait), q'), e)
      | .ok () => ((fun r => (.ok r, q')) <$> i.execute a c.options) d e := by
  simp only [invoke, Invoker.invoke, show Admission.ofCall _ _ _ c.options.caller = _ from h]
  rw [if_neg (by rw [hdry]; decide), Timed.bind_apply, Timed.now_apply]
  simp only [htake]
  cases r <;> rfl

/-- A call whose gates all open takes a use and is executed. -/
theorem invoke_of_opens (h : ∀ g, c.Opens e.now g) :
    ∃ t p q', c.tool? = some t ∧ t.validate c.raw = .ok p ∧
      c.quota.take e.now c.name t.rules.perMinute t.rules.perHour = (.ok (), q') ∧
      ∀ i : Invoker σ, ∀ d, c.invoke i d e =
        ((fun r => (.ok r, q')) <$> i.execute ⟨t, c.method? t, p⟩ c.options) d e := by
  obtain ⟨t, ht, -⟩ := h .known
  have hasks g := (opens_iff_asks ht g).1 (h g)
  obtain ⟨p, hp⟩ := hasks .arguments
  have hcall := ofCall_of_asks ht (fun g _ => hasks g) hp
  have htake : c.quota.take e.now c.name t.rules.perMinute t.rules.perHour = (.ok (), _) :=
    Prod.ext (Quota.take_of_admits (hasks .quota)) rfl
  refine ⟨t, p, _, ht, hp, htake, fun i d => ?_⟩
  rw [invoke_of_admission hcall (hasks .real) htake]

/-- The first gate that does not open answers the call, whatever is behind the gates. -/
theorem invoke_of_stops {g : Gate} (h : c.Stops e.now g) :
    ∃ answer q', c.Answers e.now g answer ∧
      (∀ i : Invoker σ, ∀ d, c.invoke i d e = (some (answer, q'), e)) ∧
      c.KeepsCounts e.now g q' := by
  by_cases hg : g.place < 7
  · obtain ⟨err, hans, hcall⟩ := ofCall_of_stops h hg
    have hne : g ≠ .quota := by
      rintro rfl
      exact absurd hg (by decide)
    exact ⟨_, _, hans, fun i d => invoke_of_refusal hcall, keepsCounts_self hne⟩
  · obtain ⟨t, ht, hn, hb⟩ := h.exists_tool (by omega)
    obtain ⟨p, hp⟩ := hb .arguments (Nat.lt_of_lt_of_le (by decide) (Nat.not_lt.1 hg))
    have hcall := ofCall_of_asks ht (fun g' hlt => hb g' (by omega)) hp
    cases g with
    | real =>
      have hdry : c.options.dryRun = true := by simpa [Asks] using hn
      exact ⟨_, _, .real ht hp, fun i d => invoke_of_dryRun hcall hdry,
        keepsCounts_self (by decide)⟩
    | quota =>
      obtain ha | ⟨s, hs⟩ :=
        Quota.admits_or_refuses c.quota e.now c.name t.rules.perMinute t.rules.perHour
      · exact absurd ha hn
      · have htake := Quota.take_of_refuses hs
        refine ⟨_, _, .quota ht hs, fun i d => ?_, keepsCounts_of_refuses ht hs⟩
        rw [invoke_of_admission hcall (hb .real (by decide)) (Prod.ext htake rfl)]
    | _ => exact absurd (by decide) hg

/-- The answer of a gate is no result of an attempt. -/
theorem Answers.attempts_eq_zero {now : Timestamp} {g : Gate} {answer : Except ToolError ToolResult}
    (h : c.Answers now g answer) {r : ToolResult} (hr : answer = .ok r) : r.attempts = 0 := by
  cases h <;> cases hr
  rfl

/-! ## Execution -/

/-- The call reaches its execution: an invocation answers with what becomes of the attempts. -/
def Executes (c : ToolCall) (i : Invoker σ) (e : Environment σ) : Prop :=
  ∃ a q', ∀ d, c.invoke i d e = ((fun r => (.ok r, q')) <$> i.execute a c.options) d e

/-- What an execution answers has an attempt. -/
theorem Executes.attempts_pos (h : c.Executes i e) {answer : Except ToolError ToolResult}
    {q' : Quota} {e' : Environment σ} (hrun : c.invoke i d e = (some (answer, q'), e')) :
    ∃ r, answer = .ok r ∧ 1 ≤ r.attempts := by
  obtain ⟨a, q₁, hexec⟩ := h
  rw [hexec] at hrun
  obtain ⟨r, hr, hanswer⟩ := Timed.exists_of_map_some hrun
  cases hanswer
  exact ⟨r, rfl, Invoker.attempts_of_execute hr⟩

theorem not_executes_of_stops {g : Gate} (h : c.Stops e.now g) : ¬ c.Executes i e := by
  intro hexec
  obtain ⟨answer, q', hans, hsame, -⟩ := invoke_of_stops h
  obtain ⟨r, hr, hpos⟩ := hexec.attempts_pos (hsame i none)
  have := hans.attempts_eq_zero hr
  omega

theorem executes_iff_opens : c.Executes i e ↔ ∀ g, c.Opens e.now g := by
  constructor
  · intro hexec
    obtain h | ⟨g, hg⟩ := opens_or_stops c e.now
    · exact h
    · exact absurd hexec (not_executes_of_stops hg)
  · intro h
    obtain ⟨t, p, q', -, -, -, hexec⟩ := invoke_of_opens h
    exact ⟨_, q', hexec i⟩

end ToolCall

end CasefileHub
