import CasefileHub.Catalog.Builtin
import CasefileHub.Proofs.Catalog.References
import CasefileHub.Proofs.Invocation.Gates
import CasefileHub.Store
/-!
# Tools bound to methods

A tool that is bound to a method is executed through the method's name. Its gates ask for the
permissions of the method only where the method is registered: a call of a tool with a dangling
reference is executed on the tool's own permissions.

    c.Executes i e → (c.Authorized m ↔ m is registered ↔ the reference is not dangling)
                                                      (authorized_iff_registered_of_executes)
-/

namespace CasefileHub.ToolCall

variable {σ : Type} {c : ToolCall} {t : Tool} {m : String} {i : Invoker σ} {e : Environment σ}

/-- The method is registered in the catalog of the call, and the caller holds every permission that
it requires. -/
def Authorized (c : ToolCall) (m : String) : Prop :=
  ∃ method, c.catalog.method? m = some method ∧ method.permits c.caller.permissions = true

/-- A tool with a binding looks up the method of that name. -/
theorem method?_of_binding (hb : t.binding = some m) : c.method? t = c.catalog.method? m := by
  obtain ⟨hname, -⟩ := Option.filter_eq_some_iff.1 hb
  rw [method?, hname, Option.bind_some]

/-- Without its method a tool asks for its own permissions only. -/
theorem opens_permissions_iff_of_unregistered (ht : c.tool? = some t) (hb : t.binding = some m)
    (hm : c.catalog.method? m = none) (now : Timestamp) :
    c.Opens now .permissions ↔ ∀ p ∈ t.rules.requiredPermissions, p ∈ c.caller.permissions := by
  rw [opens_iff_asks ht]
  simp only [Asks, method?_of_binding hb, hm]
  simp

/-- A call that is executed holds the permissions of a registered method. -/
theorem authorized_of_registered (ht : c.tool? = some t) (hb : t.binding = some m)
    (hx : c.Executes i e) {method : Method} (hm : c.catalog.method? m = some method) :
    c.Authorized m := by
  have hopen := (opens_iff_asks ht .permissions).1 (executes_iff_opens.1 hx .permissions)
  exact ⟨method, hm, hopen.2 method ((method?_of_binding hb).trans hm)⟩

/-- All gates open for a real call of a tool that asks for nothing but valid arguments and the
permissions of its method. -/
theorem opens_of_default_rules (ht : c.tool? = some t) (hr : t.rules = {})
    (hm : ∀ method, c.method? t = some method → method.permits c.caller.permissions = true)
    {p : Parameters} (hp : t.validate c.raw = .ok p) (hreal : c.options.dryRun = false)
    (now : Timestamp) (g : Gate) : c.Opens now g := by
  refine ⟨t, ht, ?_⟩
  cases g <;> simp only [Asks, hr]
  case permissions => exact ⟨by simp, hm⟩
  case arguments => exact ⟨p, hp⟩
  case real => exact hreal
  case quota => constructor <;> (rintro ⟨n, hn, -⟩; cases hn)
  all_goals simp

/-- **Bound tools fail closed exactly where the reference is not dangling.** A call that is executed
is authorized if and only if the method is registered, that is, if no issue of the catalog names the
reference. Where it is not, any call of the tool passes on the tool's own permissions. -/
theorem authorized_iff_registered_of_executes (ht : c.tool? = some t) (hb : t.binding = some m)
    (hx : c.Executes i e) :
    (c.Authorized m ↔ (c.catalog.method? m).isSome = true) ∧
    ((c.catalog.method? m).isSome = true ↔
      ∀ operations, .danglingMethod c.name m ∉ c.catalog.consistency operations) ∧
    (c.catalog.method? m = none → ∀ c' : ToolCall, c'.catalog = c.catalog → c'.name = c.name →
      ∀ now, (c'.Opens now .permissions ↔
        ∀ p ∈ t.rules.requiredPermissions, p ∈ c'.caller.permissions)) := by
  refine ⟨⟨?_, ?_⟩, ⟨?_, ?_⟩, ?_⟩
  · rintro ⟨method, hm, -⟩
    rw [hm]
    rfl
  · intro h
    obtain ⟨method, hm⟩ := Option.isSome_iff_exists.1 h
    exact authorized_of_registered ht hb hx hm
  · intro h operations hmem
    rw [(Catalog.dangling_mem_consistency_iff ht hb operations).1 hmem] at h
    cases h
  · intro h
    cases hm : c.catalog.method? m with
    | some method => rfl
    | none => exact absurd ((Catalog.dangling_mem_consistency_iff ht hb []).2 hm) (h [])
  · intro hm c' hc hn now
    rw [← hc] at hm
    have ht' : c'.tool? = some t := by
      unfold tool?
      rw [hc, hn]
      exact ht
    exact opens_permissions_iff_of_unregistered ht' hb hm now

/-! ## A method that is unregistered -/

/-- A tool that is bound to a method, and both registered. -/
def reader : Tool := .forMethod .getCasefile "get_casefile_tool" "casefile" {}

def readers : Catalog where
  methods := .replace .empty .getCasefile
  tools := .replace .empty reader

theorem readers_built : readers.Built :=
  .registerTool (.registerMethod (m := .getCasefile) .empty rfl) (t := reader) rfl

/-- A call to read a casefile, with some permissions. -/
def reading (catalog : Catalog) (permissions : List String) : ToolCall where
  catalog := catalog
  quota := {}
  name := "get_casefile_tool"
  raw := .obj [("casefile_id", .str "cf_1")]
  options := { caller := { permissions := permissions } }

theorem reading_executes {k : Catalog} {permissions : List String}
    (ht : k.tool? "get_casefile_tool" = some reader)
    (hm : ∀ method, k.method? OperationName.getCasefile = some method →
      method.permits permissions = true) :
    (reading k permissions).Executes i e :=
  executes_iff_opens.2 fun g =>
    opens_of_default_rules (c := reading k permissions) ht rfl hm
      (p := .ofList [("casefile_id", .str "cf_1")]) rfl rfl e.now g

/-- A caller with the permission reads where the method is registered, and is authorized. -/
theorem reading_authorized :
    (∀ (i : Invoker Unit) (e : Environment Unit),
      (reading readers ["casefile:read"]).Executes i e) ∧
    (reading readers ["casefile:read"]).Authorized OperationName.getCasefile := by
  have hx (i : Invoker Unit) (e : Environment Unit) :
      (reading readers ["casefile:read"]).Executes i e := by
    refine reading_executes rfl fun method hm => ?_
    cases hm
    rfl
  refine ⟨hx, ?_⟩
  exact (authorized_iff_registered_of_executes (t := reader) (i := { catalog := readers })
    (e := ⟨(), 0, ⟨0⟩, 0⟩) rfl rfl (hx _ _)).1.2 rfl

/-- A builder can leave a tool whose method is gone. A call without any permission is executed, and
its work is that of the executor under the method's name. -/
theorem unregistered_reading_executes :
    (readers.unregisterMethod OperationName.getCasefile).Built ∧
    (readers.unregisterMethod OperationName.getCasefile).tool? "get_casefile_tool" = some reader ∧
    reader.binding = some OperationName.getCasefile ∧
    (∀ (i : Invoker Store) (e : Environment Store),
      (reading (readers.unregisterMethod OperationName.getCasefile) []).Executes i e) ∧
    (∀ (k : Catalog) (x : Executor Store) (p : Parameters) (caller : Caller),
      { catalog := k, executor := some x : Invoker Store }.work ⟨reader, none, p⟩ caller =
        x OperationName.getCasefile p caller) ∧
    ¬ (reading (readers.unregisterMethod OperationName.getCasefile) []).Authorized
      OperationName.getCasefile := by
  refine ⟨.unregisterMethod _ readers_built, rfl, rfl, fun i e => ?_, fun _ _ _ _ => rfl, ?_⟩
  · refine reading_executes rfl fun method hm => ?_
    cases hm
  · rintro ⟨method, hm, -⟩
    cases hm

end CasefileHub.ToolCall
