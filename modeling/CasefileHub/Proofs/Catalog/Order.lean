import CasefileHub.Catalog.Builtin
import CasefileHub.Catalog.Consistency
import CasefileHub.Catalog.Drift
import CasefileHub.Proofs.Catalog.History
/-!
# The order of registrations

Registrations of different names do not see each other: in whichever order they come, the registries
come out the same, with every listing, check and comparison over them.

    nothing is unregistered → the changes are the registrations of what is given
                                                     (onMethods?_eq_register, onTools?_eq_register)
    different names, l.Perm l' → c.after l = c.after l'                                (after_perm)
-/

namespace CasefileHub.Catalog

namespace Change

/-- The method that a call registers, over the known models. -/
def method? (models : Registry Model) : Change → Option Method
  | .registerMethod m => some m
  | .registerRecord r => (r.resolve models).toOption
  | .registerTool _ | .unregisterMethod _ | .unregisterTool _ => none

/-- The tool that a call registers. -/
def tool? : Change → Option Tool
  | .registerTool t => some t
  | .registerMethod _ | .registerRecord _ | .unregisterMethod _ | .unregisterTool _ => none

def isRegistration : Change → Bool
  | .registerMethod _ | .registerRecord _ | .registerTool _ => true
  | .unregisterMethod _ | .unregisterTool _ => false

variable {x : Change}

theorem onMethods?_eq_register (models : Registry Model) (h : x.isRegistration = true) :
    x.onMethods? models = (x.method? models).map .register := by
  cases x with
  | registerMethod _ => rfl
  | registerRecord _ => rfl
  | registerTool _ => rfl
  | unregisterMethod _ => cases h
  | unregisterTool _ => cases h

theorem onTools?_eq_register (h : x.isRegistration = true) :
    x.onTools? = x.tool?.map .register := by
  cases x with
  | registerMethod _ => rfl
  | registerRecord _ => rfl
  | registerTool _ => rfl
  | unregisterMethod _ => cases h
  | unregisterTool _ => cases h

end Change

variable {c : Catalog} {l l' : List Change}

/-- Registrations alone register the methods and the tools that they give. -/
theorem after_registrations (c : Catalog) (h : ∀ x ∈ l, x.isRegistration = true) :
    c.after l =
      { methods := c.methods.registered (l.filterMap (·.method? c.models))
        tools := c.tools.registered (l.filterMap (·.tool?))
        models := c.models } := by
  have hmethods : l.filterMap (·.onMethods? c.models) =
      (l.filterMap (·.method? c.models)).map .register := by
    rw [List.map_filterMap]
    exact List.filterMap_congr fun x hx => Change.onMethods?_eq_register c.models (h x hx)
  have htools : l.filterMap (·.onTools?) = (l.filterMap (·.tool?)).map .register := by
    rw [List.map_filterMap]
    exact List.filterMap_congr fun x hx => Change.onTools?_eq_register (h x hx)
  rw [after_eq, hmethods, htools]
  rfl

/-- Two catalogs that give the same answers, in the same order. -/
structure Indistinguishable (c c' : Catalog) : Prop where
  method? : ∀ name, c.method? name = c'.method? name
  tool? : ∀ name, c.tool? name = c'.tool? name
  methodNames : c.methods.names = c'.methods.names
  toolNames : c.tools.names = c'.tools.names
  methods : c.methods.toList = c'.methods.toList
  tools : c.tools.toList = c'.tools.toList
  methodsBy : ∀ f, c.methodsBy f = c'.methodsBy f
  methodsByText : ∀ field value, c.methodsByText field value = c'.methodsByText field value
  toolsBy : ∀ f, c.toolsBy f = c'.toolsBy f
  toolsFor : ∀ method, c.toolsFor method = c'.toolsFor method
  consistency : ∀ operations, c.consistency operations = c'.consistency operations
  between : ∀ records,
    Discrepancy.between records c.methods = Discrepancy.between records c'.methods

/-- **Registrations of different names may come in any order.** -/
theorem after_perm (c : Catalog) (hperm : l.Perm l') (hregister : ∀ x ∈ l, x.isRegistration = true)
    (hmethods : ((l.filterMap (·.method? c.models)).map (·.name)).Nodup)
    (htools : ((l.filterMap (·.tool?)).map (·.name)).Nodup) :
    c.after l = c.after l' ∧ (c.after l).Indistinguishable (c.after l') := by
  have hregister' : ∀ x ∈ l', x.isRegistration = true :=
    fun x hx => hregister x (hperm.mem_iff.2 hx)
  have heq : c.after l = c.after l' := by
    rw [after_registrations c hregister, after_registrations c hregister',
      Registry.registered_perm c.methods (hperm.filterMap _) hmethods,
      Registry.registered_perm c.tools (hperm.filterMap _) htools]
  refine ⟨heq, ?_⟩
  rw [heq]
  constructor <;> intros <;> rfl

/-- The calls that register what is built in. -/
def builtinCalls : List Change :=
  Method.builtin.map .registerMethod ++ Tool.builtin.map .registerTool

/-- What is built in may be registered backwards. -/
theorem builtin_backwards :
    (after {} builtinCalls.reverse).methods.names = builtin.methods.names ∧
    after {} builtinCalls = after {} builtinCalls.reverse ∧
    (after {} builtinCalls).Indistinguishable (after {} builtinCalls.reverse) := by
  refine ⟨by decide +kernel, after_perm {} builtinCalls.reverse_perm.symm ?_ ?_ ?_⟩
  · decide
  · decide
  · decide

end CasefileHub.Catalog
