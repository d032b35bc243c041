import CasefileHub.Catalog
import CasefileHub.Proofs.Catalog.Declaration
import CasefileHub.Proofs.Registry.History
/-!
# Histories of a catalog

Calls change the methods and the tools of a catalog one by one, and a call that is refused leaves
everything as it was. Each call is a change of one registry, or a record that does not resolve and
is none. So the two registries have a history each, which the history of the calls gives:

    c.after l = ⟨c.methods.after (the changes of methods in l),
                 c.tools.after (the changes of tools in l), c.models⟩        (after_eq)
    an entry is found exactly if it was registered and not erased since      (history_law)
-/

namespace CasefileHub.Catalog

/-- A call that changes the methods or the tools. -/
inductive Change where
  | registerMethod (m : Method)
  | registerRecord (r : CapabilityRecord)
  | registerTool (t : Tool)
  | unregisterMethod (name : String)
  | unregisterTool (name : String)

namespace Change

/-- What a call is to the methods, over the known models. -/
def onMethods? (models : Registry Model) : Change → Option (Registry.Change Method)
  | .registerMethod m => some (.register m)
  | .registerRecord r => (r.resolve models).toOption.map .register
  | .unregisterMethod name => some (.erase name)
  | .registerTool _ | .unregisterTool _ => none

/-- What a call is to the tools. -/
def onTools? : Change → Option (Registry.Change Tool)
  | .registerTool t => some (.register t)
  | .unregisterTool name => some (.erase name)
  | .registerMethod _ | .registerRecord _ | .unregisterMethod _ => none

/-- The call is one on methods. The others are on tools. -/
def isOnMethods : Change → Bool
  | .registerMethod _ | .registerRecord _ | .unregisterMethod _ => true
  | .registerTool _ | .unregisterTool _ => false

end Change

def attempt (c : Catalog) : Change → Except HubError Catalog
  | .registerMethod m => c.registerMethod m
  | .registerRecord r => c.registerRecord r
  | .registerTool t => c.registerTool t
  | .unregisterMethod name => .ok (c.unregisterMethod name)
  | .unregisterTool name => .ok (c.unregisterTool name)

/-- The catalog after a call, and the outcome of the call. -/
def step (c : Catalog) (x : Change) : Catalog × Except HubError Unit :=
  match c.attempt x with
  | .ok c' => (c', .ok ())
  | .error err => (c, .error err)

/-- The catalog after some calls. -/
def after (c : Catalog) (l : List Change) : Catalog := l.foldl (fun c x => (c.step x).1) c

variable {c : Catalog} {x : Change} {l : List Change}

/-! ## One call -/

theorem step_registerMethod (c : Catalog) (m : Method) :
    c.step (.registerMethod m) =
      ({ c with methods := (c.methods.step (.register m)).1 },
        (c.methods.step (.register m)).2) := by
  have hattempt : c.attempt (.registerMethod m) =
      (c.methods.register m).map ({ c with methods := · }) := rfl
  rw [step, Registry.step, hattempt]
  cases c.methods.register m <;> rfl

theorem step_registerTool (c : Catalog) (t : Tool) :
    c.step (.registerTool t) =
      ({ c with tools := (c.tools.step (.register t)).1 }, (c.tools.step (.register t)).2) := by
  have hattempt : c.attempt (.registerTool t) =
      (c.tools.register t).map ({ c with tools := · }) := rfl
  rw [step, Registry.step, hattempt]
  cases c.tools.register t <;> rfl

theorem step_registerRecord {r : CapabilityRecord} {m : Method} (h : r.resolve c.models = .ok m) :
    c.step (.registerRecord r) = c.step (.registerMethod m) := by
  have hattempt : c.attempt (.registerRecord r) = c.attempt (.registerMethod m) := by
    show c.registerRecord r = c.registerMethod m
    rw [registerRecord, h]
  rw [step, step, hattempt]

/-- A record that does not resolve is refused. -/
theorem step_unresolved {r : CapabilityRecord} {issues : List RecordIssue}
    (h : r.resolve c.models = .error issues) :
    ∃ err, c.step (.registerRecord r) = (c, .error err) := by
  have hattempt : ∃ err, c.attempt (.registerRecord r) = .error err := by
    show ∃ err, c.registerRecord r = .error err
    unfold registerRecord
    rw [h]
    exact ⟨_, rfl⟩
  obtain ⟨err, herr⟩ := hattempt
  exact ⟨err, by rw [step, herr]⟩

/-- A call that is a change of the methods changes them alone, and has its outcome. -/
theorem step_onMethods {y : Registry.Change Method} (hx : x.onMethods? c.models = some y) :
    c.step x = ({ c with methods := (c.methods.step y).1 }, (c.methods.step y).2) := by
  cases x with
  | registerMethod m =>
    cases hx
    exact step_registerMethod c m
  | registerRecord r =>
    cases hresolve : r.resolve c.models with
    | ok m =>
      simp only [Change.onMethods?, hresolve, Except.toOption, Option.map_some] at hx
      cases hx
      rw [step_registerRecord hresolve, step_registerMethod]
    | error issues => simp [Change.onMethods?, hresolve, Except.toOption] at hx
  | unregisterMethod name =>
    cases hx
    rfl
  | registerTool _ => cases hx
  | unregisterTool _ => cases hx

/-- A call that is a change of the tools changes them alone, and has its outcome. -/
theorem step_onTools {y : Registry.Change Tool} (hx : x.onTools? = some y) :
    c.step x = ({ c with tools := (c.tools.step y).1 }, (c.tools.step y).2) := by
  cases x with
  | registerTool t =>
    cases hx
    exact step_registerTool c t
  | unregisterTool name =>
    cases hx
    rfl
  | registerMethod _ => cases hx
  | registerRecord _ => cases hx
  | unregisterMethod _ => cases hx

/-- Every other call is refused. -/
theorem step_onNeither (hm : x.onMethods? c.models = none) (ht : x.onTools? = none) :
    ∃ err, c.step x = (c, .error err) := by
  cases x with
  | registerMethod m => cases hm
  | registerRecord r =>
    cases hresolve : r.resolve c.models with
    | ok m => simp [Change.onMethods?, hresolve, Except.toOption] at hm
    | error issues => exact step_unresolved hresolve
  | unregisterMethod _ => cases hm
  | registerTool _ => cases ht
  | unregisterTool _ => cases ht

theorem onTools?_of_onMethods? {models : Registry Model} {y : Registry.Change Method}
    (hx : x.onMethods? models = some y) : x.onTools? = none := by
  cases x with
  | registerMethod _ => rfl
  | registerRecord _ => rfl
  | unregisterMethod _ => rfl
  | registerTool _ => cases hx
  | unregisterTool _ => cases hx

/-- What a call does, told by the registries. -/
theorem step_eq (c : Catalog) (x : Change) :
    (c.step x).1 =
      { methods := c.methods.after (x.onMethods? c.models).toList
        tools := c.tools.after x.onTools?.toList
        models := c.models } := by
  cases hm : x.onMethods? c.models with
  | some y =>
    rw [step_onMethods hm, onTools?_of_onMethods? hm]
    rfl
  | none =>
    cases ht : x.onTools? with
    | some y =>
      rw [step_onTools ht]
      rfl
    | none =>
      obtain ⟨err, hstep⟩ := step_onNeither hm ht
      rw [hstep]
      rfl

/-- When a call fails. -/
def Refuses (c : Catalog) : Change → Prop
  | .registerMethod m => (c.method? m.name).isSome
  | .registerRecord r => (c.method? r.name).isSome ∨ ∃ issues, r.resolve c.models = .error issues
  | .registerTool t => (c.tool? t.name).isSome
  | .unregisterMethod _ | .unregisterTool _ => False

theorem step_registerMethod_fails_iff (c : Catalog) (m : Method) :
    (c.step (.registerMethod m)).2 ≠ .ok () ↔ (c.method? m.name).isSome := by
  rw [step_registerMethod]
  exact Registry.step_register_fails_iff

theorem step_fails_iff (c : Catalog) (x : Change) : (c.step x).2 ≠ .ok () ↔ c.Refuses x := by
  cases x with
  | registerMethod m => exact step_registerMethod_fails_iff c m
  | registerRecord r =>
    cases hresolve : r.resolve c.models with
    | ok m =>
      have hname : m.name = r.name := CapabilityRecord.name_of_resolve hresolve
      rw [step_registerRecord hresolve, step_registerMethod_fails_iff, hname]
      simp [Refuses, hresolve]
    | error issues =>
      obtain ⟨err, hstep⟩ := step_unresolved hresolve
      exact iff_of_true (by simp [hstep]) (.inr ⟨issues, hresolve⟩)
  | registerTool t =>
    rw [step_registerTool]
    exact Registry.step_register_fails_iff
  | unregisterMethod name => exact iff_of_false (fun h => h rfl) id
  | unregisterTool name => exact iff_of_false (fun h => h rfl) id

theorem step_of_refuses (h : c.Refuses x) : (c.step x).1 = c := by
  have hfails := (step_fails_iff c x).2 h
  unfold step at hfails ⊢
  cases hattempt : c.attempt x with
  | ok c' => simp [hattempt] at hfails
  | error err => rfl

/-! ## Histories -/

/-- The registries after some calls, each by its own changes. -/
theorem after_eq (c : Catalog) (l : List Change) :
    c.after l =
      { methods := c.methods.after (l.filterMap (·.onMethods? c.models))
        tools := c.tools.after (l.filterMap (·.onTools?))
        models := c.models } := by
  induction l generalizing c with
  | nil => rfl
  | cons x l ih =>
    have hcons {β : Type} (f : Change → Option β) :
        (x :: l).filterMap f = (f x).toList ++ l.filterMap f := by
      cases h : f x <;> simp [h]
    show (c.step x).1.after l = _
    rw [ih, step_eq, hcons, hcons, Registry.after_append, Registry.after_append]

/-- Calls of one kind leave the other registry out. -/
theorem methods_after_filter (c : Catalog) (l : List Change) :
    (c.after (l.filter (·.isOnMethods))).methods = (c.after l).methods := by
  have hidle : ∀ x ∈ l, (if x.isOnMethods then x.onMethods? c.models else none) =
      x.onMethods? c.models := by
    intro x _
    cases x <;> rfl
  rw [after_eq, after_eq]
  show c.methods.after _ = c.methods.after _
  rw [List.filterMap_filter, List.filterMap_congr hidle]

theorem tools_after_filter (c : Catalog) (l : List Change) :
    (c.after (l.filter (!·.isOnMethods))).tools = (c.after l).tools := by
  have hidle : ∀ x ∈ l, (if !x.isOnMethods then x.onTools? else none) = x.onTools? := by
    intro x _
    cases x <;> rfl
  rw [after_eq, after_eq]
  show c.tools.after _ = c.tools.after _
  rw [List.filterMap_filter, List.filterMap_congr hidle]

section

variable {α : Type} [Named α]

/-- A call registered an entry under a name, with success, and no later call erased the name. -/
def Stands (c : Catalog) (on? : Change → Option (Registry.Change α)) (l : List Change)
    (name : String) (a : α) : Prop :=
  ∃ before x later, l = before ++ x :: later ∧ on? x = some (.register a) ∧ Named.name a = name ∧
    ((c.after before).step x).2 = .ok () ∧ ∀ y ∈ later, on? y ≠ some (.erase name)

/-- What a registry holds after some calls on a catalog, by what each call is to it. -/
structure Tells (c : Catalog) (on? : Change → Option (Registry.Change α)) (l : List Change)
    (first last : Registry α) : Prop where
  /-- Found is what stands, and what was there from the first and was not erased. -/
  found : ∀ name a, last.get? name = some a ↔
    c.Stands on? l name a ∨ (first.get? name = some a ∧ ∀ y ∈ l, on? y ≠ some (.erase name))
  named : ∀ name a, last.get? name = some a → Named.name a = name
  listed : ∀ name, name ∈ last.names ↔ ∃ a, last.get? name = some a
  ascending : last.names.Pairwise (· < ·)

/-- A registry tells of the calls that are its changes and have the outcomes of these. -/
theorem tells_of_outcomes {on? : Change → Option (Registry.Change α)} {first : Registry α}
    (houtcome : ∀ before x a, on? x = some (.register a) →
      ((c.after before).step x).2 = ((first.after (before.filterMap on?)).step (.register a)).2) :
    c.Tells on? l first (first.after (l.filterMap on?)) := by
  constructor
  · intro name a
    have hstands : first.Stands (l.filterMap on?) name a ↔ c.Stands on? l name a := by
      rw [Registry.stands_filterMap_iff]
      constructor
      · rintro ⟨before, x, later, hl, hx, hname, hok, hlater⟩
        exact ⟨before, x, later, hl, hx, hname, (houtcome before x a hx).trans hok, hlater⟩
      · rintro ⟨before, x, later, hl, hx, hname, hok, hlater⟩
        exact ⟨before, x, later, hl, hx, hname, (houtcome before x a hx).symm.trans hok, hlater⟩
    have herased : .erase name ∉ l.filterMap on? ↔ ∀ y ∈ l, on? y ≠ some (.erase name) := by
      simp [List.mem_filterMap]
    rw [Registry.get?_after_iff, hstands, herased]
  · exact (first.after _).named
  · intro name
    rw [Registry.names, Table.mem_names_iff, Option.isSome_iff_exists]
    rfl
  · exact (first.after _).table.names_ascending

end

theorem methods_tell (c : Catalog) (l : List Change) :
    c.Tells (·.onMethods? c.models) l c.methods (c.after l).methods := by
  rw [after_eq]
  apply tells_of_outcomes
  intro before x m hx
  have hx' : x.onMethods? (c.after before).models = some (.register m) := by
    rw [after_eq]
    exact hx
  rw [step_onMethods hx', after_eq]

theorem tools_tell (c : Catalog) (l : List Change) :
    c.Tells (·.onTools?) l c.tools (c.after l).tools := by
  rw [after_eq]
  apply tells_of_outcomes
  intro before x t hx
  rw [step_onTools hx, after_eq]

/-- **The law of histories.** After any calls, the methods and the tools hold what was registered,
with success, and not unregistered since; a call fails exactly if the name is taken or the record
does not resolve, and then changes nothing; and calls on the one kind do not matter to the other. -/
theorem history_law (c : Catalog) (l : List Change) :
    c.Tells (·.onMethods? c.models) l c.methods (c.after l).methods ∧
    c.Tells (·.onTools?) l c.tools (c.after l).tools ∧
    (∀ x, ((c.after l).step x).2 ≠ .ok () ↔ (c.after l).Refuses x) ∧
    (∀ x, (c.after l).Refuses x → ((c.after l).step x).1 = c.after l) ∧
    (c.after (l.filter (·.isOnMethods))).methods = (c.after l).methods ∧
    (c.after (l.filter (!·.isOnMethods))).tools = (c.after l).tools ∧
    (c.after l).models = c.models := by
  refine ⟨methods_tell c l, tools_tell c l, step_fails_iff _, fun x => step_of_refuses,
    methods_after_filter c l, tools_after_filter c l, ?_⟩
  rw [after_eq]

end CasefileHub.Catalog
