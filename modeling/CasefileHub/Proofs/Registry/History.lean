import Mathlib.Data.List.Nodup
import CasefileHub.Registry
/-!
# Histories of a registry

A registry changes by registrations, which fail where the name is taken and then leave it as it was,
and by erasures. What is found under a name in the end is what was last registered under it while
the name was free, unless it was erased since. Registrations of different names do not see each
other, so their order does not matter:

    (r.after l).get? name = some a ↔ r.Stands l name a ∨ it was there and was not erased
                                                                              (get?_after_iff)
    what is found after registrations was there, or is the first of its name  (get?_registered)
    different names, l.Perm l' → r.registered l = r.registered l'             (registered_perm)
-/

namespace CasefileHub.Registry

variable {α : Type} [Named α]

inductive Change (α : Type) where
  | register (a : α)
  | erase (name : String)

/-- The registry after a change, and the outcome. -/
def step (r : Registry α) : Change α → Registry α × Except HubError Unit
  | .register a =>
    match r.register a with
    | .ok r' => (r', .ok ())
    | .error err => (r, .error err)
  | .erase name => (r.erase name, .ok ())

/-- The registry after some changes. -/
def after (r : Registry α) (l : List (Change α)) : Registry α := l.foldl (fun r x => (r.step x).1) r

variable {r : Registry α} {a : α} {x : Change α} {l : List (Change α)} {name : String}

/-! ## One change -/

theorem step_of_free (h : r.get? (Named.name a) = none) :
    r.step (.register a) = (r.replace a, .ok ()) := by
  have habsent : r.contains (Named.name a) = false := by
    rw [contains, h]
    rfl
  rw [step, register_of_absent habsent]

theorem step_of_taken (h : (r.get? (Named.name a)).isSome) :
    r.step (.register a) = (r, .error (.conflict (Named.registry α) (Named.name a))) := by
  have hpresent : r.contains (Named.name a) = true := h
  rw [step, register, if_pos hpresent]

/-- A registration succeeds exactly if its name is free. -/
theorem step_register_isOk_iff :
    (r.step (.register a)).2 = .ok () ↔ r.get? (Named.name a) = none := by
  cases h : r.get? (Named.name a) with
  | none => simp [step_of_free h]
  | some b => simp [step_of_taken (r := r) (a := a) (by rw [h]; rfl)]

theorem step_register_fails_iff :
    (r.step (.register a)).2 ≠ .ok () ↔ (r.get? (Named.name a)).isSome := by
  rw [Option.isSome_iff_ne_none]
  exact not_congr step_register_isOk_iff

/-- What is found after a change was registered by it, or was found before and not erased. -/
theorem get?_step_iff :
    (r.step x).1.get? name = some a ↔
      (x = .register a ∧ Named.name a = name ∧ r.get? name = none) ∨
        (r.get? name = some a ∧ x ≠ .erase name) := by
  cases x with
  | register b =>
    cases hb : r.get? (Named.name b) with
    | none =>
      rw [step_of_free hb, get?_replace]
      by_cases hname : name = Named.name b
      · subst hname
        rw [if_pos rfl]
        constructor
        · rintro ⟨rfl⟩
          exact .inl ⟨rfl, rfl, hb⟩
        · rintro (⟨⟨rfl⟩, -, -⟩ | ⟨h, -⟩)
          · rfl
          · rw [hb] at h
            cases h
      · rw [if_neg hname]
        constructor
        · intro h
          exact .inr ⟨h, by simp⟩
        · rintro (⟨⟨rfl⟩, rfl, -⟩ | ⟨h, -⟩)
          · exact absurd rfl hname
          · exact h
    | some b' =>
      rw [step_of_taken (by rw [hb]; rfl)]
      constructor
      · intro h
        exact .inr ⟨h, by simp⟩
      · rintro (⟨⟨rfl⟩, rfl, h⟩ | ⟨h, -⟩)
        · rw [hb] at h
          cases h
        · exact h
  | erase n =>
    show (r.erase n).get? name = some a ↔ _
    rw [get?_erase]
    by_cases hname : name = n
    · subst hname
      simp
    · rw [if_neg hname]
      have hne : Change.erase n ≠ (Change.erase name : Change α) := by
        rintro ⟨rfl⟩
        exact hname rfl
      simp [hne]

/-! ## Histories -/

/-- An entry was registered, with success, and its name was not erased since. -/
def Stands (r : Registry α) (l : List (Change α)) (name : String) (a : α) : Prop :=
  ∃ before later, l = before ++ .register a :: later ∧ Named.name a = name ∧
    ((r.after before).step (.register a)).2 = .ok () ∧ .erase name ∉ later

/-- What stands after a first change and others stands by the first one or by the others. -/
theorem stands_cons_iff :
    r.Stands (x :: l) name a ↔
      (x = .register a ∧ Named.name a = name ∧ r.get? name = none ∧ .erase name ∉ l) ∨
        (r.step x).1.Stands l name a := by
  unfold Stands
  constructor
  · rintro ⟨before, later, hl, hname, hok, hlater⟩
    rcases List.cons_eq_append_iff.1 hl with ⟨rfl, hcons⟩ | ⟨before', rfl, rfl⟩
    · obtain ⟨rfl, rfl⟩ := List.cons.inj hcons
      rw [step_register_isOk_iff, hname] at hok
      exact .inl ⟨rfl, hname, hok, hlater⟩
    · exact .inr ⟨before', later, rfl, hname, hok, hlater⟩
  · rintro (⟨rfl, hname, hfree, hl⟩ | ⟨before, later, rfl, hname, hok, hlater⟩)
    · refine ⟨[], l, rfl, hname, ?_, hl⟩
      rw [step_register_isOk_iff, hname]
      exact hfree
    · exact ⟨x :: before, later, rfl, hname, hok, hlater⟩

/-- **The state of a registry is told by its history.** -/
theorem get?_after_iff :
    (r.after l).get? name = some a ↔
      r.Stands l name a ∨ (r.get? name = some a ∧ .erase name ∉ l) := by
  induction l generalizing r with
  | nil =>
    have hnone : ¬ r.Stands [] name a := by
      rintro ⟨before, later, hl, -⟩
      simp at hl
    simp [after, hnone]
  | cons x l ih =>
    show ((r.step x).1.after l).get? name = some a ↔ _
    rw [ih, get?_step_iff, stands_cons_iff]
    simp only [List.mem_cons, not_or, ne_comm]
    tauto

theorem after_append (r : Registry α) (l l' : List (Change α)) :
    r.after (l ++ l') = (r.after l).after l' :=
  List.foldl_append

/-- What stands by the changes that events amount to, told by the events. -/
theorem stands_filterMap_iff {ε : Type} (change? : ε → Option (Change α)) {events : List ε} :
    r.Stands (events.filterMap change?) name a ↔
      ∃ before x later, events = before ++ x :: later ∧ change? x = some (.register a) ∧
        Named.name a = name ∧
        ((r.after (before.filterMap change?)).step (.register a)).2 = .ok () ∧
        ∀ y ∈ later, change? y ≠ some (.erase name) := by
  constructor
  · rintro ⟨before, later, hl, hname, hok, hlater⟩
    obtain ⟨front, back, rfl, rfl, hback⟩ := List.filterMap_eq_append_iff.1 hl
    obtain ⟨idle, x, rest, rfl, hidle, hx, rfl⟩ := List.filterMap_eq_cons_iff.1 hback
    -- the events between the last change and this one amount to none
    have hfront : (front ++ idle).filterMap change? = front.filterMap change? := by
      rw [List.filterMap_append, List.filterMap_eq_nil_iff.2 hidle, List.append_nil]
    refine ⟨front ++ idle, x, rest, by rw [List.append_assoc], hx, hname, ?_, ?_⟩
    · rw [hfront]
      exact hok
    · intro y hy herase
      exact hlater (List.mem_filterMap.2 ⟨y, hy, herase⟩)
  · rintro ⟨before, x, later, rfl, hx, hname, hok, hlater⟩
    refine ⟨before.filterMap change?, later.filterMap change?, ?_, hname, hok, ?_⟩
    · rw [List.filterMap_append, List.filterMap_cons_some hx]
    · intro hmem
      obtain ⟨y, hy, herase⟩ := List.mem_filterMap.1 hmem
      exact hlater y hy herase

/-! ## Registrations alone -/

/-- The registry after registrations, of which those of a taken name fail. -/
def registered (r : Registry α) (entries : List α) : Registry α := r.after (entries.map .register)

variable {entries entries' : List α}

theorem get?_step_register (r : Registry α) (a : α) (name : String) :
    (r.step (.register a)).1.get? name =
      (r.get? name).or (if Named.name a = name then some a else none) := by
  cases ha : r.get? (Named.name a) with
  | none =>
    rw [step_of_free ha, get?_replace]
    by_cases hname : Named.name a = name
    · subst hname
      rw [if_pos rfl, if_pos rfl, ha, Option.none_or]
    · rw [if_neg (Ne.symm hname), if_neg hname, Option.or_none]
  | some b =>
    rw [step_of_taken (by rw [ha]; rfl)]
    by_cases hname : Named.name a = name
    · subst hname
      rw [ha, Option.some_or]
    · rw [if_neg hname, Option.or_none]

/-- What was there before stays. Else the first registration of a name counts. -/
theorem get?_registered (r : Registry α) (entries : List α) (name : String) :
    (r.registered entries).get? name = (r.get? name).or (entries.find? (Named.name · = name)) := by
  induction entries generalizing r with
  | nil => simp [registered, after]
  | cons a rest ih =>
    show ((r.step (.register a)).1.registered rest).get? name = _
    rw [ih, get?_step_register, Option.or_assoc, List.find?_cons]
    by_cases hname : Named.name a = name
    · simp [hname]
    · simp [hname]

/-- Of entries with different names, that of a name is found. -/
theorem find?_name_iff (h : (entries.map Named.name).Nodup) :
    entries.find? (Named.name · = name) = some a ↔ a ∈ entries ∧ Named.name a = name := by
  constructor
  · intro hfind
    exact ⟨List.mem_of_find?_eq_some hfind, by simpa using List.find?_some hfind⟩
  · rintro ⟨hmem, rfl⟩
    cases hfind : entries.find? (Named.name · = Named.name a) with
    | none => exact absurd (List.find?_eq_none.1 hfind a hmem) (by simp)
    | some b =>
      have hb : Named.name b = Named.name a := by simpa using List.find?_some hfind
      rw [List.inj_on_of_nodup_map h (List.mem_of_find?_eq_some hfind) hmem hb]

/-- **Registrations of different names commute.** -/
theorem registered_perm (r : Registry α) (hperm : entries.Perm entries')
    (h : (entries.map Named.name).Nodup) : r.registered entries = r.registered entries' := by
  have h' : (entries'.map Named.name).Nodup := (hperm.map Named.name).nodup_iff.1 h
  apply ext_get?
  intro name
  have hfind : entries.find? (Named.name · = name) = entries'.find? (Named.name · = name) := by
    apply Option.ext
    intro a
    rw [find?_name_iff h, find?_name_iff h', hperm.mem_iff]
  rw [get?_registered, get?_registered, hfind]

end CasefileHub.Registry
