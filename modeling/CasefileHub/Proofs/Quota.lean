import CasefileHub.Quota
/-!
# What a quota admits

A limit is *full* when its period is not over and has no room for one more use. A use is admitted
exactly when neither limit is full. A refusal names the first full limit, the minute before the
hour, and changes the count of no period that is still going on, now or later. The count of a minute
that is over begins anew when its limit is looked at, even if the hour then refuses the use:

    Admits q now tool m h → (q.take now tool m h).1 = ok               (take_of_admits)
    q.Refuses now tool m h s → (q.take now tool m h).2.uses = q.uses  (uses_of_refuses)
    q.Refuses now tool m h s → both counts of (q.take now tool m h).2 are those of q, but that of a
      minute of the tool that has a limit and is over                 (counts_of_refuses)
-/

namespace CasefileHub

namespace Tally

/-- The period is not over and the limit is reached. -/
def Full (t : Tally) (w : Window) (now : Timestamp) (limit : Option Nat) : Prop :=
  ∃ n, limit = some n ∧ t.isOver w now = false ∧ n ≤ t.count

/-- The uses in the current period: none in one that is over. -/
def live (t : Tally) (w : Window) (now : Timestamp) : Nat := if t.isOver w now then 0 else t.count

/-! ## Looking at one limit -/

theorem check_of_full {t : Tally} {w : Window} {now : Timestamp} {limit : Option Nat}
    (h : t.Full w now limit) : t.check w now limit = (some (t.wait w now), t) := by
  obtain ⟨n, rfl, hover, hn⟩ := h
  simp [check, hover, hn]

theorem check_of_not_full {t : Tally} {w : Window} {now : Timestamp} {limit : Option Nat}
    (h : ¬ t.Full w now limit) : ∃ t', t.check w now limit = (none, t') := by
  cases limit with
  | none => exact ⟨t, rfl⟩
  | some n =>
    simp only [check]
    split
    · exact ⟨_, rfl⟩
    · rename_i hover
      rw [if_neg]
      · exact ⟨_, rfl⟩
      · intro hn
        exact h ⟨n, rfl, Bool.eq_false_iff.2 hover, hn⟩

/-- A period that is over stays over. -/
theorem isOver_of_le {t : Tally} {w : Window} {now later : Timestamp}
    (hle : now.nanoseconds ≤ later.nanoseconds) (h : t.isOver w now = true) :
    t.isOver w later = true := by
  have hlen := of_decide_eq_true h
  refine decide_eq_true (Nat.le_trans hlen ?_)
  simp only [elapsed]
  omega

@[simp] theorem live_zero (start : Timestamp) (w : Window) (now : Timestamp) :
    (⟨start, 0⟩ : Tally).live w now = 0 := by
  simp [live]

/-- Looking at a limit changes the count only if the period is over. -/
theorem count_check (t : Tally) (w : Window) (now : Timestamp) (limit : Option Nat) :
    (t.check w now limit).2.count =
      if limit.isSome ∧ t.isOver w now = true then 0 else t.count := by
  cases limit with
  | none => rfl
  | some n =>
    cases hover : t.isOver w now with
    | true => simp [check, hover]
    | false =>
      simp only [check, hover, Bool.false_eq_true, if_false, and_false]
      split <;> rfl

/-- Looking at a limit changes no count that is still going on. -/
theorem live_check (t : Tally) (w : Window) {now later : Timestamp}
    (hle : now.nanoseconds ≤ later.nanoseconds) (limit : Option Nat) :
    (t.check w now limit).2.live w later = t.live w later := by
  cases limit with
  | none => rfl
  | some n =>
    simp only [check]
    split
    · rename_i hover
      rw [live_zero, live, if_pos (isOver_of_le hle hover)]
    · split <;> rfl

/-- A use more is one more in the current period, which may have just begun. -/
theorem live_next_of_check {t t' : Tally} {w : Window} {now : Timestamp} {limit : Option Nat}
    (hlimit : limit.isSome) (h : t.check w now limit = (none, t')) :
    t'.next.live w now = t.live w now + 1 := by
  obtain ⟨n, rfl⟩ := Option.isSome_iff_exists.1 hlimit
  simp only [check] at h
  split at h
  · rename_i hover
    cases h
    have hnew : (⟨now, 1⟩ : Tally).isOver w now = false := by
      cases w <;> simp [isOver, elapsed, Window.nanos, Window.millis]
    simp [next, live, hover, hnew]
  · rename_i hover
    split at h
    · cases h
    · cases h
      simp only [live, if_neg hover]
      exact if_neg hover

end Tally

/-- The tally of a period. -/
def Usage.tally (u : Usage) : Window → Tally
  | .minute => u.minute
  | .hour => u.hour

namespace Quota

/-- The uses of a tool; of a tool not used yet both periods begin now. -/
def usageOf (q : Quota) (now : Timestamp) (tool : String) : Usage :=
  (q.usage.get? tool).getD (.new now)

/-- The uses of a tool in its current minute or hour. -/
def uses (q : Quota) (now : Timestamp) (w : Window) (tool : String) : Nat :=
  ((q.usageOf now tool).tally w).live w now

/-- The uses of a tool since its hour began. -/
def hourCount (q : Quota) (tool : String) : Nat :=
  ((q.usage.get? tool).map (·.hour.count)).getD 0

/-- The minute of a tool has a limit and is over, so it begins anew when the limit is looked at. -/
def RestartsMinute (q : Quota) (now : Timestamp) (tool : String) (perMinute : Option Nat) : Prop :=
  perMinute.isSome ∧ ((q.usageOf now tool).tally .minute).isOver .minute now = true

/-- The limit of a period is full for a tool. -/
def Full (q : Quota) (now : Timestamp) (tool : String) (w : Window) (limit : Option Nat) : Prop :=
  ((q.usageOf now tool).tally w).Full w now limit

/-- Neither limit of a tool is full. -/
def Admits (q : Quota) (now : Timestamp) (tool : String) (perMinute perHour : Option Nat) : Prop :=
  ¬ q.Full now tool .minute perMinute ∧ ¬ q.Full now tool .hour perHour

/-- How long to wait for the end of a tool's period. -/
def wait (q : Quota) (now : Timestamp) (tool : String) (w : Window) : Nat :=
  ((q.usageOf now tool).tally w).wait w now

/-- Why a use is refused: the minute is full, or the hour is and the minute is not. -/
inductive Refuses (q : Quota) (now : Timestamp) (tool : String) (perMinute perHour : Option Nat) :
    Shortage → Prop
  | minute : q.Full now tool .minute perMinute →
      q.Refuses now tool perMinute perHour ⟨.minute, q.wait now tool .minute⟩
  | hour : ¬ q.Full now tool .minute perMinute → q.Full now tool .hour perHour →
      q.Refuses now tool perMinute perHour ⟨.hour, q.wait now tool .hour⟩

/-! ## Taking a use -/

/-- With a limit, `take` looks at the minute and then at the hour. -/
theorem take_limited (q : Quota) (now : Timestamp) (tool : String) {perMinute perHour : Option Nat}
    (h : perMinute.isSome ∨ perHour.isSome) :
    q.take now tool perMinute perHour =
      match ((q.usageOf now tool).tally .minute).check .minute now perMinute with
      | (some wait, minute) =>
        (.error ⟨.minute, wait⟩, q.put tool ⟨minute, (q.usageOf now tool).tally .hour⟩)
      | (none, minute) =>
        match ((q.usageOf now tool).tally .hour).check .hour now perHour with
        | (some wait, hour) => (.error ⟨.hour, wait⟩, q.put tool ⟨minute, hour⟩)
        | (none, hour) => (.ok (), q.put tool ⟨minute.next, hour.next⟩) := by
  unfold take
  rw [if_neg]
  · rfl
  · rcases h with h | h <;> cases perMinute <;> cases perHour <;> simp_all

theorem isSome_of_full {q : Quota} {now : Timestamp} {tool : String} {w : Window}
    {limit : Option Nat} (h : q.Full now tool w limit) : limit.isSome := by
  obtain ⟨n, rfl, -⟩ := h
  rfl

theorem take_of_minute_full {q : Quota} {now : Timestamp} {tool : String}
    {perMinute perHour : Option Nat} (hm : q.Full now tool .minute perMinute) :
    q.take now tool perMinute perHour =
      (.error ⟨.minute, q.wait now tool .minute⟩, q.put tool (q.usageOf now tool)) := by
  rw [take_limited q now tool (.inl (isSome_of_full hm)), Tally.check_of_full hm]
  rfl

theorem take_of_hour_full {q : Quota} {now : Timestamp} {tool : String}
    {perMinute perHour : Option Nat} (hm : ¬ q.Full now tool .minute perMinute)
    (hh : q.Full now tool .hour perHour) :
    q.take now tool perMinute perHour =
      (.error ⟨.hour, q.wait now tool .hour⟩,
        q.put tool ⟨(((q.usageOf now tool).tally .minute).check .minute now perMinute).2,
          (q.usageOf now tool).tally .hour⟩) := by
  obtain ⟨minute, hm'⟩ := Tally.check_of_not_full hm
  rw [take_limited q now tool (.inr (isSome_of_full hh)), hm', Tally.check_of_full hh]
  rfl

theorem take_of_admits {q : Quota} {now : Timestamp} {tool : String}
    {perMinute perHour : Option Nat} (h : q.Admits now tool perMinute perHour) :
    (q.take now tool perMinute perHour).1 = .ok () := by
  obtain ⟨minute, hm⟩ := Tally.check_of_not_full h.1
  obtain ⟨hour, hh⟩ := Tally.check_of_not_full h.2
  by_cases hl : perMinute.isSome ∨ perHour.isSome
  · rw [take_limited q now tool hl, hm, hh]
  · unfold take
    rw [if_pos]
    cases perMinute <;> cases perHour <;> simp_all

theorem admits_or_refuses (q : Quota) (now : Timestamp) (tool : String)
    (perMinute perHour : Option Nat) :
    q.Admits now tool perMinute perHour ∨ ∃ s, q.Refuses now tool perMinute perHour s := by
  by_cases hm : q.Full now tool .minute perMinute
  · exact .inr ⟨_, .minute hm⟩
  · by_cases hh : q.Full now tool .hour perHour
    · exact .inr ⟨_, .hour hm hh⟩
    · exact .inl ⟨hm, hh⟩

theorem take_of_refuses {q : Quota} {now : Timestamp} {tool : String}
    {perMinute perHour : Option Nat} {s : Shortage}
    (h : q.Refuses now tool perMinute perHour s) :
    (q.take now tool perMinute perHour).1 = .error s := by
  cases h with
  | minute hm => rw [take_of_minute_full hm]
  | hour hm hh => rw [take_of_hour_full hm hh]

/-! ## Counts after a use -/

theorem uses_put (q : Quota) (now : Timestamp) (w : Window) (tool other : String) (u : Usage) :
    (q.put tool u).uses now w other =
      if other = tool then (u.tally w).live w now else q.uses now w other := by
  simp only [uses, usageOf, put, Table.get?_insert]
  split <;> rfl

/-- **A use is counted in each period that has a limit**, and nowhere without a limit. -/
theorem uses_of_take {q q' : Quota} {now : Timestamp} {tool : String}
    {perMinute perHour : Option Nat} (h : q.take now tool perMinute perHour = (.ok (), q')) :
    (perMinute.isSome → q'.uses now .minute tool = q.uses now .minute tool + 1) ∧
    (perHour.isSome → q'.uses now .hour tool = q.uses now .hour tool + 1) ∧
    (perMinute = none → perHour = none → q' = q) := by
  by_cases hlimit : perMinute.isSome ∨ perHour.isSome
  · rw [take_limited q now tool hlimit] at h
    split at h
    · cases h
    · rename_i minute hminute
      split at h
      · cases h
      · rename_i hour hhour
        cases h
        refine ⟨fun hm => ?_, fun hh => ?_, fun hm hh => ?_⟩
        · rw [uses_put, if_pos rfl]
          exact Tally.live_next_of_check hm hminute
        · rw [uses_put, if_pos rfl]
          exact Tally.live_next_of_check hh hhour
        · subst hm hh
          simp at hlimit
  · obtain ⟨hm, hh⟩ := not_or.1 hlimit
    refine ⟨fun h => absurd h hm, fun h => absurd h hh, fun hm hh => ?_⟩
    subst hm hh
    cases h
    rfl

/-! ## Counts after a refusal -/

/-- The count of a tool at a later time, from its usage at an earlier one. -/
theorem live_usageOf (q : Quota) (now later : Timestamp) (w : Window) (tool : String) :
    ((q.usageOf now tool).tally w).live w later = q.uses later w tool := by
  unfold uses usageOf
  cases q.usage.get? tool with
  | some u => rfl
  | none => cases w <;> simp [Usage.new, Usage.tally]

/-- **A refusal counts nothing.** No current count of any tool changes, now or later. -/
theorem uses_of_refuses {q : Quota} {now later : Timestamp} {tool : String}
    {perMinute perHour : Option Nat} {s : Shortage}
    (h : q.Refuses now tool perMinute perHour s)
    (hle : now.nanoseconds ≤ later.nanoseconds) (w : Window) (other : String) :
    (q.take now tool perMinute perHour).2.uses later w other = q.uses later w other := by
  cases h with
  | minute hm =>
    rw [take_of_minute_full hm, uses_put]
    split
    · rename_i heq
      rw [heq, live_usageOf]
    · rfl
  | hour hm hh =>
    rw [take_of_hour_full hm hh, uses_put]
    split
    · rename_i heq
      rw [heq, ← live_usageOf q now later]
      cases w with
      | minute => exact Tally.live_check _ _ hle _
      | hour => rfl
    · rfl

theorem minuteCount_put (q : Quota) (tool other : String) (u : Usage) :
    (q.put tool u).minuteCount other =
      if other = tool then (u.tally .minute).count else q.minuteCount other := by
  simp only [minuteCount, put, Table.get?_insert]
  split <;> rfl

theorem count_usageOf_minute (q : Quota) (now : Timestamp) (tool : String) :
    ((q.usageOf now tool).tally .minute).count = q.minuteCount tool := by
  unfold usageOf minuteCount
  cases q.usage.get? tool <;> rfl

/-- Where the hour of a tool is left as it is, its count is. -/
theorem hourCount_put_usageOf (q : Quota) (now : Timestamp) (tool other : String) (minute : Tally) :
    (q.put tool ⟨minute, (q.usageOf now tool).tally .hour⟩).hourCount other = q.hourCount other := by
  simp only [hourCount, put, Table.get?_insert]
  split
  · rename_i heq
    rw [heq]
    unfold usageOf
    cases q.usage.get? tool <;> rfl
  · rfl

/-- A full minute does not begin anew. -/
theorem not_restartsMinute_of_full {q : Quota} {now : Timestamp} {tool : String}
    {perMinute : Option Nat} (h : q.Full now tool .minute perMinute) :
    ¬ q.RestartsMinute now tool perMinute := by
  rintro ⟨-, hover⟩
  obtain ⟨n, -, hrunning, -⟩ := h
  rw [hrunning] at hover
  cases hover

/-- **A refusal changes one count at most.** That of the tool's minute begins anew if the minute has a
limit and is over; all other counts stay. -/
theorem counts_of_refuses {q : Quota} {now : Timestamp} {tool : String}
    {perMinute perHour : Option Nat} {s : Shortage}
    (h : q.Refuses now tool perMinute perHour s) :
    (∀ other, (q.take now tool perMinute perHour).2.hourCount other = q.hourCount other) ∧
    (∀ other, ¬ (other = tool ∧ q.RestartsMinute now tool perMinute) →
      (q.take now tool perMinute perHour).2.minuteCount other = q.minuteCount other) ∧
    (q.RestartsMinute now tool perMinute →
      (q.take now tool perMinute perHour).2.minuteCount tool = 0) := by
  cases h with
  | minute hm =>
    rw [take_of_minute_full hm]
    refine ⟨fun other => hourCount_put_usageOf q now tool other _, fun other _ => ?_, fun hover => ?_⟩
    · rw [minuteCount_put]
      split
      · rename_i heq
        rw [heq, count_usageOf_minute]
      · rfl
    · exact absurd hover (not_restartsMinute_of_full hm)
  | hour hm hh =>
    rw [take_of_hour_full hm hh]
    refine ⟨fun other => hourCount_put_usageOf q now tool other _, fun other hnot => ?_,
      fun hover => ?_⟩
    · rw [minuteCount_put]
      split
      · rename_i heq
        refine (Tally.count_check _ .minute now perMinute).trans ?_
        refine (if_neg fun hover => hnot ⟨heq, hover⟩).trans ?_
        rw [heq, count_usageOf_minute]
      · rfl
    · rw [minuteCount_put, if_pos rfl]
      exact (Tally.count_check _ .minute now perMinute).trans (if_pos hover)

end Quota

end CasefileHub
