import CasefileHub.Proofs.Quota
/-!
# Quotas within one period

As long as no period with a limit has run out, both counts of a tool are the number of uses that were
admitted and counted. A use is admitted exactly while that number is below both limits, and what
becomes of one tool does not depend on the others:

    q.Spent start tool k → k is below both limits → take admits and counts         (take_of_room)
    q.Spent start tool k → k has reached a limit → take refuses and counts nothing (take_of_no_room)
    quotas with the same usage of a tool admit and count its uses alike            (take_congr)
-/

namespace CasefileHub

/-- A time in the period that begins at another time. -/
def Window.Covers (w : Window) (start now : Timestamp) : Prop :=
  start.nanoseconds ≤ now.nanoseconds ∧ now.nanoseconds < start.nanoseconds + w.nanos

instance (w : Window) (start now : Timestamp) : Decidable (w.Covers start now) :=
  inferInstanceAs (Decidable (_ ∧ _))

/-- A number of uses is below a limit, if there is a limit. -/
def HasRoom (limit : Option Nat) (k : Nat) : Prop := ∀ n, limit = some n → k < n

instance (limit : Option Nat) (k : Nat) : Decidable (HasRoom limit k) :=
  match limit with
  | none => isTrue fun n hn => by cases hn
  | some m => decidable_of_iff (k < m) ⟨fun h n hn => by cases hn; exact h, fun h => h m rfl⟩

namespace Tally

/-- A period is not over as long as the time lies in one that began no later. -/
theorem isOver_eq_false {w : Window} {start s now : Timestamp}
    (hs : start.nanoseconds ≤ s.nanoseconds) (h : w.Covers start now) (k : Nat) :
    (⟨s, k⟩ : Tally).isOver w now = false := by
  obtain ⟨-, hlt⟩ := h
  apply decide_eq_false
  simp only [elapsed]
  have hpos : 0 < w.nanos := by cases w <;> decide
  omega

/-- With room under its limit, a period that goes on stays as it is. -/
theorem check_of_room {t : Tally} {w : Window} {now : Timestamp} {limit : Option Nat}
    (hover : limit.isSome → t.isOver w now = false) (hroom : HasRoom limit t.count) :
    t.check w now limit = (none, t) := by
  cases limit with
  | none => rfl
  | some n =>
    have hlt : t.count < n := hroom n rfl
    simp only [check, hover rfl]
    rw [if_neg (by decide), if_neg (Nat.not_le.2 hlt)]

end Tally

namespace Quota

/-- Both periods of a tool began at the same time, not before a start, and count so many uses. -/
def Spent (q : Quota) (start : Timestamp) (tool : String) (k : Nat) : Prop :=
  ∀ now, start.nanoseconds ≤ now.nanoseconds →
    ∃ s, start.nanoseconds ≤ s.nanoseconds ∧ q.usageOf now tool = ⟨⟨s, k⟩, ⟨s, k⟩⟩

theorem spent_empty (start : Timestamp) (tool : String) : ({} : Quota).Spent start tool 0 :=
  fun now hnow => ⟨now, hnow, rfl⟩

theorem spent_put (q : Quota) {start s : Timestamp} (hs : start.nanoseconds ≤ s.nanoseconds)
    (tool : String) (k : Nat) : (q.put tool ⟨⟨s, k⟩, ⟨s, k⟩⟩).Spent start tool k := by
  intro now _
  refine ⟨s, hs, ?_⟩
  simp [usageOf, put, Table.get?_insert]

section
variable {q : Quota} {start now : Timestamp} {tool : String} {k : Nat}
  {perMinute perHour : Option Nat}

theorem Spent.exists_tally (h : q.Spent start tool k)
    (hnow : start.nanoseconds ≤ now.nanoseconds) :
    ∃ s, start.nanoseconds ≤ s.nanoseconds ∧ q.usageOf now tool = ⟨⟨s, k⟩, ⟨s, k⟩⟩ ∧
      ∀ w, (q.usageOf now tool).tally w = ⟨s, k⟩ := by
  obtain ⟨s, hs, hu⟩ := h now hnow
  refine ⟨s, hs, hu, fun w => ?_⟩
  rw [hu]
  cases w <;> rfl

theorem Spent.uses (h : q.Spent start tool k) {w : Window} (hcovers : w.Covers start now) :
    q.uses now w tool = k := by
  obtain ⟨s, hs, -, htally⟩ := h.exists_tally hcovers.1
  unfold Quota.uses
  rw [htally w, Tally.live, Tally.isOver_eq_false hs hcovers]
  rfl

theorem Spent.full_iff (h : q.Spent start tool k) {w : Window} {limit : Option Nat}
    (hnow : start.nanoseconds ≤ now.nanoseconds) (hcovers : limit.isSome → w.Covers start now) :
    q.Full now tool w limit ↔ ¬ HasRoom limit k := by
  obtain ⟨s, hs, -, htally⟩ := h.exists_tally hnow
  unfold Quota.Full Tally.Full
  rw [htally w]
  constructor
  · rintro ⟨n, rfl, -, hn⟩ hroom
    have hlt : k < n := hroom n rfl
    have hle : n ≤ k := hn
    omega
  · intro hroom
    cases limit with
    | none => exact absurd (fun n hn => by cases hn) hroom
    | some n =>
      refine ⟨n, rfl, Tally.isOver_eq_false hs (hcovers rfl) k, ?_⟩
      show n ≤ k
      apply Nat.not_lt.1
      intro hlt
      exact hroom fun m hm => by cases hm; exact hlt

/-- With room under both limits a use is admitted. It is counted if there is a limit. -/
theorem Spent.take_of_room (h : q.Spent start tool k)
    (hnow : start.nanoseconds ≤ now.nanoseconds)
    (hminute : perMinute.isSome → Window.minute.Covers start now)
    (hhour : perHour.isSome → Window.hour.Covers start now)
    (hm : HasRoom perMinute k) (hh : HasRoom perHour k) :
    (q.take now tool perMinute perHour).1 = .ok () ∧
      (q.take now tool perMinute perHour).2.Spent start tool
        (if perMinute.isSome ∨ perHour.isSome then k + 1 else k) := by
  by_cases hl : perMinute.isSome ∨ perHour.isSome
  · obtain ⟨s, hs, -, htally⟩ := h.exists_tally hnow
    have hcheck : ∀ w limit, (limit.isSome → w.Covers start now) → HasRoom limit k →
        ((q.usageOf now tool).tally w).check w now limit = (none, ⟨s, k⟩) := by
      intro w limit hcovers hroom
      rw [htally w]
      exact Tally.check_of_room (fun hl => Tally.isOver_eq_false hs (hcovers hl) k) hroom
    rw [take_limited q now tool hl, hcheck .minute perMinute hminute hm,
      hcheck .hour perHour hhour hh, if_pos hl]
    exact ⟨rfl, spent_put q hs tool (k + 1)⟩
  · have hnone : (perMinute.isNone && perHour.isNone) = true := by
      cases perMinute <;> cases perHour <;> simp_all
    rw [if_neg hl]
    unfold take
    rw [if_pos hnone]
    exact ⟨rfl, h⟩

/-- Without room under one of the limits a use is refused, and nothing is counted. -/
theorem Spent.take_of_no_room (h : q.Spent start tool k)
    (hnow : start.nanoseconds ≤ now.nanoseconds)
    (hminute : perMinute.isSome → Window.minute.Covers start now)
    (hhour : perHour.isSome → Window.hour.Covers start now)
    (hfull : ¬ (HasRoom perMinute k ∧ HasRoom perHour k)) :
    ∃ s, q.Refuses now tool perMinute perHour s ∧
      (q.take now tool perMinute perHour).1 = .error s ∧
      (q.take now tool perMinute perHour).2.Spent start tool k := by
  have hm := h.full_iff (w := .minute) hnow hminute
  have hh := h.full_iff (w := .hour) hnow hhour
  obtain ⟨s, hs, hu, htally⟩ := h.exists_tally hnow
  have hkept : (q.put tool (q.usageOf now tool)).Spent start tool k := by
    rw [hu]
    exact spent_put q hs tool k
  by_cases hroom : HasRoom perMinute k
  · have hfull' : q.Full now tool .hour perHour := hh.2 fun hroom' => hfull ⟨hroom, hroom'⟩
    have hnot : ¬ q.Full now tool .minute perMinute := fun hf => hm.1 hf hroom
    have hlook : (((q.usageOf now tool).tally .minute).check .minute now perMinute).2 =
        (q.usageOf now tool).tally .minute := by
      rw [htally .minute,
        Tally.check_of_room (fun hl => Tally.isOver_eq_false hs (hminute hl) k) hroom]
    refine ⟨_, .hour hnot hfull', ?_⟩
    rw [take_of_hour_full hnot hfull', hlook]
    exact ⟨rfl, hkept⟩
  · refine ⟨_, .minute (hm.2 hroom), ?_⟩
    rw [take_of_minute_full (hm.2 hroom)]
    exact ⟨rfl, hkept⟩

end

/-! ## Tools apart -/

/-- What a quota admits and keeps of a tool depends on the usage of that tool only. -/
theorem take_congr {q q' : Quota} {tool : String} (h : q.usage.get? tool = q'.usage.get? tool)
    (now : Timestamp) (perMinute perHour : Option Nat) :
    (q.take now tool perMinute perHour).1 = (q'.take now tool perMinute perHour).1 ∧
      (q.take now tool perMinute perHour).2.usage.get? tool =
        (q'.take now tool perMinute perHour).2.usage.get? tool := by
  unfold take
  rw [h]
  split
  · exact ⟨rfl, h⟩
  · simp only
    split
    · simp [put, Table.get?_insert]
    · split <;> simp [put, Table.get?_insert]

/-- A use of one tool leaves the usage of all others as it is. -/
theorem usage_take_of_ne {tool other : String} (h : other ≠ tool) (q : Quota) (now : Timestamp)
    (perMinute perHour : Option Nat) :
    (q.take now tool perMinute perHour).2.usage.get? other = q.usage.get? other := by
  unfold take
  split
  · rfl
  · simp only
    split
    · simp [put, Table.get?_insert, h]
    · split <;> simp [put, Table.get?_insert, h]

theorem Spent.congr {q q' : Quota} {start : Timestamp} {tool : String} {k : Nat}
    (h : q.Spent start tool k) (hsame : q'.usage.get? tool = q.usage.get? tool) :
    q'.Spent start tool k := by
  intro now hnow
  obtain ⟨s, hs, hu⟩ := h now hnow
  refine ⟨s, hs, ?_⟩
  unfold usageOf at *
  rw [hsame, hu]

end Quota

end CasefileHub
