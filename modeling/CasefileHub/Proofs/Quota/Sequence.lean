import Mathlib.Data.List.Induction
import CasefileHub.Proofs.Quota.Window
/-!
# Quotas over a sequence of uses

Uses of any tools, with limits that may change from one to the next, are taken from one quota. As
long as no period runs out, the quota is told by the answers so far: a tool has been *charged* for
its uses that had a limit and were admitted, and both its counts are this number, since its first
use with a limit:

    usage of a tool = its charges, since its first use with a limit                 (holds_after)
    answer to a use = the verdict on it, from the charges of its tool         (answer_of_within)
    limits of at most m → charges of at most m                          (chargesOf_le_of_limits)
    all answers of a sequence, and its counts after every use            (answers_of_one_window)
-/

namespace CasefileHub

/-- A call for a use of a tool. -/
structure Use where
  now : Timestamp
  tool : String
  perMinute : Option Nat
  perHour : Option Nat
deriving DecidableEq, Repr

namespace Use

/-- The use has at least one limit. -/
def limited (u : Use) : Bool := u.perMinute.isSome || u.perHour.isSome

/-- No period of a limit has run out that began at a time. -/
structure Within (u : Use) (start : Timestamp) : Prop where
  started : start.nanoseconds ≤ u.now.nanoseconds
  minute : u.perMinute.isSome → Window.minute.Covers start u.now
  hour : u.perHour.isSome → Window.hour.Covers start u.now

theorem within_iff {u : Use} {start : Timestamp} :
    u.Within start ↔ start.nanoseconds ≤ u.now.nanoseconds ∧
      (u.perMinute.isSome → Window.minute.Covers start u.now) ∧
      (u.perHour.isSome → Window.hour.Covers start u.now) :=
  ⟨fun h => ⟨h.started, h.minute, h.hour⟩, fun ⟨hs, hm, hh⟩ => ⟨hs, hm, hh⟩⟩

instance (u : Use) (start : Timestamp) : Decidable (u.Within start) :=
  decidable_of_iff _ within_iff.symm

/-- The answer to a use of a tool that has been charged so often since a time. -/
def verdict (u : Use) (since : Timestamp) (charges : Nat) : Except Shortage Unit :=
  if HasRoom u.perMinute charges then
    if HasRoom u.perHour charges then .ok ()
    else .error ⟨.hour, (⟨since, charges⟩ : Tally).wait .hour u.now⟩
  else .error ⟨.minute, (⟨since, charges⟩ : Tally).wait .minute u.now⟩

end Use

/-! ## Limits -/

theorem not_hasRoom_iff {limit : Option Nat} {k : Nat} :
    ¬ HasRoom limit k ↔ ∃ n, limit = some n ∧ n ≤ k := by
  simp only [HasRoom, not_forall, Nat.not_lt, exists_prop]

/-- What comes of a limit whose period goes on depends on the room below it. -/
theorem Tally.check_of_live {t : Tally} {w : Window} {now : Timestamp} {limit : Option Nat}
    (hlive : limit.isSome → t.isOver w now = false) :
    t.check w now limit = (if HasRoom limit t.count then none else some (t.wait w now), t) := by
  by_cases hroom : HasRoom limit t.count
  · rw [if_pos hroom, Tally.check_of_room hlive hroom]
  · rw [if_neg hroom]
    obtain ⟨n, rfl, hn⟩ := not_hasRoom_iff.1 hroom
    exact Tally.check_of_full ⟨n, rfl, hlive rfl, hn⟩

/-- A use, and the answer to it. -/
structure Answered where
  use : Use
  answer : Except Shortage Unit

/-- A use of a tool that had a limit and was admitted. -/
def Answered.charges (v : Answered) (tool : String) : Bool :=
  v.use.tool == tool && v.use.limited && v.answer.isOk

/-- How often a tool has been charged. -/
def chargesOf (tool : String) (log : List Answered) : Nat := (log.filter (·.charges tool)).length

/-- When a tool was first used with a limit. -/
def firstOf (tool : String) (log : List Answered) : Option Timestamp :=
  (log.find? fun v => v.use.tool == tool && v.use.limited).map (·.use.now)

/-- The usage of a tool that has been charged so often since a time. -/
def Usage.since (s : Timestamp) (charges : Nat) : Usage := ⟨⟨s, charges⟩, ⟨s, charges⟩⟩

namespace Quota

/-- Takes a use. -/
def takeUse (q : Quota) (u : Use) : Except Shortage Unit × Quota :=
  q.take u.now u.tool u.perMinute u.perHour

/-- Takes uses one after the other, with the answers. -/
def takeAll (uses : List Use) : List Answered × Quota :=
  uses.foldl (fun (log, q) u => (log ++ [⟨u, (q.takeUse u).1⟩], (q.takeUse u).2)) ([], {})

/-- The answers to some uses, in order. -/
def answers (uses : List Use) : List Answered := (takeAll uses).1

/-- The quota after some uses. -/
def after (uses : List Use) : Quota := (takeAll uses).2

/-- How often a tool has been charged for the first uses of a sequence. -/
def charged (uses : List Use) (k : Nat) (tool : String) : Nat :=
  chargesOf tool ((answers uses).take k)

/-! ## Answers so far -/

variable {uses : List Use} {u : Use} {start s : Timestamp} {q : Quota} {c k : Nat} {tool : String}

theorem answers_concat (uses : List Use) (u : Use) :
    answers (uses ++ [u]) = answers uses ++ [⟨u, ((after uses).takeUse u).1⟩] := by
  simp only [answers, after, takeAll, List.foldl_append, List.foldl_cons, List.foldl_nil]

theorem after_concat (uses : List Use) (u : Use) :
    after (uses ++ [u]) = ((after uses).takeUse u).2 := by
  simp only [after, takeAll, List.foldl_append, List.foldl_cons, List.foldl_nil]

theorem map_use_answers (uses : List Use) : (answers uses).map Answered.use = uses := by
  induction uses using List.reverseRecOn with
  | nil => rfl
  | append_singleton uses u ih => rw [answers_concat, List.map_append, ih, List.map_singleton]

theorem length_answers (uses : List Use) : (answers uses).length = uses.length := by
  rw [← List.length_map Answered.use, map_use_answers]

/-- Later uses do not change the answers to earlier ones. -/
theorem take_answers (uses : List Use) (k : Nat) :
    (answers uses).take k = answers (uses.take k) := by
  induction uses using List.reverseRecOn with
  | nil => rw [List.take_nil]; exact List.take_nil
  | append_singleton uses u ih =>
    by_cases hk : k ≤ uses.length
    · rw [answers_concat, List.take_append_of_le_length (by rwa [length_answers]), ih,
        List.take_append_of_le_length hk]
    · have hall : (uses ++ [u]).length ≤ k := by
        rw [List.length_append, List.length_singleton]
        omega
      rw [List.take_of_length_le hall, List.take_of_length_le (by rwa [length_answers])]

/-- The answer to a use is that of the quota before it. -/
theorem getElem?_answers (hu : uses[k]? = some u) :
    (answers uses)[k]? = some ⟨u, ((after (uses.take k)).takeUse u).1⟩ ∧
      uses.take (k + 1) = uses.take k ++ [u] := by
  have hnext : uses.take (k + 1) = uses.take k ++ [u] := by
    rw [List.take_add_one, hu, Option.toList_some]
  refine ⟨?_, hnext⟩
  have hk : k < uses.length := (List.getElem?_eq_some_iff.1 hu).1
  have hlength : (answers (uses.take k)).length = k := by
    rw [length_answers, List.length_take, Nat.min_eq_left (Nat.le_of_lt hk)]
  rw [← List.getElem?_take_of_succ, take_answers, hnext, answers_concat,
    List.getElem?_append_right (by omega), hlength, Nat.sub_self]
  rfl

/-! ## One use -/

/-- A use without a limit is admitted, and nothing is counted. -/
theorem takeUse_of_unlimited (q : Quota) (h : u.limited = false) : q.takeUse u = (.ok (), q) := by
  unfold takeUse take
  rw [if_pos]
  unfold Use.limited at h
  cases hm : u.perMinute <;> cases hh : u.perHour <;> simp_all

/-- The verdict on a use is the answer to it. Both periods count the use if it is admitted. -/
theorem takeUse_of_limited (hlimited : u.limited = true)
    (husage : q.usageOf u.now u.tool = .since s c)
    (hminute : u.perMinute.isSome → (⟨s, c⟩ : Tally).isOver .minute u.now = false)
    (hhour : u.perHour.isSome → (⟨s, c⟩ : Tally).isOver .hour u.now = false) :
    q.takeUse u = (u.verdict s c,
      q.put u.tool (.since s (if (u.verdict s c).isOk then c + 1 else c))) := by
  have htally : ∀ w, (q.usageOf u.now u.tool).tally w = ⟨s, c⟩ := by
    rw [husage]
    rintro (_ | _) <;> rfl
  unfold takeUse Use.verdict
  rw [take_limited q _ _ (Bool.or_eq_true_iff.1 hlimited), htally .minute, htally .hour,
    Tally.check_of_live hminute, Tally.check_of_live hhour]
  by_cases hm : HasRoom u.perMinute c
  · by_cases hh : HasRoom u.perHour c
    · simp only [hm, hh, if_true]
      rfl
    · simp only [hm, hh, if_true, if_false]
      rfl
  · simp only [hm, if_false]
    rfl

/-! ## What the quota holds -/

theorem charges_iff {v : Answered} :
    v.charges tool = true ↔ v.use.tool = tool ∧ v.use.limited = true ∧ v.answer = .ok () := by
  have hok : v.answer.isOk = true ↔ v.answer = .ok () := by
    cases v.answer <;> simp [Except.isOk, Except.toBool]
  rw [Answered.charges, Bool.and_eq_true, Bool.and_eq_true, beq_iff_eq, and_assoc, hok]

theorem chargesOf_concat (tool : String) (log : List Answered) (v : Answered) :
    chargesOf tool (log ++ [v]) = chargesOf tool log + if v.charges tool then 1 else 0 := by
  unfold chargesOf
  rw [List.filter_append, List.length_append]
  cases hv : v.charges tool <;> simp [hv]

theorem firstOf_concat_of_limited {v : Answered} (hlimited : v.use.limited = true)
    (log : List Answered) :
    firstOf v.use.tool (log ++ [v]) = some ((firstOf v.use.tool log).getD v.use.now) := by
  unfold firstOf
  rw [List.find?_append]
  cases log.find? fun w => w.use.tool == v.use.tool && w.use.limited <;> simp [hlimited]

theorem firstOf_concat_of_not {v : Answered}
    (h : ¬ (v.use.tool = tool ∧ v.use.limited = true)) (log : List Answered) :
    firstOf tool (log ++ [v]) = firstOf tool log := by
  unfold firstOf
  rw [List.find?_append, List.find?_singleton, if_neg (by simpa using h), Option.or_none]

/-- The quota holds the charges of each tool, since its first use with a limit. -/
def Holds (q : Quota) (log : List Answered) : Prop :=
  ∀ tool, q.usage.get? tool = (firstOf tool log).map fun s => .since s (chargesOf tool log)

/-- A tool has not been charged before its first use with a limit. -/
theorem chargesOf_of_firstOf_none {log : List Answered} (h : firstOf tool log = none) :
    chargesOf tool log = 0 := by
  unfold firstOf at h
  unfold chargesOf
  rw [Option.map_eq_none_iff, List.find?_eq_none] at h
  rw [List.length_eq_zero_iff, List.filter_eq_nil_iff]
  intro v hv hcharges
  have hnot := h v hv
  unfold Answered.charges at hcharges
  simp_all

theorem firstOf_mem {log : List Answered} (h : firstOf tool log = some s) :
    ∃ v ∈ log, v.use.now = s := by
  obtain ⟨v, hv, rfl⟩ := Option.map_eq_some_iff.1 h
  exact ⟨v, List.mem_of_find?_eq_some hv, rfl⟩

/-- The usage that a use finds. -/
theorem Holds.usageOf {log : List Answered} (h : q.Holds log) (now : Timestamp) (tool : String) :
    q.usageOf now tool = .since ((firstOf tool log).getD now) (chargesOf tool log) := by
  unfold Quota.usageOf
  rw [h tool]
  cases hfirst : firstOf tool log with
  | some s => rfl
  | none => rw [chargesOf_of_firstOf_none hfirst]; rfl

theorem verdict_of_unlimited (h : u.limited = false) : u.verdict s c = .ok () := by
  obtain ⟨hm, hh⟩ := Bool.or_eq_false_iff.1 h
  rw [Option.isSome_eq_false_iff, Option.isNone_iff_eq_none] at hm hh
  simp [Use.verdict, HasRoom, hm, hh]

section
variable {log : List Answered} (hlog : ∀ v ∈ log, start.nanoseconds ≤ v.use.now.nanoseconds)
  (hu : u.Within start)
include hlog hu

theorem le_firstOf_getD : start.nanoseconds ≤ ((firstOf u.tool log).getD u.now).nanoseconds := by
  cases hfirst : firstOf u.tool log with
  | none => exact hu.started
  | some s =>
    obtain ⟨v, hv, rfl⟩ := firstOf_mem hfirst
    exact hlog v hv

variable (hq : q.Holds log)
include hq

/-- With a limit, a use is answered and counted by what the quota holds of its tool. -/
theorem Holds.takeUse_eq (hlimited : u.limited = true) :
    let since := (firstOf u.tool log).getD u.now
    let answer := u.verdict since (chargesOf u.tool log)
    q.takeUse u = (answer, q.put u.tool
      (.since since (if answer.isOk then chargesOf u.tool log + 1 else chargesOf u.tool log))) := by
  have hstarted := le_firstOf_getD hlog hu
  exact takeUse_of_limited hlimited (hq.usageOf u.now u.tool)
    (fun hsome => Tally.isOver_eq_false hstarted (hu.minute hsome) _)
    (fun hsome => Tally.isOver_eq_false hstarted (hu.hour hsome) _)

theorem Holds.answer_eq :
    (q.takeUse u).1 = u.verdict ((firstOf u.tool log).getD u.now) (chargesOf u.tool log) := by
  cases hlimited : u.limited with
  | false => rw [takeUse_of_unlimited q hlimited, verdict_of_unlimited hlimited]
  | true => rw [Holds.takeUse_eq hlog hu hq hlimited]

/-- After one use more, the quota holds what its answer adds. -/
theorem Holds.takeUse : (q.takeUse u).2.Holds (log ++ [⟨u, (q.takeUse u).1⟩]) := by
  intro tool
  rw [chargesOf_concat]
  cases hlimited : u.limited with
  | false =>
    rw [takeUse_of_unlimited q hlimited, firstOf_concat_of_not (by simp [hlimited]), hq tool]
    simp [Answered.charges, hlimited]
  | true =>
    rw [Holds.takeUse_eq hlog hu hq hlimited]
    by_cases htool : tool = u.tool
    · subst htool
      rw [firstOf_concat_of_limited (v := ⟨u, _⟩) hlimited]
      refine (Table.get?_insert _ _ _ _).trans ?_
      simp only [if_true, Option.map_some, Answered.charges, hlimited, beq_self_eq_true,
        Bool.true_and]
      split <;> rfl
    · have hother : ¬ (u.tool = tool ∧ u.limited = true) := fun h => htool h.1.symm
      rw [firstOf_concat_of_not hother]
      refine (Table.get?_insert _ _ _ _).trans ?_
      simp [htool, Ne.symm htool, Answered.charges, hq tool]

end

theorem started_of_answers (h : ∀ u ∈ uses, u.Within start) :
    ∀ v ∈ answers uses, start.nanoseconds ≤ v.use.now.nanoseconds := by
  intro v hv
  have huse : v.use ∈ (answers uses).map Answered.use := List.mem_map_of_mem hv
  rw [map_use_answers] at huse
  exact (h _ huse).started

/-- **The quota is told by the answers so far.** -/
theorem holds_after (h : ∀ u ∈ uses, u.Within start) : (after uses).Holds (answers uses) := by
  induction uses using List.reverseRecOn with
  | nil => exact fun tool => rfl
  | append_singleton uses u ih =>
    have hbefore : ∀ v ∈ uses, v.Within start := fun v hv => h v (List.mem_append_left _ hv)
    rw [answers_concat, after_concat]
    exact Holds.takeUse (started_of_answers hbefore) (h u (by simp)) (ih hbefore)

theorem Holds.counts {log : List Answered} (hq : q.Holds log) (tool : String) :
    q.minuteCount tool = chargesOf tool log ∧ q.hourCount tool = chargesOf tool log := by
  unfold minuteCount hourCount
  rw [hq tool]
  cases hfirst : firstOf tool log with
  | none => exact ⟨(chargesOf_of_firstOf_none hfirst).symm, (chargesOf_of_firstOf_none hfirst).symm⟩
  | some s => exact ⟨rfl, rfl⟩

/-! ## What is answered -/

theorem verdict_eq_ok_iff :
    u.verdict s c = .ok () ↔ HasRoom u.perMinute c ∧ HasRoom u.perHour c := by
  unfold Use.verdict
  by_cases hm : HasRoom u.perMinute c <;> by_cases hh : HasRoom u.perHour c <;> simp [hm, hh]

/-- A refusal comes from the minute if its limit is reached, and else from the hour. -/
theorem of_verdict_error {x : Shortage} (h : u.verdict s c = .error x) :
    (x.window = .minute ↔ ∃ n, u.perMinute = some n ∧ n ≤ c) ∧
      x.wait = (⟨s, c⟩ : Tally).wait x.window u.now := by
  rw [← not_hasRoom_iff]
  unfold Use.verdict at h
  split at h
  · rename_i hm
    split at h
    · cases h
    · cases h
      exact ⟨iff_of_false (fun hminute => by cases hminute) (not_not.2 hm), rfl⟩
  · rename_i hm
    cases h
    exact ⟨iff_of_true rfl hm, rfl⟩

/-- The answer to a use, from the charges of its tool before it. -/
theorem answer_of_within (h : ∀ u ∈ uses, u.Within start) (hu : u.Within start) :
    ((after uses).takeUse u).1 =
      u.verdict ((firstOf u.tool (answers uses)).getD u.now) (chargesOf u.tool (answers uses)) :=
  Holds.answer_eq (started_of_answers h) hu (holds_after h)

/-- A refusal and a use without limits charge no tool. -/
theorem charged_succ_of_not_counted (hu : uses[k]? = some u)
    (hkept : ((after (uses.take k)).takeUse u).1 ≠ .ok () ∨ u.limited = false) (tool : String) :
    charged uses (k + 1) tool = charged uses k tool := by
  have hcharges : ¬ (⟨u, ((after (uses.take k)).takeUse u).1⟩ : Answered).charges tool = true := by
    rw [charges_iff]
    rintro ⟨-, hlimited, hok⟩
    rcases hkept with hno | hunlimited
    · exact hno hok
    · exact absurd (hunlimited.symm.trans hlimited) (by decide)
  unfold charged
  rw [take_answers, take_answers, (getElem?_answers hu).2, answers_concat, chargesOf_concat,
    if_neg hcharges, Nat.add_zero]

/-- Charges do not exceed the greatest limit, so a count is never wider than the limits are. -/
theorem chargesOf_le_of_limits {m : Nat} (h : ∀ u ∈ uses, u.Within start)
    (hm : ∀ u ∈ uses, ∀ n, u.perMinute = some n ∨ u.perHour = some n → n ≤ m) (tool : String) :
    chargesOf tool (answers uses) ≤ m := by
  induction uses using List.reverseRecOn with
  | nil => exact Nat.zero_le m
  | append_singleton uses u ih =>
    have hbefore : ∀ v ∈ uses, v.Within start := fun v hv => h v (List.mem_append_left _ hv)
    have hle := ih hbefore fun v hv => hm v (List.mem_append_left _ hv)
    rw [answers_concat, chargesOf_concat, answer_of_within hbefore (h u (by simp))]
    split
    · rename_i hcharges
      obtain ⟨htool, hlimited, hok⟩ := charges_iff.1 hcharges
      subst htool
      obtain ⟨hminute, hhour⟩ := verdict_eq_ok_iff.1 hok
      obtain ⟨n, hn⟩ : ∃ n, u.perMinute = some n ∨ u.perHour = some n := by
        rcases Bool.or_eq_true_iff.1 hlimited with hsome | hsome
        · exact (Option.isSome_iff_exists.1 hsome).imp fun n => .inl
        · exact (Option.isSome_iff_exists.1 hsome).imp fun n => .inr
      have hroom : chargesOf u.tool (answers uses) < n := hn.elim (hminute n) (hhour n)
      exact Nat.le_trans hroom (hm u (by simp) n hn)
    · exact hle

/-- **Answers of one window.** Of uses in a window in which no period of a limit runs out, one is
admitted if and only if its tool has been charged less often than each limit of the use says. A
refusal comes from the minute exactly if the limit of the minute is reached, and else from the hour,
with the rest of the period since the first use of the tool that had a limit. A refusal and a use
without limits change no count. After the first uses of the sequence, as many as they are, both
counts of a tool are the number of its uses that were admitted with a limit. -/
theorem answers_of_one_window (h : ∀ u ∈ uses, u.Within start) :
    (∀ k u, uses[k]? = some u → ∃ answer, (answers uses)[k]? = some ⟨u, answer⟩ ∧
      (answer = .ok () ↔
        HasRoom u.perMinute (charged uses k u.tool) ∧ HasRoom u.perHour (charged uses k u.tool)) ∧
      (∀ x, answer = .error x →
        (x.window = .minute ↔ ∃ n, u.perMinute = some n ∧ n ≤ charged uses k u.tool) ∧
        x.wait = (⟨(firstOf u.tool ((answers uses).take k)).getD u.now,
          charged uses k u.tool⟩ : Tally).wait x.window u.now) ∧
      (answer ≠ .ok () ∨ u.limited = false → ∀ tool,
        (after (uses.take (k + 1))).minuteCount tool = (after (uses.take k)).minuteCount tool ∧
        (after (uses.take (k + 1))).hourCount tool = (after (uses.take k)).hourCount tool)) ∧
    ∀ k tool, (after (uses.take k)).minuteCount tool = charged uses k tool ∧
      (after (uses.take k)).hourCount tool = charged uses k tool := by
  have htake : ∀ k, ∀ v ∈ uses.take k, v.Within start := fun k v hv => h v (List.mem_of_mem_take hv)
  have hcounts (k : Nat) (tool : String) :
      (after (uses.take k)).minuteCount tool = charged uses k tool ∧
        (after (uses.take k)).hourCount tool = charged uses k tool := by
    unfold charged
    rw [take_answers]
    exact (holds_after (htake k)).counts tool
  refine ⟨fun k u hu => ?_, hcounts⟩
  obtain ⟨hanswer, -⟩ := getElem?_answers hu
  have hverdict := answer_of_within (htake k) (h u (List.mem_of_getElem? hu))
  rw [← take_answers] at hverdict
  refine ⟨_, hanswer, ?_, fun x hx => ?_, fun hkept tool => ?_⟩
  · rw [hverdict]
    exact verdict_eq_ok_iff
  · rw [hverdict] at hx
    exact of_verdict_error hx
  · have hsame := charged_succ_of_not_counted hu hkept tool
    rw [(hcounts _ _).1, (hcounts _ _).2, (hcounts _ _).1, (hcounts _ _).2, hsame]
    exact ⟨rfl, rfl⟩

/-- Uses of two tools, with limits that change. -/
def changing : List Use :=
  [⟨⟨0⟩, "a", some 1, none⟩, ⟨⟨1⟩, "b", none, none⟩, ⟨⟨2⟩, "a", some 1, some 5⟩,
    ⟨⟨3⟩, "a", some 3, some 1⟩, ⟨⟨4⟩, "a", some 2, none⟩]

/-- The fourth use has room in its minute and is refused for the hour. The fifth is admitted. -/
theorem answers_of_changing :
    (∀ u ∈ changing, u.Within ⟨0⟩) ∧
    (∃ wait, (answers changing)[3]? = some ⟨⟨⟨3⟩, "a", some 3, some 1⟩, .error ⟨.hour, wait⟩⟩) ∧
    (∃ answer, (answers changing)[4]? = some ⟨⟨⟨4⟩, "a", some 2, none⟩, answer⟩ ∧
      answer = .ok ()) ∧
    (after (changing.take 5)).minuteCount "a" = 2 ∧
    (after (changing.take 5)).hourCount "a" = 2 := by
  have hwithin : ∀ u ∈ changing, u.Within ⟨0⟩ := by decide +kernel
  have hfourth : charged changing 3 "a" = 1 := by decide +kernel
  have hfifth : charged changing 4 "a" = 1 := by decide +kernel
  have hall : charged changing 5 "a" = 2 := by decide +kernel
  obtain ⟨hanswers, hcounts⟩ := answers_of_one_window hwithin
  refine ⟨hwithin, ?_, ?_, (hcounts 5 "a").1.trans hall, (hcounts 5 "a").2.trans hall⟩
  · obtain ⟨answer, hget, hok, hrefused, -⟩ := hanswers 3 _ rfl
    rw [hfourth] at hok hrefused
    rcases answer with ⟨window, wait⟩ | _
    · have hminute := (hrefused _ rfl).1
      cases window with
      | minute => exact absurd (hminute.1 rfl) (by simp)
      | hour => exact ⟨wait, hget⟩
    · exact absurd ((hok.1 rfl).2 1 rfl) (by decide)
  · obtain ⟨answer, hget, hok, -⟩ := hanswers 4 _ rfl
    rw [hfifth] at hok
    exact ⟨answer, hget, hok.2 ⟨by decide, by decide⟩⟩

end Quota

end CasefileHub
