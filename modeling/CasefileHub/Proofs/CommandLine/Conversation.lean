import CasefileHub.Proofs.CommandLine.Line
import CasefileHub.Proofs.Dispatch.Parts
import CasefileHub.Proofs.Json.Printer
import CasefileHub.Proofs.Renaming.Dispatch
/-!
# Conversations with the hub

The program takes one line of its input after the other, skips the blank ones, and prints one answer
to every other. Between two lines time passes, and numbers may be used up for other things. Lines that
are refused leave no trace, so a conversation without them goes on the same. And what is answered does
not depend on numbers and times, but for the names that come from them:

    Converses h e lines xs e' → the answered lines are those that are not blank       (lines_eq)
    Converses h e lines xs e' → the lines of kept xs have the exchanges kept xs   (without_refused)
    conversations that ask the same up to renaming → the same answers up to it          (renamed)
-/

namespace CasefileHub

namespace Environment.Pauses

variable {e e₁ e₂ : Environment Store}

theorem refl (e : Environment Store) : e.Pauses e := ⟨rfl, Nat.le_refl _⟩

theorem trans (h : e.Pauses e₁) (h' : e₁.Pauses e₂) : e.Pauses e₂ :=
  ⟨h'.1.trans h.1, Nat.le_trans h.2 h'.2⟩

end Environment.Pauses

namespace CommandLine

/-- A line that was answered, with the environments before and after it. -/
structure Exchange where
  line : String
  before : Environment Store
  answer : Json
  after : Environment Store

/-- The hub reads the lines of an input, one after the other, and has some exchanges. -/
inductive Converses (h : Hub Store) :
    Environment Store → List String → List Exchange → Environment Store → Prop
  | finish (e : Environment Store) : Converses h e [] [] e
  | skip {e e' : Environment Store} {line : String} {lines : List String} {xs : List Exchange}
      (hblank : Text.isAllBlank line = true) (rest : Converses h e lines xs e') :
      Converses h e (line :: lines) xs e'
  | exchange {e e₁ e₂ e' : Environment Store} {line : String} {lines : List String} {a : Json}
      {xs : List Exchange} (hline : Text.isAllBlank line = false) (hpause : e.Pauses e₁)
      (hanswer : (answer h line).run e₁ = (some a, e₂)) (rest : Converses h e₂ lines xs e') :
      Converses h e (line :: lines) (⟨line, e₁, a, e₂⟩ :: xs) e'

/-- The exchanges whose lines were not refused. -/
def kept (xs : List Exchange) : List Exchange := xs.filter (!refuses ·.answer)

namespace Converses

variable {h : Hub Store} {e e₀ e' : Environment Store} {lines : List String} {x : Exchange}
  {xs : List Exchange}

/-! ## One answer for each line -/

/-- The answered lines are those that are not blank, in order. -/
theorem lines_eq (hc : Converses h e lines xs e') :
    xs.map Exchange.line = lines.filter (!Text.isAllBlank ·) := by
  induction hc with
  | finish e => rfl
  | skip hblank _ ih => rw [ih, List.filter_cons_of_neg (by simp [hblank])]
  | exchange hline _ _ _ ih => rw [List.map_cons, ih, List.filter_cons_of_pos (by simp [hline])]

theorem answered (hc : Converses h e lines xs e') :
    ∀ x ∈ xs, Answered h x.line x.before x.answer x.after := by
  induction hc with
  | finish e => simp
  | skip _ _ ih => exact ih
  | exchange _ _ hanswer _ ih => exact List.forall_mem_cons.2 ⟨run_answer_iff.1 hanswer, ih⟩

/-- Whenever the lines are read, all of them are answered. -/
theorem exists_of_reads (config : HubConfig) (reads : List (Timestamp × String))
    (e : Environment Store) :
    ∃ xs e', Converses (Hub.inMemory config) e (reads.map Prod.snd) xs e' ∧
      xs.map (·.before.now) = (reads.filter (!Text.isAllBlank ·.2)).map Prod.fst := by
  induction reads generalizing e with
  | nil => exact ⟨[], e, .finish e, rfl⟩
  | cons read rest ih =>
    obtain ⟨now, line⟩ := read
    cases hline : Text.isAllBlank line with
    | true =>
      obtain ⟨xs, e', hrest, htimes⟩ := ih e
      exact ⟨xs, e', .skip hline hrest, by rw [htimes, List.filter_cons_of_neg (by simp [hline])]⟩
    | false =>
      obtain ⟨a, e₁, hanswer⟩ := exists_answer config line { e with now := now }
      obtain ⟨xs, e', hrest, htimes⟩ := ih e₁
      have hpause : e.Pauses { e with now := now } := ⟨rfl, Nat.le_refl _⟩
      refine ⟨_, e', .exchange hline hpause (run_answer_iff.2 hanswer) hrest, ?_⟩
      rw [List.filter_cons_of_pos (by simp [hline]), List.map_cons, List.map_cons, htimes]

/-- The answers to some lines, all at one time, are those of a conversation. -/
theorem of_answers {as : List Json} (hrun : (answers h lines).run e = (some as, e')) :
    ∃ xs, Converses h e lines xs e' ∧ xs.map Exchange.answer = as := by
  induction lines generalizing e as with
  | nil =>
    cases hrun
    exact ⟨[], .finish _, rfl⟩
  | cons line rest ih =>
    unfold answers at hrun
    split at hrun
    · rename_i hblank
      obtain ⟨xs, hrest, rfl⟩ := ih hrun
      exact ⟨xs, .skip hblank hrest, rfl⟩
    · rename_i hline
      obtain ⟨a, e₁, hanswer, hothers⟩ := Timed.exists_of_bind_some hrun
      obtain ⟨as, e₂, hothers, hpure⟩ := Timed.exists_of_bind_some hothers
      cases hpure
      obtain ⟨xs, hrest, rfl⟩ := ih hothers
      exact ⟨_, .exchange (by simpa using hline) (.refl e) hanswer hrest, rfl⟩

/-! ## Without the lines that are refused -/

/-- A conversation may as well start before a pause. -/
theorem of_pauses (hpause : e₀.Pauses e) (hc : Converses h e lines xs e') :
    ∃ e'', Converses h e₀ lines xs e'' ∧ e''.Pauses e' := by
  induction hc with
  | finish e => exact ⟨e₀, .finish e₀, hpause⟩
  | skip hblank _ ih =>
    obtain ⟨e'', hrest, hend⟩ := ih hpause
    exact ⟨e'', .skip hblank hrest, hend⟩
  | @exchange _ _ _ e' _ _ _ _ hline hpause' hanswer rest _ =>
    exact ⟨e', .exchange hline (hpause.trans hpause') hanswer rest, .refl e'⟩

/-- Without blank lines and those that are refused, the conversation goes on the same. -/
theorem without_refused (hc : Converses h e lines xs e') :
    ∃ e'', Converses h e ((kept xs).map Exchange.line) (kept xs) e'' ∧ e''.Pauses e' := by
  induction hc with
  | finish e => exact ⟨e, .finish e, .refl e⟩
  | skip _ _ ih => exact ih
  | @exchange e e₁ e₂ e' line lines a xs hline hpause hanswer _ ih =>
    obtain ⟨e'', hrest, hend⟩ := ih
    cases hrefused : refuses a with
    | true =>
      -- the line has used up a number, which is what a pause may do
      have heq := (run_answer_iff.1 hanswer).eq_of_refuses hrefused
      have hgap : e₁.Pauses e₂ := by
        rw [heq]
        exact ⟨rfl, Nat.le_succ _⟩
      rw [kept, List.filter_cons_of_neg (by simp [hrefused])]
      obtain ⟨e₃, hearlier, hend'⟩ := of_pauses (hpause.trans hgap) hrest
      exact ⟨e₃, hearlier, hend'.trans hend⟩
    | false =>
      rw [kept, List.filter_cons_of_pos (by simp [hrefused])]
      exact ⟨e'', .exchange hline hpause hanswer hrest, hend⟩

end Converses

/-! ## Under other names and at other times -/

/-- An exchange asks what another asks, up to renaming, and gives out the names that the renaming
makes of those that the other gives out. -/
structure Exchange.Retells (ρ : Renaming) (x y : Exchange) : Prop where
  request : ∃ r r', readRequest x.before x.line = .ok r ∧ readRequest y.before y.line = .ok r' ∧
    r.Renamed ρ r'
  numbers : ρ.Shifts x.before.unused y.before.unused (x.after.unused - x.before.unused)

/-- The answers are the same up to renaming, and the stores match afterwards. -/
structure Echoes (ρ : Renaming) (xs ys : List Exchange) (s s' : Store) : Prop where
  answers : List.Forall₂ (fun x y => x.answer.Renamed ρ y.answer) xs ys
  stores : s.Matches ρ s'

section
variable {config : HubConfig} {ρ : Renaming} {x y : Exchange}

/-- A line that is not refused is answered the same up to renaming. -/
theorem answer_renamed (hx : Answered (Hub.inMemory config) x.line x.before x.answer x.after)
    (hy : Answered (Hub.inMemory config) y.line y.before y.answer y.after)
    (hkept : refuses x.answer = false) (hxy : x.Retells ρ y)
    (hmatch : x.before.state.Matches ρ y.before.state) :
    x.answer.Renamed ρ y.answer ∧ x.after.state.Matches ρ y.after.state := by
  obtain ⟨⟨r, r', hline, hline', hr⟩, hnumbers⟩ := hxy
  obtain ⟨_, call, hread, haccept⟩ := hx.exists_request hkept
  obtain rfl := Except.ok.inj (hline.symm.trans hread)
  obtain ⟨call', count, haccept', huses, -, hcalls⟩ := Hub.accept_renamed hr haccept
  obtain ⟨resp, hperform, hanswer⟩ := hx.exists_response hline haccept
  obtain ⟨resp', hperform', hanswer'⟩ := hy.exists_response hline' haccept'
  have hunused : x.after.unused = x.before.unused + 1 + count := Hub.unused_of_perform huses hperform
  rw [hunused, Nat.add_assoc, Nat.add_sub_cancel_left] at hnumbers
  have hshifts : ρ.Shifts (x.before.unused + 1) (y.before.unused + 1) count := hnumbers.drop
  obtain ⟨hresp, hmatch'⟩ := Hub.perform_renamed hr hcalls hperform hperform' hshifts hmatch
  rw [hanswer, hanswer']
  exact ⟨hresp.toJson, hmatch'⟩

/-! A conversation starts with its first exchange, after a pause, or is over. -/

theorem Converses.eq_of_nil {h : Hub Store} {e e' : Environment Store} {lines : List String}
    {xs : List Exchange} (hc : Converses h e lines xs e') (hxs : xs = []) : e' = e := by
  induction hc with
  | finish e => rfl
  | skip _ _ ih => exact ih hxs
  | exchange _ _ _ _ _ => cases hxs

theorem Converses.exists_of_cons {h : Hub Store} {e e' : Environment Store} {lines : List String}
    {xs : List Exchange} (hc : Converses h e lines (x :: xs) e') :
    e.Pauses x.before ∧ Answered h x.line x.before x.answer x.after ∧
      ∃ rest, Converses h x.after rest xs e' := by
  generalize heq : x :: xs = l at hc
  induction hc with
  | finish e => cases heq
  | skip _ _ ih => exact ih heq
  | exchange _ hpause hanswer rest _ =>
    cases heq
    exact ⟨hpause, run_answer_iff.1 hanswer, _, rest⟩

/-- Two conversations, of which the second asks what the first asks up to renaming, have the same
answers up to renaming, and leave matching stores behind. -/
theorem Converses.renamed {xs ys : List Exchange} {lines lines' : List String}
    {e e' f f' : Environment Store} (hxs : Converses (Hub.inMemory config) e lines xs e')
    (hys : Converses (Hub.inMemory config) f lines' ys f')
    (hkept : ∀ x ∈ xs, refuses x.answer = false) (hxy : List.Forall₂ (Exchange.Retells ρ) xs ys)
    (hmatch : e.state.Matches ρ f.state) : Echoes ρ xs ys e'.state f'.state := by
  induction hxy generalizing e f lines lines' with
  | nil =>
    rw [hxs.eq_of_nil rfl, hys.eq_of_nil rfl]
    exact ⟨.nil, hmatch⟩
  | cons hxy _ ih =>
    obtain ⟨hpause, hx, rest, hrest⟩ := hxs.exists_of_cons
    obtain ⟨hpause', hy, rest', hrest'⟩ := hys.exists_of_cons
    obtain ⟨hfirst, hothers⟩ := List.forall_mem_cons.1 hkept
    rw [← hpause.1, ← hpause'.1] at hmatch
    obtain ⟨hanswer, hmatch'⟩ := answer_renamed hx hy hfirst hxy hmatch
    obtain ⟨hanswers, hend⟩ := ih hrest hrest' hothers hmatch'
    exact ⟨.cons hanswer hanswers, hend⟩

end

end CommandLine

end CasefileHub
