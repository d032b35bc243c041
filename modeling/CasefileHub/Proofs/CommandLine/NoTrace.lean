import CasefileHub.Proofs.CommandLine.Conversation
import CasefileHub.Proofs.Renaming.Existence
import CasefileHub.Proofs.Renaming.Requests
/-!
# Refused lines leave no trace

The same lines are read again, from an empty store, with any numbers and times. If none of them
names a record by one of the numbers, then a renaming shifts the numbers that each line uses up to
those that it uses up this time, and the answers are the same up to it. There is such a renaming
because the lines use up one number after the other, the first time and again:

    the numbers of the lines come one after the other                              (rows_between)
    the lines of xs, read again → the answers are renamed, the stores match      (exists_renamed)

So a hub can be asked without the lines that it refuses. The others get the same answers, whether
they are answered at the same times with the same numbers, are asked with the names that come from
other numbers, or name none of the records:

    each line that is not blank gets one line of answer, with its id     (Converses.framed)
    started hub → the lines that are kept, and nothing else, count
                                                           (refused_lines_leave_no_trace)
-/

namespace CasefileHub

namespace CommandLine

variable {config : HubConfig} {x y : Exchange} {xs ys : List Exchange} {lines lines' : List String}
  {e e' f f' : Environment Store}

/-! ## Numbers -/

/-- A line that is not refused uses up the same numbers again, for the same request. -/
theorem same_numbers (hx : Answered (Hub.inMemory config) x.line x.before x.answer x.after)
    (hy : Answered (Hub.inMemory config) y.line y.before y.answer y.after)
    (hkept : refuses x.answer = false) (hline : x.line = y.line) :
    ∃ r r' call count, readRequest x.before x.line = .ok r ∧ readRequest y.before y.line = .ok r' ∧
      (Hub.inMemory config).accept r = .ok call ∧
      Request.Again (Identifier.request x.before.unused) (Identifier.request y.before.unused) r r' ∧
      x.after.unused = x.before.unused + 1 + count ∧
      y.after.unused = y.before.unused + 1 + count := by
  obtain ⟨r, call, hread, haccept⟩ := hx.exists_request hkept
  obtain ⟨r', hread', hagain⟩ : ∃ r', readRequest y.before y.line = .ok r' ∧ Request.Again
      (Identifier.request x.before.unused) (Identifier.request y.before.unused) r r' := by
    rcases parseRequest_alike (Identifier.request x.before.unused)
      (Identifier.request y.before.unused) x.line with ⟨err, herr, -⟩ | ⟨r₁, r', hok, hok', hagain⟩
    · cases hread.symm.trans herr
    · cases hread.symm.trans hok
      exact ⟨r', hline ▸ hok', hagain⟩
  obtain ⟨call', count, haccept', huses, huses'⟩ := hagain.exists_uses haccept
  obtain ⟨resp, hperform, -⟩ := hx.exists_response hread haccept
  obtain ⟨resp', hperform', -⟩ := hy.exists_response hread' haccept'
  exact ⟨r, r', call, count, hread, hread', haccept, hagain, Hub.unused_of_perform huses hperform,
    Hub.unused_of_perform huses' hperform'⟩

/-- Every answer uses up a number. -/
theorem unused_lt (hx : Answered (Hub.inMemory config) x.line x.before x.answer x.after) :
    x.before.unused < x.after.unused := by
  cases hrefused : refuses x.answer with
  | true =>
    rw [hx.eq_of_refuses hrefused]
    exact Nat.lt_succ_self _
  | false =>
    obtain ⟨_, _, _, count, -, -, -, -, hunused, -⟩ := same_numbers hx hx hrefused rfl
    omega

theorem Converses.unused_le (hc : Converses (Hub.inMemory config) e lines xs e') :
    e.unused ≤ e'.unused := by
  induction hc with
  | finish e => exact Nat.le_refl _
  | skip _ _ ih => exact ih
  | @exchange e e₁ e₂ e' line lines a xs _ hpause hanswer _ ih =>
    have hlt : e₁.unused < e₂.unused :=
      unused_lt (x := ⟨line, e₁, a, e₂⟩) (run_answer_iff.1 hanswer)
    have hle := hpause.2
    omega

/-- The numbers that an exchange uses up, and as many for another one. -/
def Exchange.row (x y : Exchange) : Renaming.Row :=
  ⟨x.before.unused, y.before.unused, x.after.unused - x.before.unused⟩

def rows (xs ys : List Exchange) : List Renaming.Row := (xs.zip ys).map fun p => p.1.row p.2

theorem rows_cons (x y : Exchange) (xs ys : List Exchange) :
    rows (x :: xs) (y :: ys) = x.row y :: rows xs ys := rfl

/-- The lines of a conversation use up one number after the other, and so they do again. -/
theorem rows_between (hxs : Converses (Hub.inMemory config) e lines xs e')
    (hys : Converses (Hub.inMemory config) f lines' ys f')
    (hkept : ∀ x ∈ xs, refuses x.answer = false)
    (hsame : List.Forall₂ (fun x y => x.line = y.line) xs ys) :
    Between e.unused e'.unused ((rows xs ys).flatMap Renaming.Row.lefts) ∧
      Between f.unused f'.unused ((rows xs ys).flatMap Renaming.Row.rights) := by
  induction hsame generalizing e f lines lines' with
  | nil =>
    exact ⟨⟨List.nodup_nil, List.forall_mem_nil _⟩, ⟨List.nodup_nil, List.forall_mem_nil _⟩⟩
  | @cons x y xs ys hline _ ih =>
    obtain ⟨hpause, hx, rest, hrest⟩ := hxs.exists_of_cons
    obtain ⟨hpause', hy, rest', hrest'⟩ := hys.exists_of_cons
    obtain ⟨hfirst, hothers⟩ := List.forall_mem_cons.1 hkept
    obtain ⟨hlefts, hrights⟩ := ih hrest hrest' hothers
    obtain ⟨_, _, _, count, -, -, -, -, hunused, hunused'⟩ := same_numbers hx hy hfirst hline
    have hcount : x.after.unused - x.before.unused = 1 + count := by omega
    have hle := hrest.unused_le
    have hle' := hrest'.unused_le
    rw [hunused, Nat.add_assoc] at hlefts hle
    rw [hunused', Nat.add_assoc] at hrights hle'
    rw [rows_cons, List.flatMap_cons, List.flatMap_cons]
    unfold Exchange.row Renaming.Row.lefts Renaming.Row.rights
    rw [hcount]
    exact ⟨hlefts.range_append hpause.2 hle, hrights.range_append hpause'.2 hle'⟩

/-! ## The lines again -/

/-- The line names no record by one of some numbers. -/
def Exchange.Unnamed (x : Exchange) (a b : Nat) : Prop :=
  ∀ r, readRequest x.before x.line = .ok r → ∀ (kind : RecordKind) (n : Nat), a ≤ n → n < b →
    ¬ r.Mentions kind (kind.identifier n)

/-- The lines of a conversation are those that are read again. -/
theorem Converses.same_lines (hxs : Converses (Hub.inMemory config) e lines xs e')
    (hys : Converses (Hub.inMemory config) f (xs.map Exchange.line) ys f') :
    List.Forall₂ (fun x y => x.line = y.line) xs ys := by
  have hnone : (xs.map Exchange.line).filter (!Text.isAllBlank ·) = xs.map Exchange.line := by
    rw [hxs.lines_eq, List.filter_filter]
    simp only [Bool.and_self]
  have heq : xs.map Exchange.line = ys.map Exchange.line := (hys.lines_eq.trans hnone).symm
  rwa [← List.forall₂_eq_eq_eq, List.forall₂_map_left_iff, List.forall₂_map_right_iff] at heq

/-- A line that is answered again retells its exchange, if the renaming shifts its numbers and keeps
the records that it names. -/
theorem retells_of_line {ρ : Renaming}
    (hx : Answered (Hub.inMemory config) x.line x.before x.answer x.after)
    (hy : Answered (Hub.inMemory config) y.line y.before y.answer y.after)
    (hkept : refuses x.answer = false) (hline : x.line = y.line)
    (hshifts : ρ.Shifts x.before.unused y.before.unused (x.after.unused - x.before.unused))
    (hkeeps : ∀ r, readRequest x.before x.line = .ok r → ∀ kind id, r.Mentions kind id →
      ρ.record kind id = id) : x.Retells ρ y := by
  obtain ⟨r, r', call, count, hread, hread', haccept, hagain, -, -⟩ := same_numbers hx hy hkept hline
  exact ⟨⟨r, r', hread, hread', hagain.renamed haccept (hkeeps r hread)⟩, hshifts⟩

/-- Nothing but identifiers of numbers gets a new name. -/
def OnlyNumbered (ρ : Renaming) : Prop :=
  ∀ (kind : RecordKind) id, (∀ n, id ≠ kind.identifier n) → ρ.record kind id = id

/-- Lines that are not refused, read again from an empty store, have the same answers up to
renaming, and leave matching stores behind. -/
theorem Converses.exists_renamed (hxs : Converses (Hub.inMemory config) e lines xs e')
    (hys : Converses (Hub.inMemory config) f (xs.map Exchange.line) ys f')
    (hkept : ∀ x ∈ xs, refuses x.answer = false) (he : e.state = {}) (hf : f.state = {})
    (hunnamed : ∀ x ∈ xs, x.Unnamed e.unused e'.unused ∧ x.Unnamed f.unused f'.unused) :
    ∃ ρ, OnlyNumbered ρ ∧ List.Forall₂ (Exchange.Retells ρ) xs ys ∧
      Echoes ρ xs ys e'.state f'.state := by
  have hsame := hxs.same_lines hys
  obtain ⟨hlefts, hrights⟩ := rows_between hxs hys hkept hsame
  obtain ⟨ρ, hshifts, hkeeps⟩ := Renaming.exists_shifts hlefts.nodup hrights.nodup
  have hretells : List.Forall₂ (Exchange.Retells ρ) xs ys := by
    obtain ⟨hlength, hlines⟩ := List.forall₂_iff_zip.1 hsame
    refine List.forall₂_iff_zip.2 ⟨hlength, fun {x y} hmem => ?_⟩
    obtain ⟨hx, hy⟩ := List.of_mem_zip hmem
    refine retells_of_line (hxs.answered x hx) (hys.answered y hy) (hkept x hx) (hlines hmem)
      (hshifts _ (List.mem_map_of_mem hmem)) fun r hread kind id hmention => hkeeps kind id ?_
    rintro n hn rfl
    rcases hn with hn | hn
    · obtain ⟨hle, hlt⟩ := hlefts.bounds n hn
      exact (hunnamed x hx).1 r hread kind n hle hlt hmention
    · obtain ⟨hle, hlt⟩ := hrights.bounds n hn
      exact (hunnamed x hx).2 r hread kind n hle hlt hmention
  refine ⟨ρ, fun kind id hid => hkeeps kind id fun n _ => hid n, hretells, ?_⟩
  refine hxs.renamed hys hkept hretells ?_
  rw [he, hf]
  exact Store.Matches.refl Store.sound_empty (Renaming.fixes_empty ρ)

/-! ## Headline -/

/-- The answers are for the lines that are not blank, in order. Each of them is one line, and shows
the id of the request that it is for, if there is one; an id in the line is that of the request. -/
structure Framed (lines : List String) (xs : List Exchange) : Prop where
  lines_eq : xs.map Exchange.line = lines.filter (!Text.isAllBlank ·)
  oneLine : ∀ x ∈ xs, Text.OneLine x.answer.print
  requestId : ∀ x ∈ xs, ∀ r, readRequest x.before x.line = .ok r →
    x.answer.member? "request_id" = some (.str r.requestId)
  givenId : ∀ x ∈ xs, ∀ r v id, readRequest x.before x.line = .ok r →
    Json.readMembers Request.fieldNames.contains x.line = .ok v →
    v.member? "request_id" = some id → x.answer.member? "request_id" = some id
  noRequest : ∀ x ∈ xs, ∀ err, readRequest x.before x.line = .error err →
    x.answer.member? "request_id" = some .null

theorem Converses.framed {h : Hub Store} (hc : Converses h e lines xs e') : Framed lines xs where
  lines_eq := hc.lines_eq
  oneLine x _ := x.answer.oneLine_print
  requestId x hx _ hread := (hc.answered x hx).requestId hread
  givenId x hx _ _ _ hread hv hid := by
    rw [requestId_of_member hread hv hid]
    exact (hc.answered x hx).requestId hread
  noRequest x hx _ hread := (hc.answered x hx).requestId_of_error hread

theorem exists_config_of_start {files : Files} {env : Variables} {h : Hub Store}
    (hstart : start files env = .ok h) : ∃ config, h = Hub.inMemory config := by
  unfold start startWith at hstart
  cases hconfig : loadConfig files env with
  | error e => simp [hconfig, bind, Except.bind] at hstart
  | ok config =>
    simp only [hconfig, bind, Except.bind] at hstart
    split at hstart
    · cases hstart
    · split at hstart
      · cases hstart
      · split at hstart
        · cases hstart
        · exact ⟨config, (Except.ok.inj hstart).symm⟩

/-- A started hub answers the lines of its input one for one. Without the blank lines and those that
it refuses the conversation goes on the same, and whenever the others are asked again, perhaps by
other names, they get the same answers up to renaming. -/
theorem refused_lines_leave_no_trace {files : Files} {env : Variables} {h : Hub Store}
    (hstart : start files env = .ok h) :
    (∀ (reads : List (Timestamp × String)) (e : Environment Store),
      ∃ xs e', Converses h e (reads.map Prod.snd) xs e' ∧
        xs.map (·.before.now) = (reads.filter (!Text.isAllBlank ·.2)).map Prod.fst) ∧
    (∀ e lines as e', (answers h lines).run e = (some as, e') →
      ∃ xs, Converses h e lines xs e' ∧ xs.map Exchange.answer = as) ∧
    ∀ e lines xs e', Converses h e lines xs e' →
      Framed lines xs ∧
      (∃ e'', Converses h e ((kept xs).map Exchange.line) (kept xs) e'' ∧ e''.state = e'.state) ∧
      (∀ ρ f lines' ys f', Converses h f lines' ys f' → e.state.Matches ρ f.state →
        List.Forall₂ (Exchange.Retells ρ) (kept xs) ys → Echoes ρ (kept xs) ys e'.state f'.state) ∧
      ∀ f ys f', Converses h f ((kept xs).map Exchange.line) ys f' → e.state = {} → f.state = {} →
        (∀ x ∈ kept xs, x.Unnamed e.unused e'.unused ∧ x.Unnamed f.unused f'.unused) →
        ∃ ρ, OnlyNumbered ρ ∧ List.Forall₂ (Exchange.Retells ρ) (kept xs) ys ∧
          Echoes ρ (kept xs) ys e'.state f'.state := by
  obtain ⟨config, rfl⟩ := exists_config_of_start hstart
  refine ⟨Converses.exists_of_reads config, fun _ _ _ _ => Converses.of_answers,
    fun e lines xs e' hc => ?_⟩
  have hkept : ∀ x ∈ kept xs, refuses x.answer = false := fun x hx => by
    simpa using (List.mem_filter.1 hx).2
  obtain ⟨e'', hwithout, hend⟩ := hc.without_refused
  refine ⟨hc.framed, ⟨e'', hwithout, hend.1.symm⟩, ?_, ?_⟩
  · intro ρ f lines' ys f' hys hmatch hretells
    rw [hend.1]
    exact hwithout.renamed hys hkept hretells hmatch
  · intro f ys f' hys he hf hunnamed
    rw [hend.1]
    refine hwithout.exists_renamed hys hkept he hf fun x hx => ?_
    obtain ⟨hfirst, hagain⟩ := hunnamed x hx
    refine ⟨fun r hread kind n hle hlt => ?_, hagain⟩
    exact hfirst r hread kind n hle (Nat.lt_of_lt_of_le hlt hend.2)

/-- A blank line, one that is no request and one that is performed. -/
theorem refused_lines_leave_no_trace_before_creation :
    start Files.none (fun _ => none) = .ok (Hub.inMemory {}) ∧
      ∃ (line : String) (x y : Exchange) (e' : Environment Store),
        Converses (Hub.inMemory {}) { state := {} } ["", "\x7b", line] [x, y] e' ∧
        Framed ["", "\x7b", line] [x, y] ∧ kept [x, y] = [y] ∧
        ∃ e'', Converses (Hub.inMemory {}) { state := {} } [line] [y] e'' ∧
          e''.state = e'.state := by
  have hstart : start Files.none (fun _ => none) = .ok (Hub.inMemory {}) := rfl
  let line := "\x7b\"operation\":\"casefile.create\",\"payload\":\x7b\"title\":\"T\"\x7d\x7d"
  obtain ⟨a, e₁, ha⟩ := exists_answer {} "\x7b" { state := {} }
  obtain ⟨b, e₂, hb⟩ := exists_answer {} line { state := {}, unused := 1 }
  have hrun := run_answer_iff.2 ha
  have hrun' := run_answer_iff.2 hb
  have hrefused : refuses a = true := by
    have hkind : ((answer (Hub.inMemory {}) "\x7b").run { state := {} }).1.map refuses =
        some true := by decide +kernel
    rw [hrun] at hkind
    exact Option.some.inj hkind
  have hkept : refuses b = false := by
    have hkind : ((answer (Hub.inMemory {}) line).run { state := {}, unused := 1 }).1.map refuses =
        some false := by decide +kernel
    rw [hrun'] at hkind
    exact Option.some.inj hkind
  obtain rfl := ha.eq_of_refuses hrefused
  let x : Exchange := ⟨"\x7b", { state := {} }, a, { state := {}, unused := 1 }⟩
  let y : Exchange := ⟨line, { state := {}, unused := 1 }, b, e₂⟩
  have hc : Converses (Hub.inMemory {}) { state := {} } ["", "\x7b", line] [x, y] e₂ :=
    .skip rfl (.exchange rfl (.refl _) hrun
      (.exchange (by decide +kernel) (.refl _) hrun' (.finish e₂)))
  have hlast : kept [x, y] = [y] := by
    simp only [kept, List.filter, x, y, hrefused, hkept, Bool.not_true, Bool.not_false]
  obtain ⟨hframed, ⟨e'', hwithout, hend⟩, -⟩ :=
    (refused_lines_leave_no_trace hstart).2.2 _ _ _ _ hc
  rw [hlast] at hwithout
  exact ⟨hstart, line, x, y, e₂, hc, hframed, hlast, e'', hwithout, hend⟩

end CommandLine

end CasefileHub
