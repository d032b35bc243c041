import CasefileHub.Catalog.Builtin
import CasefileHub.Proofs.Catalog.History
import CasefileHub.Proofs.Catalog.Report
/-!
# Batches of records

A batch is registered record by record. Whether a record is accepted depends on those before it: it
has to resolve, and its name has to be free of what was there and of the records accepted so far. A
record that does not resolve is answered with everything that is wrong with it, takes no name and
leaves no trace:

    record i is accepted ↔ it resolves, and neither the catalog nor an accepted record before it
                           has its name                                           (accepts_iff)
    the methods afterwards are those of before and of the accepted records       (method?_batch_iff)
    without a record that does not resolve, all else is the same                  (batch_eraseIdx)
-/

namespace CasefileHub

/-! ## One record -/

namespace CapabilityRecord

variable {r : CapabilityRecord} {models : Registry Model} {m : Method}

/-- The axes of the record are terms, and its request model is known. -/
def Resolves (models : Registry Model) (r : CapabilityRecord) : Prop :=
  r.IsValid ∧ (models.get? r.requestModel).isSome

/-- The method that a record declares, with the parameters of its request model. -/
def Declares (models : Registry Model) (r : CapabilityRecord) (m : Method) : Prop :=
  ∃ c model, r.classification = .ok c ∧ models.get? r.requestModel = some model ∧
    m = r.toMethod c model.parameters

/-- What is wrong with a record: its axes that are no terms, and an unknown request model. -/
def complaints (models : Registry Model) (r : CapabilityRecord) : List String :=
  ((Axis.all.filter fun a => !Classification.isTerm (r.text a) a).map fun a =>
    "unknown " ++ a.name ++ " '" ++ r.text a ++ "'") ++
  if (models.get? r.requestModel).isSome then []
  else ["unknown request model '" ++ r.requestModel ++ "'"]

theorem resolve_eq_ok_iff : r.resolve models = .ok m ↔ r.Declares models m := by
  unfold resolve Declares
  constructor
  · intro h
    split at h
    · rename_i c model hc hmodel
      cases h
      exact ⟨c, model, hc, hmodel, rfl⟩
    · cases h
    · cases h
    · cases h
  · rintro ⟨c, model, hc, hmodel, rfl⟩
    rw [hc, hmodel]
    rfl

theorem resolves_iff : r.Resolves models ↔ ∃ m, r.Declares models m := by
  unfold Resolves Declares
  rw [isValid_iff, Option.isSome_iff_exists]
  constructor
  · rintro ⟨⟨c, hc⟩, model, hmodel⟩
    exact ⟨_, c, model, hc, hmodel, rfl⟩
  · rintro ⟨m, c, model, hc, hmodel, -⟩
    exact ⟨⟨c, hc⟩, model, hmodel⟩

theorem Declares.resolves (h : r.Declares models m) : r.Resolves models := resolves_iff.2 ⟨m, h⟩

theorem messages_of_terms (r : CapabilityRecord) :
    ((Classification.unknownTerms r.text).map RecordIssue.term).map RecordIssue.message =
      (Axis.all.filter fun a => !Classification.isTerm (r.text a) a).map fun a =>
        "unknown " ++ a.name ++ " '" ++ r.text a ++ "'" := by
  rw [Classification.unknownTerms, List.map_map, List.map_map]
  rfl

/-- A record that does not resolve is told all that is wrong with it. -/
theorem messages_of_resolve {issues : List RecordIssue} (h : r.resolve models = .error issues) :
    issues.map RecordIssue.message = r.complaints models := by
  have hunknown {us : List UnknownTerm} (hc : r.classification = .error us) :
      us = Classification.unknownTerms r.text := by
    have hinvalid : ¬ r.IsValid := by
      rw [isValid_iff]
      rintro ⟨c, hok⟩
      rw [hok] at hc
      cases hc
    have hall : r.classification = .error (Classification.unknownTerms r.text) :=
      Classification.ofTexts_of_unknown hinvalid
    exact Except.error.inj (hc.symm.trans hall)
  unfold resolve at h
  unfold complaints
  split at h
  · cases h
  · rename_i c hc hmodel
    cases h
    have hvalid := isValid_iff.2 ⟨c, hc⟩
    rw [hmodel, List.filter_eq_nil_iff.2 fun a _ => by simp [hvalid a]]
    rfl
  · rename_i us model hc hmodel
    cases h
    rw [hunknown hc, messages_of_terms, hmodel]
    simp
  · rename_i us hc hmodel
    cases h
    rw [List.map_append, hunknown hc, messages_of_terms, hmodel]
    rfl

end CapabilityRecord

namespace Catalog

variable {c : Catalog} {r r' : CapabilityRecord} {rest records : List CapabilityRecord}
  {name : String} {m : Method} {i : Nat}

/-- The answer to a record that does not resolve. -/
def unresolved (models : Registry Model) (r : CapabilityRecord) : HubError :=
  .config ("capability record '" ++ r.name ++ "': " ++ Text.join "; " (r.complaints models))

/-- What registering a record comes to. -/
theorem step_record_cases (c : Catalog) (r : CapabilityRecord) :
    (¬ r.Resolves c.models ∧ c.step (.registerRecord r) = (c, .error (unresolved c.models r))) ∨
    (r.Resolves c.models ∧ (c.method? r.name).isSome ∧
      c.step (.registerRecord r) = (c, .error (.conflict .method r.name))) ∨
    ∃ m, r.Declares c.models m ∧ c.method? r.name = none ∧
      c.step (.registerRecord r) = ({ c with methods := c.methods.replace m }, .ok ()) := by
  cases hresolve : r.resolve c.models with
  | error issues =>
    left
    have hattempt : c.attempt (.registerRecord r) = .error (unresolved c.models r) := by
      show c.registerRecord r = _
      rw [registerRecord, hresolve]
      simp only [unresolved, CapabilityRecord.messages_of_resolve hresolve]
    refine ⟨?_, by rw [step, hattempt]⟩
    rw [CapabilityRecord.resolves_iff]
    rintro ⟨m, hm⟩
    rw [CapabilityRecord.resolve_eq_ok_iff.2 hm] at hresolve
    cases hresolve
  | ok m =>
    right
    have hm := CapabilityRecord.resolve_eq_ok_iff.1 hresolve
    have hname : Named.name m = r.name := CapabilityRecord.name_of_resolve hresolve
    rw [step_registerRecord hresolve, step_registerMethod]
    cases htaken : c.method? r.name with
    | some old =>
      left
      refine ⟨hm.resolves, rfl, ?_⟩
      rw [Registry.step_of_taken (by rw [hname]; exact Option.isSome_of_eq_some htaken), hname]
      rfl
    | none =>
      right
      refine ⟨m, hm, rfl, ?_⟩
      rw [Registry.step_of_free (by rw [hname]; exact htaken)]

theorem step_of_not_resolves (h : ¬ r.Resolves c.models) :
    c.step (.registerRecord r) = (c, .error (unresolved c.models r)) := by
  rcases c.step_record_cases r with ⟨-, hstep⟩ | ⟨hyes, -⟩ | ⟨m, hm, -⟩
  · exact hstep
  · exact absurd hyes h
  · exact absurd hm.resolves h

/-- The record is accepted. -/
def Admits (c : Catalog) (r : CapabilityRecord) : Prop := (c.step (.registerRecord r)).2 = .ok ()

theorem admits_iff : c.Admits r ↔ r.Resolves c.models ∧ c.method? r.name = none := by
  unfold Admits
  rcases c.step_record_cases r with ⟨hno, h⟩ | ⟨-, htaken, h⟩ | ⟨m, hm, hfree, h⟩
  · rw [h]
    exact iff_of_false (by simp) fun hyes => hno hyes.1
  · rw [h]
    refine iff_of_false (by simp) fun hyes => ?_
    rw [hyes.2] at htaken
    cases htaken
  · rw [h]
    exact iff_of_true rfl ⟨hm.resolves, hfree⟩

/-- A record changes the methods only. -/
theorem others_step_record (c : Catalog) (r : CapabilityRecord) :
    (c.step (.registerRecord r)).1.tools = c.tools ∧
      (c.step (.registerRecord r)).1.models = c.models := by
  rcases c.step_record_cases r with ⟨-, h⟩ | ⟨-, -, h⟩ | ⟨m, -, -, h⟩ <;> rw [h] <;>
    exact ⟨rfl, rfl⟩

/-- A method is found after a record if it was there, or the record declares it and is accepted. -/
theorem method?_step_record_iff :
    (c.step (.registerRecord r)).1.method? name = some m ↔
      c.method? name = some m ∨ (c.Admits r ∧ r.name = name ∧ r.Declares c.models m) := by
  rcases c.step_record_cases r with ⟨hno, h⟩ | ⟨-, htaken, h⟩ | ⟨m', hm', hfree, h⟩
  · rw [h, admits_iff]
    exact ⟨.inl, fun hyes => hyes.resolve_right fun hr => hno hr.1.1⟩
  · rw [h, admits_iff]
    refine ⟨.inl, fun hyes => hyes.resolve_right fun hr => ?_⟩
    rw [hr.1.2] at htaken
    cases htaken
  · have hname : Named.name m' = r.name :=
      CapabilityRecord.name_of_resolve (CapabilityRecord.resolve_eq_ok_iff.2 hm')
    have hadmits : c.Admits r := admits_iff.2 ⟨hm'.resolves, hfree⟩
    have hsame (m : Method) : r.Declares c.models m ↔ m' = m := by
      rw [← CapabilityRecord.resolve_eq_ok_iff, CapabilityRecord.resolve_eq_ok_iff.2 hm',
        Except.ok.injEq]
    rw [h, hsame]
    show (c.methods.replace m').get? name = some m ↔ _
    rw [Registry.get?_replace, hname]
    by_cases heq : name = r.name
    · subst heq
      simp [hfree, hadmits]
    · simp [heq, Ne.symm heq, method?]

theorem method?_step_record_eq_none_iff :
    (c.step (.registerRecord r)).1.method? name = none ↔
      c.method? name = none ∧ (c.Admits r → r.name ≠ name) := by
  simp only [Option.eq_none_iff_forall_ne_some, ne_eq, method?_step_record_iff, not_or,
    forall_and]
  refine and_congr_right fun _ => ⟨fun h hadmits hname => ?_, fun h m hm => h hm.1 hm.2.1⟩
  obtain ⟨m, hm⟩ := CapabilityRecord.resolves_iff.1 (admits_iff.1 hadmits).1
  exact h m ⟨hadmits, hname, hm⟩

/-! ## A batch -/

theorem registerRecords_cons (c : Catalog) (r : CapabilityRecord) (rest : List CapabilityRecord) :
    c.registerRecords (r :: rest) =
      (((c.step (.registerRecord r)).1.registerRecords rest).1,
        (r.name, (c.step (.registerRecord r)).2) ::
          ((c.step (.registerRecord r)).1.registerRecords rest).2) := by
  have hattempt : c.attempt (.registerRecord r) = c.registerRecord r := rfl
  rw [registerRecords, step, hattempt]
  cases c.registerRecord r <;> rfl

/-- The record at some place of a batch is answered with success. -/
def Accepts (c : Catalog) (records : List CapabilityRecord) (i : Nat) (r : CapabilityRecord) :
    Prop :=
  records[i]? = some r ∧ (c.registerRecords records).2[i]? = some (r.name, .ok ())

theorem accepts_zero_iff : c.Accepts (r :: rest) 0 r' ↔ r = r' ∧ c.Admits r := by
  unfold Accepts Admits
  rw [registerRecords_cons]
  simp +contextual

theorem accepts_succ_iff :
    c.Accepts (r :: rest) (i + 1) r' ↔ (c.step (.registerRecord r)).1.Accepts rest i r' := by
  unfold Accepts
  rw [registerRecords_cons]
  simp

/-- **Which records are accepted.** -/
theorem accepts_iff (hr : records[i]? = some r) :
    c.Accepts records i r ↔ r.Resolves c.models ∧ c.method? r.name = none ∧
      ∀ j < i, ∀ r', c.Accepts records j r' → r'.name ≠ r.name := by
  induction records generalizing c i with
  | nil => cases hr
  | cons first rest ih =>
    cases i with
    | zero =>
      obtain rfl : first = r := by simpa using hr
      simp [accepts_zero_iff, admits_iff]
    | succ i =>
      have hrest : rest[i]? = some r := by simpa using hr
      rw [accepts_succ_iff, ih hrest, (c.others_step_record first).2,
        method?_step_record_eq_none_iff, Nat.forall_lt_succ_left]
      simp only [accepts_zero_iff, accepts_succ_iff, and_imp, forall_eq', and_assoc]

/-- Every record is answered as a record by itself, over the same models. -/
theorem exists_step_of_outcome (c : Catalog) (hr : records[i]? = some r) :
    ∃ c' : Catalog, c'.models = c.models ∧
      (c.registerRecords records).2[i]? = some (r.name, (c'.step (.registerRecord r)).2) := by
  induction records generalizing c i with
  | nil => cases hr
  | cons first rest ih =>
    rw [registerRecords_cons]
    cases i with
    | zero =>
      obtain rfl : first = r := by simpa using hr
      exact ⟨c, rfl, rfl⟩
    | succ i =>
      obtain ⟨c', hmodels, houtcome⟩ := ih (c.step (.registerRecord first)).1 (by simpa using hr)
      exact ⟨c', hmodels.trans (c.others_step_record first).2, houtcome⟩

theorem names_outcomes (c : Catalog) (records : List CapabilityRecord) :
    (c.registerRecords records).2.map Prod.fst = records.map CapabilityRecord.name := by
  induction records generalizing c with
  | nil => rfl
  | cons r rest ih => rw [registerRecords_cons, List.map_cons, List.map_cons, ih]

theorem others_batch (c : Catalog) (records : List CapabilityRecord) :
    (c.registerRecords records).1.tools = c.tools ∧
      (c.registerRecords records).1.models = c.models := by
  induction records generalizing c with
  | nil => exact ⟨rfl, rfl⟩
  | cons r rest ih =>
    obtain ⟨htools, hmodels⟩ := ih (c.step (.registerRecord r)).1
    rw [registerRecords_cons]
    exact ⟨htools.trans (c.others_step_record r).1, hmodels.trans (c.others_step_record r).2⟩

theorem method?_batch_iff (c : Catalog) (records : List CapabilityRecord) :
    (c.registerRecords records).1.method? name = some m ↔ c.method? name = some m ∨
      ∃ i r, c.Accepts records i r ∧ r.name = name ∧ r.Declares c.models m := by
  induction records generalizing c with
  | nil =>
    refine ⟨.inl, fun h => h.resolve_right ?_⟩
    rintro ⟨i, r, ⟨hr, -⟩, -⟩
    cases hr
  | cons first rest ih =>
    have hplaces : (∃ i r, c.Accepts (first :: rest) i r ∧ r.name = name ∧
        r.Declares c.models m) ↔
        (c.Admits first ∧ first.name = name ∧ first.Declares c.models m) ∨
          ∃ i r, (c.step (.registerRecord first)).1.Accepts rest i r ∧ r.name = name ∧
            r.Declares c.models m := by
      rw [← Nat.or_exists_add_one]
      simp only [accepts_zero_iff, accepts_succ_iff, and_assoc, exists_eq_left']
    rw [registerRecords_cons]
    show ((c.step (.registerRecord first)).1.registerRecords rest).1.method? name = some m ↔ _
    rw [ih, method?_step_record_iff, (c.others_step_record first).2, or_assoc, hplaces]

/-- **A record that does not resolve leaves no trace.** -/
theorem batch_eraseIdx (hr : records[i]? = some r) (h : ¬ r.Resolves c.models) :
    c.registerRecords (records.eraseIdx i) =
      ((c.registerRecords records).1, (c.registerRecords records).2.eraseIdx i) := by
  induction records generalizing c i with
  | nil => cases hr
  | cons first rest ih =>
    cases i with
    | zero =>
      obtain rfl : first = r := by simpa using hr
      rw [registerRecords_cons, step_of_not_resolves h]
      rfl
    | succ i =>
      have h' : ¬ r.Resolves (c.step (.registerRecord first)).1.models := by
        rw [(c.others_step_record first).2]
        exact h
      rw [List.eraseIdx_cons_succ, registerRecords_cons, ih (by simpa using hr) h',
        registerRecords_cons, List.eraseIdx_cons_succ]

/-- **The law of batches.** Each record has one outcome, under its name. It is accepted exactly if it resolves and
its name is free of the methods before the batch and of the records accepted before it. One that
does not resolve is told all that is wrong with it, and without it all else would be the same; any
other conflicts with a method. Afterwards there are the methods of before and those that the
accepted records declare, and the same tools and models. -/
theorem batch_law (c : Catalog) (records : List CapabilityRecord) :
    (c.registerRecords records).2.map Prod.fst = records.map CapabilityRecord.name ∧
    (∀ i r, records[i]? = some r →
      (c.Accepts records i r ↔ r.Resolves c.models ∧ c.method? r.name = none ∧
        ∀ j < i, ∀ r', c.Accepts records j r' → r'.name ≠ r.name) ∧
      (¬ r.Resolves c.models →
        (c.registerRecords records).2[i]? = some (r.name, .error (unresolved c.models r)) ∧
        c.registerRecords (records.eraseIdx i) =
          ((c.registerRecords records).1, (c.registerRecords records).2.eraseIdx i)) ∧
      (r.Resolves c.models → ¬ c.Accepts records i r →
        (c.registerRecords records).2[i]? = some (r.name, .error (.conflict .method r.name)))) ∧
    (∀ name m, (c.registerRecords records).1.method? name = some m ↔ c.method? name = some m ∨
      ∃ i r, c.Accepts records i r ∧ r.name = name ∧ r.Declares c.models m) ∧
    (c.registerRecords records).1.tools = c.tools ∧
    (c.registerRecords records).1.models = c.models := by
  refine ⟨c.names_outcomes records, fun i r hr => ⟨accepts_iff hr, fun hno => ?_,
    fun hyes hrefused => ?_⟩, fun name m => c.method?_batch_iff records, c.others_batch records⟩
  · refine ⟨?_, batch_eraseIdx hr hno⟩
    obtain ⟨c', hmodels, houtcome⟩ := c.exists_step_of_outcome hr
    rw [← hmodels] at hno ⊢
    rw [houtcome, step_of_not_resolves hno]
  · obtain ⟨c', hmodels, houtcome⟩ := c.exists_step_of_outcome hr
    rw [houtcome]
    rcases c'.step_record_cases r with ⟨hno, -⟩ | ⟨-, -, hstep⟩ | ⟨m, -, -, hstep⟩
    · exact absurd (hmodels ▸ hyes) hno
    · rw [hstep]
    · rw [hstep] at houtcome
      exact absurd ⟨hr, houtcome⟩ hrefused

/-- The first of three records of one name does not resolve, so the second one gets the name. -/
example : (registerRecords { models := .replace .empty (.of CreateCasefile) }
    [{ CapabilityRecord.declaring .createCasefile with
        domain := "galaxy", requestModel := "Archive" },
      .declaring .createCasefile, .declaring .createCasefile]).2.map Prod.snd =
    [.error (.config ("capability record 'casefile.create': unknown domain 'galaxy'; " ++
      "unknown request model 'Archive'")), .ok (), .error (.conflict .method "casefile.create")] :=
  rfl

end Catalog

end CasefileHub
