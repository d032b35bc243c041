import CasefileHub.Proofs.Catalog.Drift
/-!
# Records that are registered

A record that is registered becomes a method with its own texts, and is then compared with these. The
comparison trims the declared text and not the registered one, so a text with blanks around it
differs from itself. Everything else agrees:

    all outcomes of registerRecords are ok → each record is found as the method it resolves to
                                                                        (RegistersAll.get?_of_mem)
    then the drift of the same records is one mismatch for each text with blanks around it
                                                                          (registered_records_drift)
-/

namespace CasefileHub

/-! ## Registrations -/

namespace CapabilityRecord

variable {r : CapabilityRecord} {m : Method}

/-- The method that a record declares, with a classification and parameters. -/
def toMethod (r : CapabilityRecord) (c : Classification) (parameters : List ParameterSpec) :
    Method where
  name := r.name
  classification := c
  owner := ⟨r.service, r.module, r.function⟩
  rules := { requiredPermissions := r.requiredPermissions }
  requestModel := r.requestModel
  responseModel := r.responseModel
  parameters := parameters

/-- A record that resolves is copied as it is declared. -/
theorem exists_of_resolve {models : Registry Model} (h : r.resolve models = .ok m) :
    ∃ c parameters, r.classification = .ok c ∧ m = r.toMethod c parameters := by
  unfold resolve at h
  split at h
  · rename_i c model hc hmodel
    cases h
    exact ⟨c, model.parameters, hc, rfl⟩
  · cases h
  · cases h
  · cases h

theorem name_of_resolve {models : Registry Model} (h : r.resolve models = .ok m) :
    Named.name m = r.name := by
  obtain ⟨c, parameters, -, rfl⟩ := exists_of_resolve h
  rfl

end CapabilityRecord

namespace Catalog

variable {c c' : Catalog} {r : CapabilityRecord} {records : List CapabilityRecord}

/-- A record is registered as the method it resolves to, under a name that was free. -/
theorem exists_of_registerRecord (h : c.registerRecord r = .ok c') :
    ∃ m, r.resolve c.models = .ok m ∧ c.methods.contains r.name = false ∧
      c' = { c with methods := c.methods.replace m } := by
  unfold registerRecord at h
  cases hm : r.resolve c.models with
  | error issues =>
    rw [hm] at h
    cases h
  | ok m =>
    rw [hm] at h
    have hname : Named.name m = r.name := CapabilityRecord.name_of_resolve hm
    have hregister : (do return { c with methods := ← c.methods.register m } :
        Except HubError Catalog) = .ok c' := h
    refine ⟨m, rfl, ?_⟩
    cases hfree : c.methods.contains r.name with
    | true =>
      rw [Registry.register, hname, if_pos hfree] at hregister
      cases hregister
    | false =>
      rw [Registry.register_of_absent (by rw [hname]; exact hfree)] at hregister
      exact ⟨rfl, (Except.ok.inj hregister).symm⟩

/-- All records of a batch are registered. -/
def RegistersAll (c : Catalog) (records : List CapabilityRecord) : Prop :=
  ∀ o ∈ (c.registerRecords records).2, o.2 = .ok ()

/-- In a batch without a failure the first record is registered, and then the others are. -/
theorem RegistersAll.cons (h : c.RegistersAll (r :: records)) :
    ∃ m, r.resolve c.models = .ok m ∧ c.methods.contains r.name = false ∧
      RegistersAll { c with methods := c.methods.replace m } records ∧
      (c.registerRecords (r :: records)).1 =
        ((({ c with methods := c.methods.replace m } : Catalog)).registerRecords records).1 := by
  unfold RegistersAll registerRecords at h
  cases hr : c.registerRecord r with
  | error e =>
    rw [hr] at h
    cases h (r.name, .error e) List.mem_cons_self
  | ok c' =>
    obtain ⟨m, hm, hfree, rfl⟩ := exists_of_registerRecord hr
    rw [hr] at h
    refine ⟨m, hm, hfree, fun o ho => h o (List.mem_cons_of_mem _ ho), ?_⟩
    rw [registerRecords, hr]

/-- The names of records that are registered were free. -/
theorem RegistersAll.absent (h : c.RegistersAll records) :
    ∀ r ∈ records, c.methods.contains r.name = false := by
  induction records generalizing c with
  | nil => intro r hr; cases hr
  | cons r rest ih =>
    obtain ⟨m, hm, hfree, hrest, -⟩ := h.cons
    intro r' hr'
    rcases List.mem_cons.1 hr' with rfl | hmem
    · exact hfree
    · -- what is not there after a registration was not there before it
      have hafter := ih hrest r' hmem
      simp only [Registry.contains, Registry.get?_replace] at hafter ⊢
      split at hafter
      · cases hafter
      · exact hafter

/-- The records of a batch without a failure have different names. -/
theorem RegistersAll.nodup (h : c.RegistersAll records) : (records.map (·.name)).Nodup := by
  induction records generalizing c with
  | nil => exact List.nodup_nil
  | cons r rest ih =>
    obtain ⟨m, hm, -, hrest, -⟩ := h.cons
    rw [List.map_cons, List.nodup_cons]
    refine ⟨fun hmem => ?_, ih hrest⟩
    obtain ⟨r', hr', hname⟩ := List.mem_map.1 hmem
    have habsent := hrest.absent r' hr'
    rw [Registry.contains, Registry.get?_replace, hname,
      if_pos (CapabilityRecord.name_of_resolve hm).symm] at habsent
    cases habsent

/-- A registration of other names changes no look-up. -/
theorem RegistersAll.get?_of_not_mem (h : c.RegistersAll records) {name : String}
    (hname : name ∉ records.map (·.name)) :
    (c.registerRecords records).1.methods.get? name = c.methods.get? name := by
  induction records generalizing c with
  | nil => rfl
  | cons r rest ih =>
    obtain ⟨hne, hrest⟩ := not_or.1 (mt List.mem_cons.2 hname)
    obtain ⟨m, hm, -, hregisters, hlast⟩ := h.cons
    have hother : name ≠ Named.name m := by
      rw [CapabilityRecord.name_of_resolve hm]
      exact hne
    rw [hlast, ih hregisters hrest, Registry.get?_replace, if_neg hother]

/-- Each record of a batch without a failure is found as the method that it resolves to. -/
theorem RegistersAll.get?_of_mem (h : c.RegistersAll records) :
    ∀ r ∈ records, ∃ m, r.resolve c.models = .ok m ∧
      (c.registerRecords records).1.methods.get? r.name = some m := by
  induction records generalizing c with
  | nil => intro r hr; cases hr
  | cons r rest ih =>
    have hnodup := h.nodup
    rw [List.map_cons, List.nodup_cons] at hnodup
    obtain ⟨m, hm, -, hrest, hlast⟩ := h.cons
    intro r' hr'
    rw [hlast]
    rcases List.mem_cons.1 hr' with rfl | hmem
    · refine ⟨m, hm, ?_⟩
      rw [hrest.get?_of_not_mem hnodup.1, Registry.get?_replace,
        if_pos (CapabilityRecord.name_of_resolve hm).symm]
    · exact ih hrest r' hmem

end Catalog

/-! ## A record beside its own method -/

namespace CapabilityRecord

variable {r : CapabilityRecord}

/-- The fields that are compared as texts, each with its name. -/
def comparedTexts (r : CapabilityRecord) : List (String × String) :=
  [("service", r.service), ("module", r.module), ("function", r.function),
    ("request_model", r.requestModel), ("response_model", r.responseModel)]

/-- The mismatch of a text that has blanks around it with itself. -/
def padding (r : CapabilityRecord) (field text : String) : List Discrepancy :=
  if Text.trim text = text then [] else [.fieldMismatch r.name field text text]

/-- The mismatches of a record with itself, in the order of the fields. -/
def paddings (r : CapabilityRecord) : List Discrepancy :=
  r.comparedTexts.flatMap fun (field, text) => r.padding field text

/-- No text of a record that is compared has blanks around it. -/
def IsTrimmed (r : CapabilityRecord) : Prop := ∀ t ∈ r.comparedTexts, Text.trim t.2 = t.2

theorem agrees_self_iff (text : String) : agrees text text = true ↔ Text.trim text = text :=
  Text.sameIgnoringCase_trim_iff text

theorem textMismatch_self (field text : String) :
    r.textMismatch field text text = r.padding field text := by
  unfold textMismatch padding
  simp only [agrees_self_iff]

/-- A field that declares nothing has no blanks around it. -/
theorem declared_self (field text : String) :
    (if text.isEmpty then [] else r.textMismatch field text text) = r.padding field text := by
  rw [textMismatch_self]
  split
  · rename_i h
    rw [String.isEmpty_iff.1 h]
    rfl
  · rfl

/-- Beside the method that it declares, a record differs in padded texts only. -/
theorem mismatches_toMethod (c : Classification) (parameters : List ParameterSpec) :
    r.mismatches c (r.toMethod c parameters) = r.paddings := by
  have haxes : r.axisMismatches c (r.toMethod c parameters) = [] := axisMismatches_eq_nil_iff.2 rfl
  have hpermissions : r.permissionMismatches (r.toMethod c parameters) = [] :=
    permissionMismatches_eq_nil_iff.2 (.inl (List.Perm.refl _))
  unfold mismatches
  rw [haxes, hpermissions]
  simp only [toMethod, declared_self]
  simp only [textMismatch_self, paddings, comparedTexts, List.flatMap_cons, List.flatMap_nil,
    List.nil_append, List.append_nil, List.append_assoc]

/-- A record that is found as the method it resolves to differs from it in padded texts only. -/
theorem discrepancies_of_resolve {models : Registry Model} {registered : Registry Method}
    {m : Method} (hm : r.resolve models = .ok m) (hget : registered.get? r.name = some m) :
    r.discrepancies registered = r.paddings := by
  obtain ⟨c, parameters, hc, rfl⟩ := exists_of_resolve hm
  unfold discrepancies
  simp only [hc, hget]
  exact mismatches_toMethod c parameters

theorem paddings_eq_nil_iff : r.paddings = [] ↔ r.IsTrimmed := by
  unfold paddings IsTrimmed
  rw [List.flatMap_eq_nil_iff]
  refine forall_congr' fun t => imp_congr_right fun _ => ?_
  unfold padding
  simp

end CapabilityRecord

/-! ## The drift of what is registered -/

namespace Discrepancy

variable {registered : Registry Method} {records : List CapabilityRecord}

/-- Records of different names are compared one by one. -/
theorem ofRecords_of_nodup {seen : List String} (h : (records.map (·.name)).Nodup)
    (hseen : ∀ r ∈ records, r.name ∉ seen) :
    ofRecords registered seen records = records.flatMap (·.discrepancies registered) := by
  induction records generalizing seen with
  | nil => rfl
  | cons r rest ih =>
    rw [List.map_cons, List.nodup_cons] at h
    have hrest : ∀ r' ∈ rest, r'.name ∉ r.name :: seen := by
      intro r' hr' hmem
      rcases List.mem_cons.1 hmem with heq | hmem
      · exact h.1 (heq ▸ List.mem_map_of_mem hr')
      · exact hseen r' (List.mem_cons_of_mem r hr') hmem
    rw [ofRecords, if_neg (by simpa using hseen r List.mem_cons_self), ih h.2 hrest,
      List.flatMap_cons]

theorem enforce_strict_iff (ds : List Discrepancy) : enforce true ds = .ok () ↔ ds = [] := by
  cases ds <;> simp [enforce]

/-- What is registered from records alone is declared. -/
theorem undeclared_eq_nil {c : Catalog} (hc : c.methods = .empty) (h : c.RegistersAll records) :
    ((c.registerRecords records).1.methods.names.filter fun n =>
      !(records.map (·.name)).contains n) = [] := by
  rw [List.filter_eq_nil_iff]
  intro n hn hnot
  have hnew : n ∉ records.map (·.name) := by simpa using hnot
  have hget := h.get?_of_not_mem hnew
  rw [hc, Registry.get?_empty] at hget
  have hsome := (Table.mem_names_iff _ n).1 hn
  rw [show Table.get? _ n = none from hget] at hsome
  cases hsome

/-- The drift of records that have been registered consists of their mismatches with themselves. -/
theorem between_of_registersAll {c : Catalog} (hc : c.methods = .empty)
    (h : c.RegistersAll records) :
    between records (c.registerRecords records).1.methods =
      records.flatMap CapabilityRecord.paddings := by
  rw [between, undeclared_eq_nil hc h, ofRecords_of_nodup h.nodup fun _ _ => List.not_mem_nil,
    List.map_nil, List.append_nil, List.flatMap_def, List.flatMap_def]
  refine congrArg List.flatten (List.map_congr_left fun r hr => ?_)
  obtain ⟨m, hm, hget⟩ := h.get?_of_mem r hr
  exact CapabilityRecord.discrepancies_of_resolve hm hget

/-- **A registered record differs from itself where it is padded.** If every record of a batch is
registered in a catalog without methods, the drift of the batch is exactly one mismatch for each
compared text with blanks around it, declared and registered alike. So there is no drift, and a
strict start succeeds, exactly if all these texts are trimmed. -/
theorem registered_records_drift {c : Catalog} (hc : c.methods = .empty)
    (h : c.RegistersAll records) :
    between records (c.registerRecords records).1.methods =
      records.flatMap CapabilityRecord.paddings ∧
    (between records (c.registerRecords records).1.methods = [] ↔ ∀ r ∈ records, r.IsTrimmed) ∧
    (enforce true (between records (c.registerRecords records).1.methods) = .ok () ↔
      ∀ r ∈ records, r.IsTrimmed) := by
  have hnil : between records (c.registerRecords records).1.methods = [] ↔
      ∀ r ∈ records, r.IsTrimmed := by
    rw [between_of_registersAll hc h, List.flatMap_eq_nil_iff]
    exact forall_congr' fun r => imp_congr_right fun _ => CapabilityRecord.paddings_eq_nil_iff
  exact ⟨between_of_registersAll hc h, hnil, (enforce_strict_iff _).trans hnil⟩

/-- A catalog without methods that knows one model. -/
def unfilled : Catalog := { models := .replace .empty (.of CreateCasefile) }

/-- A record without padding is registered, and has not drifted. -/
theorem archive_has_not_drifted :
    (unfilled.registerRecords [archive ["casefile:write"]]).2 = [("casefile.archive", .ok ())] ∧
    between [archive ["casefile:write"]]
      (unfilled.registerRecords [archive ["casefile:write"]]).1.methods = [] ∧
    enforce true (between [archive ["casefile:write"]]
      (unfilled.registerRecords [archive ["casefile:write"]]).1.methods) = .ok () := by
  have houtcomes : (unfilled.registerRecords [archive ["casefile:write"]]).2 =
      [("casefile.archive", .ok ())] := rfl
  have hall : unfilled.RegistersAll [archive ["casefile:write"]] := by
    intro o ho
    rw [houtcomes] at ho
    rw [List.mem_singleton.1 ho]
  have htrimmed : ∀ r ∈ [archive ["casefile:write"]], r.IsTrimmed := by
    intro r hr
    rw [List.mem_singleton.1 hr]
    unfold CapabilityRecord.IsTrimmed
    decide +kernel
  obtain ⟨-, hnil, hstrict⟩ := registered_records_drift rfl hall
  exact ⟨houtcomes, hnil.2 htrimmed, hstrict.2 htrimmed⟩

/-- A record with a blank behind the name of its service. -/
def padded : CapabilityRecord := { archive [] with service := "CasefileService " }

/-- It is registered, differs from itself, and stops a strict start. -/
theorem padded_has_drifted :
    (unfilled.registerRecords [padded]).2 = [("casefile.archive", .ok ())] ∧
    between [padded] (unfilled.registerRecords [padded]).1.methods =
      [.fieldMismatch "casefile.archive" "service" "CasefileService " "CasefileService "] ∧
    enforce true (between [padded] (unfilled.registerRecords [padded]).1.methods) ≠ .ok () := by
  have houtcomes : (unfilled.registerRecords [padded]).2 = [("casefile.archive", .ok ())] := rfl
  have hall : unfilled.RegistersAll [padded] := by
    intro o ho
    rw [houtcomes] at ho
    rw [List.mem_singleton.1 ho]
  have hdrift : between [padded] (unfilled.registerRecords [padded]).1.methods =
      [.fieldMismatch "casefile.archive" "service" "CasefileService " "CasefileService "] := by
    rw [between_of_registersAll rfl hall]
    decide +kernel
  refine ⟨houtcomes, hdrift, ?_⟩
  rw [hdrift, Ne, enforce_strict_iff]
  exact List.cons_ne_nil _ _

end Discrepancy

end CasefileHub
