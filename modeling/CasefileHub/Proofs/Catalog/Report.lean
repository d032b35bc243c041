import CasefileHub.Proofs.Catalog.Drift
import CasefileHub.Proofs.Classification
/-!
# The report of drift, name by name

The report goes through the records in their order: a record whose name has been seen is a
repetition, and the first of a name is invalid, not registered, or compared with the method. The
registered methods without a record come last. So each name is accounted for:

    first record r of n → the entries about n are r.discrepancies and one for each further record
                                                                      (filter_between_of_first)
    n is not declared → the entry about n is registeredOnly n, if n is registered
                                                                 (filter_between_of_undeclared)
    axis a is spoken of ↔ the declared value on a is not the registered one
                                                                        (filter_axisMismatches)
-/

namespace CasefileHub

/-! ## One record -/

/-- The entry is a mismatch of a field of a method. -/
def Discrepancy.isMismatchOf (method field : String) : Discrepancy → Bool
  | .fieldMismatch method' field' _ _ => method' = method && field' = field
  | _ => false

namespace CapabilityRecord

variable {r : CapabilityRecord} {registered : Registry Method} {m : Method} {c : Classification}
  {d : Discrepancy}

/-- The six axes of a record are terms. -/
def IsValid (r : CapabilityRecord) : Prop := ∀ a, Classification.isTerm (r.text a) a = true

theorem isValid_iff : r.IsValid ↔ ∃ c, r.classification = .ok c :=
  Classification.ofTexts_isOk_iff.symm

theorem discrepancies_of_invalid (h : ¬ r.IsValid) :
    r.discrepancies registered =
      [.invalidRecord r.name (.terms (Classification.unknownTerms r.text))] := by
  have hc : r.classification = .error (Classification.unknownTerms r.text) :=
    Classification.ofTexts_of_unknown h
  rw [discrepancies, hc]

theorem discrepancies_of_unregistered (h : r.IsValid) (hget : registered.get? r.name = none) :
    r.discrepancies registered = [.declaredOnly r.name] := by
  obtain ⟨c, hc⟩ := isValid_iff.1 h
  rw [discrepancies, hc]
  simp only [hget]

theorem discrepancies_of_registered (hc : r.classification = .ok c)
    (hget : registered.get? r.name = some m) :
    r.discrepancies registered = r.mismatches c m := by
  rw [discrepancies, hc]
  simp only [hget]

/-- An axis is spoken of exactly if the declared value on it is not the registered one. -/
theorem filter_axisMismatches (r : CapabilityRecord) (c : Classification) (m : Method) (a : Axis) :
    (r.axisMismatches c m).filter (·.isMismatchOf r.name a.name) =
      if c.SameOn m.classification a then []
      else [.fieldMismatch r.name a.name (r.text a) (m.classification.text a)] := by
  have haxis : Axis.all.filter (fun a' => decide (a'.name = a.name)) = [a] := by cases a <;> rfl
  have hswap : (Axis.all.filter fun a' => c.text a' != m.classification.text a').filter
      (fun a' => decide (a'.name = a.name)) =
        [a].filter fun a' => c.text a' != m.classification.text a' := by
    rw [← haxis, List.filter_filter, List.filter_filter]
    simp only [Bool.and_comm]
  have hcompose : ((·.isMismatchOf r.name a.name) ∘ fun a' : Axis =>
      Discrepancy.fieldMismatch r.name a'.name (r.text a') (m.classification.text a')) =
        fun a' => decide (a'.name = a.name) := by
    funext a'
    simp [Discrepancy.isMismatchOf]
  rw [axisMismatches, List.filter_map, hcompose, hswap]
  by_cases hsame : c.SameOn m.classification a
  · rw [if_pos hsame, List.filter_cons_of_neg (by simpa using (c.text_eq_iff _ a).2 hsame)]
    rfl
  · rw [if_neg hsame, List.filter_cons_of_pos (by simpa using mt (c.text_eq_iff _ a).1 hsame)]
    rfl

/-- No field behind the axes has the name of an axis. -/
theorem filter_textMismatches (r : CapabilityRecord) (m : Method) (a : Axis) :
    (r.textMismatches m).filter (·.isMismatchOf r.name a.name) = [] := by
  rw [List.filter_eq_nil_iff]
  intro d hd
  obtain ⟨field, hfield, declared, text, rfl⟩ := exists_of_mem_textMismatches hd
  have hne : a.name ∉ textFields := by cases a <;> decide
  have hother : field ≠ a.name := fun heq => hne (heq ▸ hfield)
  simp [Discrepancy.isMismatchOf, hother]

/-- What can be said about the first record of a name. -/
theorem mem_discrepancies_cases (h : d ∈ r.discrepancies registered) :
    (¬ r.IsValid ∧ d = .invalidRecord r.name (.terms (Classification.unknownTerms r.text))) ∨
    (r.IsValid ∧ registered.get? r.name = none ∧ d = .declaredOnly r.name) ∨
    (r.IsValid ∧ (registered.get? r.name).isSome ∧
      ∃ field declared text, d = .fieldMismatch r.name field declared text) := by
  by_cases hvalid : r.IsValid
  · cases hget : registered.get? r.name with
    | none =>
      rw [discrepancies_of_unregistered hvalid hget] at h
      exact .inr (.inl ⟨hvalid, rfl, List.mem_singleton.1 h⟩)
    | some m =>
      obtain ⟨c, hc⟩ := isValid_iff.1 hvalid
      rw [discrepancies_of_registered hc hget] at h
      exact .inr (.inr ⟨hvalid, rfl, exists_of_mem_mismatches h⟩)
  · rw [discrepancies_of_invalid hvalid] at h
    exact .inl ⟨hvalid, List.mem_singleton.1 h⟩

end CapabilityRecord

namespace Discrepancy

variable {records : List CapabilityRecord} {registered : Registry Method} {r : CapabilityRecord}
  {n : String} {d : Discrepancy}

/-! ## The records in their order -/

/-- What is said about a record behind others: one thing, if one of them has its name. -/
def said (registered : Registry Method) (before : List CapabilityRecord) (r : CapabilityRecord) :
    List Discrepancy :=
  if r.name ∈ before.map (·.name) then [.invalidRecord r.name .repeated]
  else r.discrepancies registered

/-- The registered names that no record has. -/
def undeclared (records : List CapabilityRecord) (registered : Registry Method) : List String :=
  registered.names.filter fun n => !(records.map (·.name)).contains n

/-- The names that are seen are those of the records before. -/
theorem ofRecords_eq (registered : Registry Method) {seen : List String}
    {before : List CapabilityRecord} (hseen : ∀ n, n ∈ seen ↔ n ∈ before.map (·.name))
    (records : List CapabilityRecord) :
    ofRecords registered seen records =
      (records.mapIdx fun i r => said registered (before ++ records.take i) r).flatten := by
  induction records generalizing seen before with
  | nil => rfl
  | cons r rest ih =>
    have htake (i : Nat) : before ++ (r :: rest).take (i + 1) = (before ++ [r]) ++ rest.take i := by
      rw [List.take_succ_cons, List.append_assoc, List.singleton_append]
    rw [List.mapIdx_cons, List.flatten_cons, List.take_zero, List.append_nil]
    simp only [htake]
    unfold ofRecords said
    by_cases hname : r.name ∈ before.map (·.name)
    · have hseen' : ∀ n, n ∈ seen ↔ n ∈ (before ++ [r]).map (·.name) := by
        intro n
        rw [List.map_append, List.mem_append, hseen]
        refine ⟨.inl, fun h => h.elim id fun h => ?_⟩
        rw [List.mem_singleton.1 h]
        exact hname
      rw [if_pos (by simpa using (hseen r.name).2 hname), if_pos hname, ih hseen']
      rfl
    · have hseen' : ∀ n, n ∈ r.name :: seen ↔ n ∈ (before ++ [r]).map (·.name) := by
        intro n
        rw [List.map_append, List.mem_append, List.mem_cons, hseen, or_comm]
        simp
      rw [if_neg (by simpa using mt (hseen r.name).1 hname), if_neg hname, ih hseen']
      rfl

/-! ## One name -/

theorem exists_first_or_undeclared (records : List CapabilityRecord) (n : String) :
    (∃ r, records.find? (·.name = n) = some r) ∨ n ∉ records.map (·.name) := by
  cases h : records.find? (·.name = n) with
  | some r => exact .inl ⟨r, rfl⟩
  | none =>
    right
    intro hmem
    obtain ⟨r, hr, hname⟩ := List.mem_map.1 hmem
    exact List.find?_eq_none.1 h r hr (by simpa using hname)

theorem name_of_first (h : records.find? (·.name = n) = some r) : r.name = n := by
  simpa using List.find?_some h

/-- About a declared name, the first record of it is spoken of, and then each further one. -/
theorem filter_between_of_first (h : records.find? (·.name = n) = some r) :
    (between records registered).filter (·.method = n) =
      r.discrepancies registered ++
        List.replicate (records.countP (·.name = n) - 1) (.invalidRecord n .repeated) := by
  have hmem : n ∈ records.map (·.name) := by
    rw [← name_of_first h]
    exact List.mem_map_of_mem (List.mem_of_find?_eq_some h)
  have hhead : (records.filter (·.name = n)).head? = some r := by rw [List.head?_filter, h]
  obtain ⟨further, hfilter⟩ := List.head?_eq_some_iff.1 hhead
  have hnames : ∀ r' ∈ further, repetition r' = .invalidRecord n .repeated := by
    intro r' hr'
    have hr'n : r' ∈ records.filter (·.name = n) := by
      rw [hfilter]
      exact List.mem_cons_of_mem r hr'
    rw [repetition, show r'.name = n by simpa using (List.mem_filter.1 hr'n).2]
  have hlength : records.countP (·.name = n) - 1 = further.length := by
    rw [List.countP_eq_length_filter, hfilter]
    rfl
  rw [about_between registered hmem, hfilter, ofSameName, hlength,
    List.map_eq_replicate_iff.2 hnames]

theorem undeclared_ascending (records : List CapabilityRecord) (registered : Registry Method) :
    (undeclared records registered).Pairwise (· < ·) :=
  registered.table.names_ascending.filter _

theorem mem_undeclared_iff :
    n ∈ undeclared records registered ↔ n ∈ registered.names ∧ n ∉ records.map (·.name) := by
  simp [undeclared, List.mem_filter]

/-- About a name that is not declared, it is said that it is registered, if it is. -/
theorem filter_between_of_undeclared (h : n ∉ records.map (·.name)) :
    (between records registered).filter (·.method = n) =
      if n ∈ registered.names then [.registeredOnly n] else [] := by
  have hnone : records.filter (·.name = n) = [] := by
    rw [List.filter_eq_nil_iff]
    intro r hr hname
    exact h (List.mem_map.2 ⟨r, hr, by simpa using hname⟩)
  have hnodup : (undeclared records registered).Nodup := by
    refine (undeclared_ascending records registered).imp ?_
    rintro k _ hlt rfl
    exact Entries.not_lt_self k hlt
  have hcompose : ((fun d : Discrepancy => decide (d.method = n)) ∘ registeredOnly) = (· == n) := by
    funext k
    show decide (k = n) = (k == n)
    rw [beq_eq_decide]
  show (ofRecords registered [] records ++
    (undeclared records registered).map registeredOnly).filter (·.method = n) = _
  rw [List.filter_append, about_ofRecords, if_neg List.not_mem_nil, hnone, ofSameName,
    List.nil_append, List.filter_map, hcompose, List.filter_beq, hnodup.count]
  by_cases hn : n ∈ registered.names
  · rw [if_pos (mem_undeclared_iff.2 ⟨hn, h⟩), if_pos hn]
    rfl
  · rw [if_neg fun hmem => hn (mem_undeclared_iff.1 hmem).1, if_neg hn]
    rfl

/-- What an entry of a report can be, and why it is there. -/
inductive Entry (records : List CapabilityRecord) (registered : Registry Method) :
    Discrepancy → Prop
  | terms {n : String} {r : CapabilityRecord} {us : List UnknownTerm}
      (hr : records.find? (·.name = n) = some r) (hinvalid : ¬ r.IsValid)
      (hus : us = Classification.unknownTerms r.text) :
      Entry records registered (.invalidRecord n (.terms us))
  | unregistered {n : String} {r : CapabilityRecord} (hr : records.find? (·.name = n) = some r)
      (hvalid : r.IsValid) (hget : registered.get? n = none) :
      Entry records registered (.declaredOnly n)
  | mismatch {n field declared text : String} {r : CapabilityRecord}
      (hr : records.find? (·.name = n) = some r) (hvalid : r.IsValid)
      (hregistered : n ∈ registered.names) :
      Entry records registered (.fieldMismatch n field declared text)
  | repeated (n : String) : Entry records registered (.invalidRecord n .repeated)
  | undeclared {n : String} (hregistered : n ∈ registered.names)
      (hnot : n ∉ records.map (·.name)) : Entry records registered (.registeredOnly n)

theorem entry_of_mem (h : d ∈ between records registered) : Entry records registered d := by
  have habout : d ∈ (between records registered).filter (·.method = d.method) :=
    List.mem_filter.2 ⟨h, by simp⟩
  rcases exists_first_or_undeclared records d.method with ⟨r, hr⟩ | hnot
  · have hname := name_of_first hr
    rw [filter_between_of_first hr, List.mem_append] at habout
    rcases habout with hfirst | hfurther
    · rcases CapabilityRecord.mem_discrepancies_cases hfirst with ⟨hinvalid, hd⟩ |
        ⟨hvalid, hget, hd⟩ | ⟨hvalid, hregistered, field, declared, text, hd⟩
      · rw [hd, hname]
        exact .terms hr hinvalid rfl
      · rw [hd, hname]
        exact .unregistered hr hvalid (hname ▸ hget)
      · rw [hd, hname]
        exact .mismatch hr hvalid ((Table.mem_names_iff _ _).2 (hname ▸ hregistered))
    · rw [List.eq_of_mem_replicate hfurther]
      exact .repeated _
  · rw [filter_between_of_undeclared hnot] at habout
    split at habout
    · rename_i hregistered
      rw [List.mem_singleton.1 habout]
      exact .undeclared hregistered hnot
    · cases habout

theorem count_between_of_first (h : records.find? (·.name = n) = some r) (hd : d.method = n) :
    (between records registered).count d =
      (r.discrepancies registered).count d +
        (List.replicate (records.countP (·.name = n) - 1)
          (.invalidRecord n .repeated)).count d := by
  rw [← List.count_append, ← filter_between_of_first h, List.count_filter (by simpa using hd)]

theorem count_between_of_undeclared (h : n ∉ records.map (·.name)) (hd : d.method = n) :
    (between records registered).count d =
      (if n ∈ registered.names then [.registeredOnly n] else []).count d := by
  rw [← filter_between_of_undeclared h, List.count_filter (by simpa using hd)]

/-! ## All names -/

/-- An entry occurs once if something holds, and else not at all. -/
def OnceIf (p : Prop) (d : Discrepancy) (ds : List Discrepancy) : Prop :=
  (p → ds.count d = 1) ∧ (¬ p → d ∉ ds)

theorem registeredOnly_onceIf (records : List CapabilityRecord) (registered : Registry Method)
    (n : String) :
    OnceIf (n ∈ registered.names ∧ n ∉ records.map (·.name)) (.registeredOnly n)
      (between records registered) := by
  constructor
  · rintro ⟨hregistered, hnot⟩
    rw [count_between_of_undeclared hnot rfl, if_pos hregistered]
    exact List.count_singleton_self
  · intro hnot hmem
    cases entry_of_mem hmem with
    | undeclared hregistered hundeclared => exact hnot ⟨hregistered, hundeclared⟩

theorem declaredOnly_onceIf (records : List CapabilityRecord) (registered : Registry Method)
    (n : String) :
    OnceIf (∃ r, records.find? (·.name = n) = some r ∧ r.IsValid ∧ registered.get? n = none)
      (.declaredOnly n) (between records registered) := by
  constructor
  · rintro ⟨r, hr, hvalid, hget⟩
    have hname := name_of_first hr
    rw [count_between_of_first hr rfl,
      CapabilityRecord.discrepancies_of_unregistered hvalid (by rw [hname]; exact hget), hname,
      List.count_replicate]
    simp
  · intro hnot hmem
    cases entry_of_mem hmem with
    | unregistered hr hvalid hget => exact hnot ⟨_, hr, hvalid, hget⟩

theorem terms_onceIf (records : List CapabilityRecord) (registered : Registry Method) (n : String)
    (us : List UnknownTerm) :
    OnceIf (∃ r, records.find? (·.name = n) = some r ∧ ¬ r.IsValid ∧
        us = Classification.unknownTerms r.text)
      (.invalidRecord n (.terms us)) (between records registered) := by
  constructor
  · rintro ⟨r, hr, hinvalid, hus⟩
    rw [count_between_of_first hr rfl, CapabilityRecord.discrepancies_of_invalid hinvalid,
      name_of_first hr, hus, List.count_replicate]
    simp
  · intro hnot hmem
    cases entry_of_mem hmem with
    | terms hr hinvalid hus => exact hnot ⟨_, hr, hinvalid, hus⟩

theorem count_repeated (records : List CapabilityRecord) (registered : Registry Method)
    (n : String) :
    (between records registered).count (.invalidRecord n .repeated) =
      records.countP (·.name = n) - 1 := by
  rcases exists_first_or_undeclared records n with ⟨r, hr⟩ | hnot
  · have hfirst : .invalidRecord n .repeated ∉ r.discrepancies registered := by
      intro hmem
      rcases CapabilityRecord.mem_discrepancies_cases hmem with ⟨-, h⟩ | ⟨-, -, h⟩ |
        ⟨-, -, _, _, _, h⟩ <;> cases h
    rw [count_between_of_first hr rfl, List.count_eq_zero.2 hfirst, List.count_replicate_self,
      Nat.zero_add]
  · have hzero : records.countP (·.name = n) = 0 := by
      rw [List.countP_eq_zero]
      intro r hr hname
      exact hnot (List.mem_map.2 ⟨r, hr, by simpa using hname⟩)
    rw [count_between_of_undeclared hnot rfl, hzero]
    split <;> rfl

/-- The mismatches on an axis are those of the first record of the name. -/
theorem filter_isMismatchOf_axis {c : Classification} {m : Method}
    (hr : records.find? (·.name = n) = some r) (hc : r.classification = .ok c)
    (hm : registered.get? n = some m) (a : Axis) :
    (between records registered).filter (·.isMismatchOf n a.name) =
      if c.SameOn m.classification a then []
      else [.fieldMismatch n a.name (r.text a) (m.classification.text a)] := by
  have hname := name_of_first hr
  have habout : ∀ d ∈ between records registered,
      d.isMismatchOf n a.name = (d.isMismatchOf n a.name && decide (d.method = n)) := by
    intro d _
    cases d <;> simp +contextual [isMismatchOf, method]
  have hrepeated : (List.replicate (records.countP (·.name = n) - 1)
      (invalidRecord n .repeated)).filter (·.isMismatchOf n a.name) = [] := by
    rw [List.filter_eq_nil_iff]
    intro d hd
    rw [List.eq_of_mem_replicate hd]
    simp [isMismatchOf]
  rw [List.filter_congr habout, ← List.filter_filter, filter_between_of_first hr,
    List.filter_append, hrepeated, List.append_nil,
    CapabilityRecord.discrepancies_of_registered hc (by rw [hname, hm]),
    CapabilityRecord.mismatches_eq, List.filter_append, ← hname,
    CapabilityRecord.filter_axisMismatches, CapabilityRecord.filter_textMismatches, List.append_nil]

/-- If nothing is said, each registered method is declared once, and nothing else is. -/
theorem same_names_of_silent (h : between records registered = []) :
    (records.map (·.name)).Nodup ∧ ∀ n, n ∈ records.map (·.name) ↔ n ∈ registered.names := by
  constructor
  · rw [List.nodup_iff_count_le_one]
    intro n
    have hcount := count_repeated records registered n
    rw [h, List.count_nil] at hcount
    have hnames : (records.map (·.name)).count n = records.countP (·.name = n) := by
      rw [List.count, List.countP_map]
      refine List.countP_congr fun r _ => ?_
      simp
    omega
  · intro n
    constructor
    · intro hmem
      obtain ⟨r, hr⟩ := (exists_first_or_undeclared records n).resolve_right (not_not_intro hmem)
      by_cases hvalid : r.IsValid
      · by_contra hunregistered
        have hget : registered.get? n = none := by
          rw [← Option.not_isSome_iff_eq_none]
          exact fun hsome => hunregistered ((Table.mem_names_iff _ n).2 hsome)
        have honce := (declaredOnly_onceIf records registered n).1 ⟨r, hr, hvalid, hget⟩
        rw [h] at honce
        cases honce
      · have honce := (terms_onceIf records registered n _).1 ⟨r, hr, hvalid, rfl⟩
        rw [h] at honce
        cases honce
    · intro hregistered
      by_contra hnot
      have honce := (registeredOnly_onceIf records registered n).1 ⟨hregistered, hnot⟩
      rw [h] at honce
      cases honce

/-- How a report of drift accounts for records and registered methods. -/
structure Accounts (records : List CapabilityRecord) (registered : Registry Method)
    (ds : List Discrepancy) : Prop where
  /-- First what is said about each record, in their order, and then the undeclared methods. -/
  inOrder : ds = (records.mapIdx fun i r => said registered (records.take i) r).flatten ++
    (undeclared records registered).map .registeredOnly
  undeclaredLast : ∀ before r n, .registeredOnly n ∉ said registered before r
  ascending : (undeclared records registered).Pairwise (· < ·)
  registeredOnly : ∀ n,
    OnceIf (n ∈ registered.names ∧ n ∉ records.map (·.name)) (.registeredOnly n) ds
  declaredOnly : ∀ n,
    OnceIf (∃ r, records.find? (·.name = n) = some r ∧ r.IsValid ∧ registered.get? n = none)
      (.declaredOnly n) ds
  /-- The first record of a name is invalid with the axes that are no terms, in their order. -/
  terms : ∀ n us,
    OnceIf (∃ r, records.find? (·.name = n) = some r ∧ ¬ r.IsValid ∧
        us = Classification.unknownTerms r.text)
      (.invalidRecord n (.terms us)) ds
  /-- Each further record of a name is one too many. -/
  repeated : ∀ n, ds.count (.invalidRecord n .repeated) = records.countP (·.name = n) - 1
  mismatched : ∀ n field declared text, .fieldMismatch n field declared text ∈ ds →
    ∃ r, records.find? (·.name = n) = some r ∧ r.IsValid ∧ n ∈ registered.names
  /-- An axis is spoken of once if the value that is read on it is not the registered one. -/
  axis : ∀ n r c m a, records.find? (·.name = n) = some r → r.classification = .ok c →
    registered.get? n = some m →
      ds.filter (·.isMismatchOf n a.name) =
        if c.SameOn m.classification a then []
        else [.fieldMismatch n a.name (r.text a) (m.classification.text a)]
  /-- What is read on an axis is the term of the same spelling. -/
  spelled : ∀ (r : CapabilityRecord) c (c' : Classification) a, r.classification = .ok c →
    (c.SameOn c' a ↔ Vocabulary.spelling (r.text a) = c'.text a)
  silent : ds = [] →
    (records.map (·.name)).Nodup ∧ ∀ n, n ∈ records.map (·.name) ↔ n ∈ registered.names

/-- **The report accounts for every name.** -/
theorem between_accounts (records : List CapabilityRecord) (registered : Registry Method) :
    Accounts records registered (between records registered) where
  inOrder := by
    have hnone : ∀ n, n ∈ ([] : List String) ↔ n ∈ ([] : List CapabilityRecord).map (·.name) := by
      simp
    rw [between, ofRecords_eq registered hnone]
    rfl
  undeclaredLast before r n hmem := by
    unfold said at hmem
    split at hmem
    · cases List.mem_singleton.1 hmem
    · rcases CapabilityRecord.mem_discrepancies_cases hmem with ⟨-, h⟩ | ⟨-, -, h⟩ |
        ⟨-, -, _, _, _, h⟩ <;> cases h
  ascending := undeclared_ascending records registered
  registeredOnly := registeredOnly_onceIf records registered
  declaredOnly := declaredOnly_onceIf records registered
  terms := terms_onceIf records registered
  repeated := count_repeated records registered
  mismatched n _ _ _ hmem := by
    cases entry_of_mem hmem with
    | mismatch hr hvalid hregistered => exact ⟨_, hr, hvalid, hregistered⟩
  axis _ _ _ _ a hr hc hm := filter_isMismatchOf_axis hr hc hm a
  spelled r c c' a hc := by
    rw [← Classification.text_of_ofTexts hc a, Classification.text_eq_iff]
  silent := same_names_of_silent

/-- Another spelling is not spoken of, another term is, and a second record is one too many. -/
example :
    between [{ archive [] with domain := " WorkSpace ", capability := "delete" }, archive []]
        (archiving []) =
      [.fieldMismatch "casefile.archive" "capability" "delete" "update",
        .invalidRecord "casefile.archive" .repeated] := by cbv

end Discrepancy

end CasefileHub
