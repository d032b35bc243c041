import Mathlib
import CasefileHub.Catalog.Drift
import CasefileHub.Proofs.Text.Join
/-!
# What drift says about a record

What the discrepancies say about a name, they say about the records of this name: the first is
compared with the registered method, and every further one is a repetition. So nothing is said about
a registered record exactly if it is the only one of its name and every field agrees. Permissions
agree as multisets, or else as joined texts, and in a joined text commas and capitals get lost:

    n is declared → the discrepancies about n are ofSameName reg (rs.filter (·.name = n))
                                                                                    (about_between)
    r.discrepancies reg = [] ↔ r.Matches m ∧ the permissions agree          (discrepancies_eq_nil_iff)
    nothing is said on r, and its permissions and those of m are plain → they are the same multiset
                                                                        (silent_iff_permissions_pass)
-/

namespace CasefileHub

namespace CapabilityRecord

variable {r : CapabilityRecord} {m : Method} {d : Discrepancy}

/-! ## Permissions -/

theorem sorted_perm (l : List String) : (sorted l).Perm l := List.mergeSort_perm l _

theorem sorted_pairwise (l : List String) : (sorted l).Pairwise (· ≤ ·) := by
  have h := @List.pairwise_mergeSort _ (fun a b : String => decide (a ≤ b))
    (fun a b c hab hbc => decide_eq_true
      (String.le_trans (of_decide_eq_true hab) (of_decide_eq_true hbc)))
    (fun a b => by simpa using String.le_total a b) l
  exact h.imp fun hab => of_decide_eq_true hab

/-- Permissions in ascending order are the same exactly if they are the same multiset. -/
theorem sorted_eq_iff (l l' : List String) : sorted l = sorted l' ↔ l.Perm l' := by
  constructor
  · intro h
    exact (sorted_perm l).symm.trans (h ▸ sorted_perm l')
  · intro h
    have hperm : (sorted l).Perm (sorted l') :=
      (sorted_perm l).trans (h.trans (sorted_perm l').symm)
    exact hperm.eq_of_pairwise (fun _ _ _ _ => String.le_antisymm) (sorted_pairwise l)
      (sorted_pairwise l')

/-- Permissions as a mismatch shows them. -/
def permissionText (permissions : List String) : String := Text.join "," (sorted permissions)

/-- What passes the comparison of permissions: the same multiset, or texts that agree. -/
def PermissionsPass (declared registered : List String) : Prop :=
  declared.Perm registered ∨ agrees (permissionText declared) (permissionText registered) = true

/-- A permission that stays itself in a text of permissions, whatever its neighbours. -/
structure PlainPermission (p : String) : Prop where
  separable : Text.Separable p
  trimmed : Text.trim p = p
  lower : Text.lowerAscii p = p

/-- Plain permissions pass only if they are the same. -/
theorem PermissionsPass.perm {l l' : List String} (hpass : PermissionsPass l l')
    (h : ∀ p ∈ l, PlainPermission p) (h' : ∀ p ∈ l', PlainPermission p) : l.Perm l' := by
  rcases hpass with hperm | hagree
  · exact hperm
  · have hl : ∀ p ∈ sorted l, PlainPermission p := fun p hp => h p ((sorted_perm l).mem_iff.1 hp)
    have hl' : ∀ p ∈ sorted l', PlainPermission p :=
      fun p hp => h' p ((sorted_perm l').mem_iff.1 hp)
    have htrim : Text.trim (permissionText l) = permissionText l :=
      Text.trim_join fun p hp => ⟨(hl p hp).separable.nonempty, (hl p hp).trimmed⟩
    have hlower : Text.lowerAscii (permissionText l) = permissionText l :=
      Text.lowerAscii_join fun p hp => (hl p hp).lower
    have hlower' : Text.lowerAscii (permissionText l') = permissionText l' :=
      Text.lowerAscii_join fun p hp => (hl' p hp).lower
    unfold agrees Text.sameIgnoringCase at hagree
    rw [htrim, hlower, hlower', beq_iff_eq] at hagree
    rw [← sorted_eq_iff]
    exact Text.join_injective (fun p hp => (hl p hp).separable) (fun p hp => (hl' p hp).separable)
      hagree

/-! ## Fields -/

theorem textMismatch_eq_nil_iff (r : CapabilityRecord) (field declared registered : String) :
    r.textMismatch field declared registered = [] ↔ agrees declared registered = true := by
  unfold textMismatch
  split <;> simp_all

theorem permissionMismatches_eq_nil_iff :
    r.permissionMismatches m = [] ↔
      PermissionsPass r.requiredPermissions m.rules.requiredPermissions := by
  unfold PermissionsPass
  rw [← sorted_eq_iff, ← textMismatch_eq_nil_iff r "required_permissions"]
  unfold permissionMismatches
  simp only
  split
  · rename_i h
    exact iff_of_true rfl (.inl h)
  · rename_i h
    exact (or_iff_right h).symm

/-- The mismatches of the fields behind the axes. -/
def textMismatches (r : CapabilityRecord) (m : Method) : List Discrepancy :=
  r.textMismatch "service" r.service m.owner.service ++
  (if r.module.isEmpty then [] else r.textMismatch "module" r.module m.owner.module) ++
  (if r.function.isEmpty then [] else r.textMismatch "function" r.function m.owner.function) ++
  r.textMismatch "request_model" r.requestModel m.requestModel ++
  r.textMismatch "response_model" r.responseModel m.responseModel ++
  r.permissionMismatches m

def textFields : List String :=
  ["service", "module", "function", "request_model", "response_model", "required_permissions"]

theorem mismatches_eq (r : CapabilityRecord) (c : Classification) (m : Method) :
    r.mismatches c m = r.axisMismatches c m ++ r.textMismatches m := by
  simp only [mismatches, textMismatches, List.append_assoc]

theorem eq_of_mem_textMismatch {field declared text : String}
    (h : d ∈ r.textMismatch field declared text) :
    d = .fieldMismatch r.name field declared text := by
  unfold textMismatch at h
  split at h
  · cases h
  · exact List.mem_singleton.1 h

theorem exists_of_mem_textMismatches (h : d ∈ r.textMismatches m) :
    ∃ field ∈ textFields, ∃ declared text, d = .fieldMismatch r.name field declared text := by
  simp only [textMismatches, List.mem_append] at h
  rcases h with ((((h | h) | h) | h) | h) | h
  · exact ⟨"service", by decide, _, _, eq_of_mem_textMismatch h⟩
  · split at h
    · cases h
    · exact ⟨"module", by decide, _, _, eq_of_mem_textMismatch h⟩
  · split at h
    · cases h
    · exact ⟨"function", by decide, _, _, eq_of_mem_textMismatch h⟩
  · exact ⟨"request_model", by decide, _, _, eq_of_mem_textMismatch h⟩
  · exact ⟨"response_model", by decide, _, _, eq_of_mem_textMismatch h⟩
  · unfold permissionMismatches at h
    simp only at h
    split at h
    · cases h
    · exact ⟨"required_permissions", by decide, _, _, eq_of_mem_textMismatch h⟩

theorem exists_of_mem_mismatches {c : Classification} (h : d ∈ r.mismatches c m) :
    ∃ field declared text, d = .fieldMismatch r.name field declared text := by
  rw [mismatches_eq, List.mem_append] at h
  rcases h with h | h
  · obtain ⟨a, -, rfl⟩ := List.mem_map.1 h
    exact ⟨_, _, _, rfl⟩
  · obtain ⟨field, -, declared, text, rfl⟩ := exists_of_mem_textMismatches h
    exact ⟨field, declared, text, rfl⟩

/-- A classification is told by its texts. -/
theorem classification_ext {c c' : Classification} (h : ∀ a, c.text a = c'.text a) : c = c' := by
  have hread := Classification.ofTexts_text c
  rw [show c.text = c'.text from funext h, Classification.ofTexts_text c'] at hread
  exact (Except.ok.inj hread).symm

theorem axisMismatches_eq_nil_iff {c : Classification} :
    r.axisMismatches c m = [] ↔ c = m.classification := by
  unfold axisMismatches
  rw [List.map_eq_nil_iff, List.filter_eq_nil_iff]
  constructor
  · intro h
    refine classification_ext fun a => ?_
    have hall : a ∈ Axis.all := by cases a <;> decide
    simpa using h a hall
  · rintro rfl a -
    simp

/-- A record and a method agree in every field but the permissions. -/
structure Matches (r : CapabilityRecord) (m : Method) : Prop where
  classification : r.classification = .ok m.classification
  service : agrees r.service m.owner.service = true
  module : r.module = "" ∨ agrees r.module m.owner.module = true
  function : r.function = "" ∨ agrees r.function m.owner.function = true
  requestModel : agrees r.requestModel m.requestModel = true
  responseModel : agrees r.responseModel m.responseModel = true

theorem declared_eq_nil_iff {field declared registered : String} :
    (if declared.isEmpty then [] else r.textMismatch field declared registered) = [] ↔
      declared = "" ∨ agrees declared registered = true := by
  rw [← String.isEmpty_iff, ← textMismatch_eq_nil_iff r field]
  split
  · rename_i h
    exact iff_of_true rfl (.inl h)
  · rename_i h
    exact (or_iff_right h).symm

/-- Nothing is said about a registered record exactly if it agrees with the method. -/
theorem discrepancies_eq_nil_iff {registered : Registry Method}
    (hm : registered.get? r.name = some m) :
    r.discrepancies registered = [] ↔
      r.Matches m ∧ PermissionsPass r.requiredPermissions m.rules.requiredPermissions := by
  unfold discrepancies
  cases hc : r.classification with
  | error us =>
    refine iff_of_false (by simp) ?_
    rintro ⟨h, -⟩
    rw [h.classification] at hc
    cases hc
  | ok c =>
    simp only [hm, mismatches, List.append_eq_nil_iff, axisMismatches_eq_nil_iff,
      textMismatch_eq_nil_iff, declared_eq_nil_iff, permissionMismatches_eq_nil_iff]
    constructor
    · rintro ⟨⟨⟨⟨⟨⟨rfl, hs⟩, hmod⟩, hf⟩, hreq⟩, hresp⟩, hperm⟩
      exact ⟨⟨hc, hs, hmod, hf, hreq, hresp⟩, hperm⟩
    · rintro ⟨h, hperm⟩
      rw [h.classification] at hc
      exact ⟨⟨⟨⟨⟨⟨(Except.ok.inj hc).symm, h.service⟩, h.module⟩, h.function⟩, h.requestModel⟩,
        h.responseModel⟩, hperm⟩

end CapabilityRecord

/-! ## What is said about a name -/

namespace Discrepancy

/-- The name that a discrepancy is about. -/
def method : Discrepancy → String
  | .declaredOnly method => method
  | .registeredOnly method => method
  | .fieldMismatch method _ _ _ => method
  | .invalidRecord method _ => method

variable {registered : Registry Method} {r : CapabilityRecord} {records : List CapabilityRecord}

theorem method_of_mem_mismatches {d : Discrepancy} {c : Classification} {m : Method}
    (h : d ∈ r.mismatches c m) : d.method = r.name := by
  obtain ⟨field, declared, text, rfl⟩ := CapabilityRecord.exists_of_mem_mismatches h
  rfl

/-- What is said about a record names it. -/
theorem method_of_mem_discrepancies {d : Discrepancy} (h : d ∈ r.discrepancies registered) :
    d.method = r.name := by
  unfold CapabilityRecord.discrepancies at h
  split at h
  · cases List.mem_singleton.1 h
    rfl
  · split at h
    · cases List.mem_singleton.1 h
      rfl
    · exact method_of_mem_mismatches h

/-- A record whose name has been seen. -/
def repetition (r : CapabilityRecord) : Discrepancy := .invalidRecord r.name .repeated

/-- What is said about the records of one name: the first is compared, the others are too many. -/
def ofSameName (registered : Registry Method) : List CapabilityRecord → List Discrepancy
  | [] => []
  | r :: rest => r.discrepancies registered ++ rest.map repetition

theorem filter_discrepancies_self :
    (r.discrepancies registered).filter (·.method = r.name) = r.discrepancies registered :=
  List.filter_eq_self.2 fun _ hd => decide_eq_true (method_of_mem_discrepancies hd)

theorem filter_discrepancies_of_ne {n : String} (h : r.name ≠ n) :
    (r.discrepancies registered).filter (·.method = n) = [] :=
  List.filter_eq_nil_iff.2 fun _ hd => by
    rw [decide_eq_true_iff, method_of_mem_discrepancies hd]
    exact h

/-- Of the records with names seen or unseen, only those of a name are spoken of under it. -/
theorem about_ofRecords (registered : Registry Method) (seen : List String)
    (records : List CapabilityRecord) (n : String) :
    (ofRecords registered seen records).filter (·.method = n) =
      if n ∈ seen then (records.filter (·.name = n)).map repetition
      else ofSameName registered (records.filter (·.name = n)) := by
  induction records generalizing seen with
  | nil => simp [ofRecords, ofSameName]
  | cons r rest ih =>
    unfold ofRecords
    by_cases hname : r.name = n
    · subst hname
      have hfilter : (r :: rest).filter (·.name = r.name) = r :: rest.filter (·.name = r.name) :=
        List.filter_cons_of_pos (by simp)
      rw [hfilter]
      by_cases hseen : r.name ∈ seen
      · rw [if_pos (by simpa using hseen), if_pos hseen, List.filter_cons_of_pos (by simp [method]),
          ih, if_pos hseen]
        rfl
      · rw [if_neg (by simpa using hseen), if_neg hseen, List.filter_append,
          filter_discrepancies_self, ih, if_pos List.mem_cons_self]
        rfl
    · -- a record of another name says nothing, and its name being seen changes nothing
      have hfilter : (r :: rest).filter (·.name = n) = rest.filter (·.name = n) :=
        List.filter_cons_of_neg (by simpa using hname)
      rw [hfilter]
      split
      · rw [List.filter_cons_of_neg (by simp [method, hname]), ih]
      · rw [List.filter_append, filter_discrepancies_of_ne hname, List.nil_append, ih]
        simp [Ne.symm hname]

/-- What is said about a name that is declared, is said about the records of this name. -/
theorem about_between (registered : Registry Method) {n : String} (h : n ∈ records.map (·.name)) :
    (between records registered).filter (·.method = n) =
      ofSameName registered (records.filter (·.name = n)) := by
  have hrest : ((registered.names.filter fun k => !(records.map (·.name)).contains k).map
      registeredOnly).filter (·.method = n) = [] := by
    rw [List.filter_eq_nil_iff]
    intro d hd hn
    obtain ⟨k, hk, rfl⟩ := List.mem_map.1 hd
    have hkn : k = n := of_decide_eq_true hn
    have hnot := (List.mem_filter.1 hk).2
    simp [hkn, h] at hnot
  rw [between, List.filter_append, about_ofRecords, if_neg List.not_mem_nil, hrest,
    List.append_nil]

/-- Nothing is said about a record exactly if it has no namesake and no discrepancies. -/
theorem silent_iff (hr : r ∈ records) :
    (∀ d ∈ between records registered, d.method ≠ r.name) ↔
      records.filter (·.name = r.name) = [r] ∧ r.discrepancies registered = [] := by
  have habout := about_between registered (List.mem_map_of_mem hr)
  have hmem : r ∈ records.filter (·.name = r.name) := List.mem_filter.2 ⟨hr, by simp⟩
  have hsilent : (∀ d ∈ between records registered, d.method ≠ r.name) ↔
      ofSameName registered (records.filter (·.name = r.name)) = [] := by
    rw [← habout, List.filter_eq_nil_iff]
    simp only [decide_eq_true_eq, ne_eq]
  rw [hsilent]
  constructor
  · intro h
    cases hrecords : records.filter (·.name = r.name) with
    | nil =>
      rw [hrecords] at hmem
      cases hmem
    | cons first rest =>
      rw [hrecords] at h hmem
      obtain ⟨hfirst, hrest⟩ := List.append_eq_nil_iff.1 h
      rw [List.map_eq_nil_iff.1 hrest] at hmem ⊢
      cases List.mem_singleton.1 hmem
      exact ⟨rfl, hfirst⟩
  · rintro ⟨hrecords, hnil⟩
    rw [hrecords, ofSameName, hnil]
    rfl

/-! ## Permissions that drift -/

open CapabilityRecord (PermissionsPass PlainPermission)

/-- **Silence about a registered record.** Nothing is said about it exactly if it has no namesake,
every other field agrees, and its permissions pass. These need not be those of the method; but if
the permissions of both are plain, silence means that they are the same multiset. -/
theorem silent_iff_permissions_pass {m : Method} (hr : r ∈ records)
    (hm : registered.get? r.name = some m) :
    ((∀ d ∈ between records registered, d.method ≠ r.name) ↔
      records.filter (·.name = r.name) = [r] ∧ r.Matches m ∧
        PermissionsPass r.requiredPermissions m.rules.requiredPermissions) ∧
    ((∀ d ∈ between records registered, d.method ≠ r.name) →
      (∀ p ∈ r.requiredPermissions, PlainPermission p) →
      (∀ p ∈ m.rules.requiredPermissions, PlainPermission p) →
        r.requiredPermissions.Perm m.rules.requiredPermissions) := by
  have hiff : (∀ d ∈ between records registered, d.method ≠ r.name) ↔
      records.filter (·.name = r.name) = [r] ∧ r.Matches m ∧
        PermissionsPass r.requiredPermissions m.rules.requiredPermissions := by
    rw [silent_iff hr, CapabilityRecord.discrepancies_eq_nil_iff hm]
  refine ⟨hiff, fun hsilent hdeclared hregistered => ?_⟩
  obtain ⟨-, -, hpass⟩ := hiff.1 hsilent
  exact hpass.perm hdeclared hregistered

/-- A record of a method to archive casefiles. -/
def archive (permissions : List String) : CapabilityRecord where
  name := "casefile.archive"
  domain := "workspace"
  subdomain := "casefile"
  capability := "update"
  service := "CasefileService"
  requiredPermissions := permissions
  requestModel := "CreateCasefileRequest"
  responseModel := "CreateCasefileResponse"

/-- The method that it declares. -/
def archiver (permissions : List String) : Method where
  name := "casefile.archive"
  classification := .atomic .workspace .casefile .update
  owner := { service := "CasefileService" }
  rules := { requiredPermissions := permissions }
  requestModel := "CreateCasefileRequest"
  responseModel := "CreateCasefileResponse"

/-- A registry with this method alone. -/
def archiving (permissions : List String) : Registry Method :=
  .replace .empty (archiver permissions)

/-- Plain permissions in another order are not spoken of, and they are the same multiset. -/
theorem silent_on_reordered_permissions :
    between [archive ["b", "a"]] (archiving ["a", "b"]) = [] ∧
    (archive ["b", "a"]).requiredPermissions.Perm
      (archiver ["a", "b"]).rules.requiredPermissions := by
  have hnil : between [archive ["b", "a"]] (archiving ["a", "b"]) = [] := by cbv
  have plain : ∀ p, p = "a" ∨ p = "b" → PlainPermission p := by
    rintro p (rfl | rfl)
    · exact ⟨⟨by decide, by decide⟩, by decide, by decide⟩
    · exact ⟨⟨by decide, by decide⟩, by decide, by decide⟩
  have hget : (archiving ["a", "b"]).get? (archive ["b", "a"]).name = some (archiver ["a", "b"]) :=
    rfl
  have hpass := (silent_iff_permissions_pass (List.mem_singleton_self _) hget).2
  refine ⟨hnil, hpass (by simp [hnil]) (fun p hp => plain p ?_) fun p hp => plain p ?_⟩
  · simpa [archive, or_comm] using hp
  · simpa [archiver] using hp

/-- Permissions that differ in case, in commas or in an empty one are not told apart, although a
caller who holds the declared one is not permitted. -/
theorem missed_permissions :
    between [archive ["Chat:use"]] (archiving ["chat:use"]) = [] ∧
    ¬ ["Chat:use"].Perm ["chat:use"] ∧
    (archiver ["chat:use"]).permits ["Chat:use"] = false ∧
    between [archive ["a", "b"]] (archiving ["a,b"]) = [] ∧ ¬ ["a", "b"].Perm ["a,b"] ∧
    between [archive []] (archiving [""]) = [] ∧ ¬ ([] : List String).Perm [""] :=
  ⟨by cbv, by decide, by decide, by cbv, by decide, by cbv, by decide⟩

end Discrepancy

end CasefileHub
