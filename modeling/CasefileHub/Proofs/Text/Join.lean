import CasefileHub.Text.Blank
/-!
# Joined and trimmed texts

A joined text tells its parts only if none is empty or has the separator in it. Trimming leaves a text
as it is exactly if no blank stands at either end, and a text that is trimmed is another one, also
without regard to case, unless it is left as it is:

    no part of l, l' is empty or has a comma → join "," l = join "," l' → l = l'      (join_injective)
    the parts of l are trimmed and not empty → trim (join "," l) = join "," l            (trim_join)
    sameIgnoringCase (trim s) s ↔ trim s = s                                (sameIgnoringCase_trim_iff)
-/

namespace CasefileHub.Text

/-! ## Trimmed texts -/

theorem trimList_eq_self_iff (cs : List Char) :
    trimList cs = cs ↔ Leads cs ∧ Leads cs.reverse := by
  constructor
  · intro h
    have hback : Leads (trimList cs).reverse := by
      rw [trimList, List.reverse_reverse]
      exact leads_dropWhile _
    rw [h] at hback
    exact ⟨h ▸ leads_trimList cs, hback⟩
  · rintro ⟨hfront, hback⟩
    rw [trimList, dropWhile_eq_self hfront, dropWhile_eq_self hback, List.reverse_reverse]

theorem trim_eq_self_iff (s : String) : trim s = s ↔ trimList s.toList = s.toList := by
  rw [trim, ← String.toList_inj, String.toList_ofList]

theorem trimList_sublist (cs : List Char) : (trimList cs).Sublist cs := by
  have hback := (List.dropWhile_sublist isBlank (l := (cs.dropWhile isBlank).reverse)).reverse
  rw [List.reverse_reverse] at hback
  exact hback.trans (List.dropWhile_sublist isBlank)

/-- Trimming takes characters away or changes nothing, so case does not matter. -/
theorem sameIgnoringCase_trim_iff (s : String) :
    sameIgnoringCase (trim s) s = true ↔ trim s = s := by
  unfold sameIgnoringCase
  rw [beq_iff_eq]
  constructor
  · intro h
    have hlength := congrArg (fun t : String => t.toList.length) h
    simp only [lowerAscii, trim, String.toList_ofList, List.length_map] at hlength
    rw [trim_eq_self_iff]
    exact (trimList_sublist s.toList).eq_of_length hlength
  · intro h
    rw [h]

/-! ## Joined texts -/

theorem toList_join_cons (sep s t : String) (rest : List String) :
    (join sep (s :: t :: rest)).toList = s.toList ++ (sep.toList ++ (join sep (t :: rest)).toList) := by
  rw [join, String.toList_append, String.toList_append, List.append_assoc]

/-- What stands before the first of a character is told by it. -/
theorem append_cons_inj {c : Char} {x₁ x₂ z₁ z₂ : List Char} (h₁ : c ∉ x₁) (h₂ : c ∉ x₂)
    (h : x₁ ++ c :: z₁ = x₂ ++ c :: z₂) : x₁ = x₂ ∧ z₁ = z₂ := by
  induction x₁ generalizing x₂ with
  | nil =>
    cases x₂ with
    | nil => exact ⟨rfl, (List.cons.inj h).2⟩
    | cons b x₂ =>
      have hb : c = b := (List.cons.inj h).1
      exact absurd (hb ▸ List.mem_cons_self) h₂
  | cons a x₁ ih =>
    cases x₂ with
    | nil =>
      have ha : a = c := (List.cons.inj h).1
      exact absurd (ha ▸ List.mem_cons_self) h₁
    | cons b x₂ =>
      obtain ⟨hab, htail⟩ := List.cons.inj h
      obtain ⟨hx, hz⟩ := ih (mt (List.mem_cons_of_mem a) h₁) (mt (List.mem_cons_of_mem b) h₂) htail
      exact ⟨by rw [hab, hx], hz⟩

/-- A part of a joined text that can be told from its neighbours. -/
structure Separable (s : String) : Prop where
  nonempty : s ≠ ""
  comma : ',' ∉ s.toList

/-- A joined text is not empty, and has no comma before the second part. -/
theorem join_cons_ne {s t : String} {rest : List String} : join "," (s :: t :: rest) ≠ "" := by
  intro h
  have hlist := congrArg String.toList h
  rw [toList_join_cons] at hlist
  exact absurd (List.append_eq_nil_iff.1 hlist).2 (List.cons_ne_nil _ _)

theorem ne_join_cons {r s t : String} {rest : List String} (hr : Separable r) :
    r ≠ join "," (s :: t :: rest) := by
  intro h
  refine hr.comma ?_
  rw [h, toList_join_cons]
  exact List.mem_append_right _ List.mem_cons_self

/-- **Joined texts tell their parts**, if these have no commas and are not empty. -/
theorem join_injective {l l' : List String} (h : ∀ s ∈ l, Separable s)
    (h' : ∀ s ∈ l', Separable s) (heq : join "," l = join "," l') : l = l' := by
  induction l generalizing l' with
  | nil =>
    cases l' with
    | nil => rfl
    | cons s' rest' =>
      cases rest' with
      | nil => exact absurd heq.symm (h' s' List.mem_cons_self).nonempty
      | cons t' rest' => exact absurd heq.symm join_cons_ne
  | cons s rest ih =>
    have hs := h s List.mem_cons_self
    cases l' with
    | nil =>
      cases rest with
      | nil => exact absurd heq hs.nonempty
      | cons t rest => exact absurd heq join_cons_ne
    | cons s' rest' =>
      have hs' := h' s' List.mem_cons_self
      cases rest with
      | nil =>
        cases rest' with
        | nil => rw [show s = s' from heq]
        | cons t' rest' => exact absurd heq (ne_join_cons hs)
      | cons t rest =>
        cases rest' with
        | nil => exact absurd heq.symm (ne_join_cons hs')
        | cons t' rest' =>
          have hlist := congrArg String.toList heq
          rw [toList_join_cons, toList_join_cons] at hlist
          obtain ⟨hhead, htail⟩ := append_cons_inj hs.comma hs'.comma hlist
          rw [String.toList_inj.1 hhead,
            ih (fun u hu => h u (List.mem_cons_of_mem s hu))
              (fun u hu => h' u (List.mem_cons_of_mem s' hu)) (String.toList_inj.1 htail)]

/-! ## What joining keeps -/

theorem Leads.append {cs : List Char} (h : Leads cs) (hne : cs ≠ []) (rest : List Char) :
    Leads (cs ++ rest) := by
  cases cs with
  | nil => exact absurd rfl hne
  | cons c cs => exact fun d hd => h d hd

theorem toList_ne_nil {s : String} (h : s ≠ "") : s.toList ≠ [] :=
  fun hnil => h (String.toList_inj.1 hnil)

/-- The ends of a joined text are the ends of its first and its last part. -/
theorem trim_join {l : List String} (h : ∀ s ∈ l, s ≠ "" ∧ trim s = s) :
    trim (join "," l) = join "," l := by
  induction l with
  | nil => rfl
  | cons s rest ih =>
    obtain ⟨hne, htrim⟩ := h s List.mem_cons_self
    cases rest with
    | nil => exact htrim
    | cons t rest =>
      have hrest := ih fun u hu => h u (List.mem_cons_of_mem s hu)
      have hjoin : join "," (t :: rest) ≠ "" := by
        cases rest with
        | nil => exact (h t (List.mem_cons_of_mem s List.mem_cons_self)).1
        | cons u rest => exact join_cons_ne
      rw [trim_eq_self_iff, trimList_eq_self_iff] at htrim hrest ⊢
      rw [toList_join_cons]
      refine ⟨htrim.1.append (toList_ne_nil hne) _, ?_⟩
      rw [List.reverse_append, List.reverse_append, List.append_assoc]
      exact hrest.2.append (by simpa using toList_ne_nil hjoin) _

theorem lowerAscii_append (s t : String) : lowerAscii (s ++ t) = lowerAscii s ++ lowerAscii t := by
  simp [lowerAscii, String.toList_append, String.ofList_append]

theorem lowerAscii_join {l : List String} (h : ∀ s ∈ l, lowerAscii s = s) :
    lowerAscii (join "," l) = join "," l := by
  induction l with
  | nil => rfl
  | cons s rest ih =>
    have hs := h s List.mem_cons_self
    cases rest with
    | nil => exact hs
    | cons t rest =>
      have hrest := ih fun u hu => h u (List.mem_cons_of_mem s hu)
      rw [join, lowerAscii_append, lowerAscii_append, hs, hrest]
      rfl

end CasefileHub.Text
