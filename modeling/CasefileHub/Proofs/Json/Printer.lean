import CasefileHub.Json.Printer
/-!
# Printed values stand on one line

The printer puts nothing between tokens, and in texts it escapes line feeds. So a value that is
printed takes one line, whatever its texts, names and numbers are:

    OneLine (s ++ t) ↔ OneLine s ∧ OneLine t                  (oneLine_append)
    OneLine (quoted s), OneLine n.text                        (oneLine_quoted, oneLine_text)
    OneLine v.print                                           (oneLine_print)
-/

namespace CasefileHub

/-- No line feed is in the text. -/
def Text.OneLine (s : String) : Prop := '\n' ∉ s.toList

namespace Text

instance (s : String) : Decidable (OneLine s) := inferInstanceAs (Decidable (_ ∉ _))

@[simp] theorem oneLine_append (s t : String) : OneLine (s ++ t) ↔ OneLine s ∧ OneLine t := by
  unfold OneLine
  rw [String.toList_append, List.mem_append, not_or]

@[simp] theorem oneLine_ofList (cs : List Char) : OneLine (String.ofList cs) ↔ '\n' ∉ cs := by
  unfold OneLine
  rw [String.toList_ofList]

theorem not_mem_of_digits {cs : List Char} (h : ∀ c ∈ cs, c.isDigit = true) : '\n' ∉ cs :=
  fun hmem => absurd (h _ hmem) (by decide)

theorem oneLine_repr (n : Nat) : OneLine (Nat.repr n) := by
  unfold OneLine
  rw [Nat.toList_repr]
  exact not_mem_of_digits fun _ => Nat.isDigit_of_mem_toDigits (by decide) (by decide)

end Text

/-! ## Numbers -/

namespace Binary64

theorem isDigit_of_mem_normalDigits {x : Binary64} {c : Char} (h : c ∈ x.normalDigits.1) :
    c.isDigit = true := by
  refine Nat.isDigit_of_mem_toDigits (b := 10) (n := x.shortest.1) (by decide) (by decide) ?_
  have hmem := (List.dropWhile_sublist _).mem (List.mem_reverse.1 h)
  exact List.mem_reverse.1 hmem

/-- The digits on both sides of the point are those given, and zeros. -/
theorem isDigit_of_mem_positional {digits : List Char} (h : ∀ c ∈ digits, c.isDigit = true)
    (top : Int) :
    (∀ c ∈ (positional digits top).1, c.isDigit = true) ∧
      ∀ c ∈ (positional digits top).2, c.isDigit = true := by
  have hzeros (k : Nat) : ∀ c ∈ List.replicate k '0', c.isDigit = true := by
    intro c hc
    rw [List.eq_of_mem_replicate hc]
    rfl
  unfold positional
  split
  · refine ⟨fun c hc => ?_, fun c hc => ?_⟩
    · rw [List.mem_singleton.1 hc]
      rfl
    · exact (List.mem_append.1 hc).elim (hzeros _ c) (h c)
  · refine ⟨fun c hc => ?_, fun c hc => h c (List.mem_of_mem_drop hc)⟩
    exact (List.mem_append.1 hc).elim (fun hmem => h c (List.mem_of_mem_take hmem)) (hzeros _ c)

theorem oneLine_text (x : Binary64) : Text.OneLine x.text := by
  have hdigits : ∀ c ∈ x.normalDigits.1, c.isDigit = true := fun c => isDigit_of_mem_normalDigits
  have hsign : Text.OneLine x.signText := by
    unfold signText
    split <;> decide
  unfold text
  simp only [Text.oneLine_append]
  refine ⟨hsign, ?_⟩
  generalize x.normalDigits.1 = digits at hdigits
  generalize x.normalDigits.2 = top
  split
  · decide
  · split
    · obtain ⟨hwhole, hfraction⟩ := isDigit_of_mem_positional hdigits top
      simp only [Text.oneLine_ofList, List.mem_append, List.mem_cons, not_or]
      refine ⟨Text.not_mem_of_digits hwhole, by decide, ?_⟩
      split
      · decide
      · exact Text.not_mem_of_digits hfraction
    · simp only [Text.oneLine_append, Text.oneLine_ofList]
      refine ⟨⟨⟨?_, by decide⟩, by split <;> decide⟩, Text.oneLine_repr _⟩
      have hmantissa := Text.not_mem_of_digits hdigits
      split
      · exact hmantissa
      · simp only [List.mem_cons, not_or] at hmantissa ⊢
        exact ⟨hmantissa.1, by decide, hmantissa.2⟩
      · exact hmantissa

end Binary64

theorem Number.oneLine_text (n : Number) : Text.OneLine n.text := by
  cases n with
  | int n =>
    unfold text
    simp only
    split
    · exact (Text.oneLine_append _ _).2 ⟨by decide, Text.oneLine_repr _⟩
    · exact Text.oneLine_repr _
  | real x => exact Binary64.oneLine_text x

/-! ## Values -/

namespace Json

theorem newline_not_mem_escapeChar (c : Char) : '\n' ∉ escapeChar c := by
  have hdigit : ∀ k < 16, '\n' ≠ Nat.digitChar k := by decide
  unfold escapeChar
  iterate 7
    split
    · decide
  split
  · rename_i hcontrol
    have hhigh := hdigit (c.toNat / 16) (by omega)
    have hlow := hdigit (c.toNat % 16) (by omega)
    simp [hhigh, hlow]
  · rename_i hline _ _ _ _ _
    simpa using Ne.symm hline

theorem oneLine_quoted (s : String) : Text.OneLine (quoted s) := by
  unfold quoted
  simp only [Text.oneLine_ofList, List.mem_cons, List.mem_append, List.mem_flatMap, not_or]
  refine ⟨by decide, ?_, by decide⟩
  rintro ⟨c, -, hc⟩
  exact newline_not_mem_escapeChar c hc

mutual

/-- A printed value stands on one line. -/
theorem oneLine_print : ∀ v : Json, Text.OneLine v.print
  | .null => by decide
  | .bool true => by decide
  | .bool false => by decide
  | .num n => n.oneLine_text
  | .str s => oneLine_quoted s
  | .arr items => by
    simp only [print, Text.oneLine_append]
    exact ⟨⟨by decide, oneLine_printItems items⟩, by decide⟩
  | .obj members => by
    simp only [print, Text.oneLine_append]
    exact ⟨⟨by decide, oneLine_printMembers members⟩, by decide⟩

theorem oneLine_printItems : ∀ items : List Json, Text.OneLine (printItems items)
  | [] => by decide
  | v :: rest => by
    unfold printItems
    split
    · exact oneLine_print v
    · simp only [Text.oneLine_append]
      exact ⟨⟨oneLine_print v, by decide⟩, oneLine_printItems rest⟩

theorem oneLine_printMembers : ∀ members : List (String × Json), Text.OneLine (printMembers members)
  | [] => by decide
  | m :: rest => by
    unfold printMembers
    split
    · exact oneLine_printMember m
    · simp only [Text.oneLine_append]
      exact ⟨⟨oneLine_printMember m, by decide⟩, oneLine_printMembers rest⟩

theorem oneLine_printMember : ∀ m : String × Json, Text.OneLine (printMember m)
  | (name, v) => by
    simp only [printMember, Text.oneLine_append]
    exact ⟨⟨oneLine_quoted name, by decide⟩, oneLine_print v⟩

end

end Json

end CasefileHub
