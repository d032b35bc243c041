import CasefileHub.Proofs.Json.Reading
import CasefileHub.Proofs.Parameter.Validation
/-!
# Arguments as text

The text of an object is validated like the object. A text is taken for the object that it reads as,
and has one fault of its own, in the field of the whole, if it reads as none:

    Json.read text = ok (obj ms) → validate specs text = validate specs (obj ms)
                                                                       (validate_of_read_object)
    text reads as no object → validate specs text = error [$: unreadable]
                                                                      (exists_error_of_no_object)
-/

namespace CasefileHub.ParameterSpec

section
variable [PatternEngine] {specs : List ParameterSpec} {text : String}

/-- What is made of the arguments alone decides what is made of a call. -/
theorem validate_congr {raw raw' : Json} (h : arguments raw = arguments raw') :
    validate specs raw = validate specs raw' := by
  rw [validate, validate, h]

theorem validate_of_error {raw : Json} {vs : List Violation} (h : arguments raw = .error vs) :
    validate specs raw = .error vs := by
  rw [validate, h]
  rfl

theorem validate_of_read_object {ms : List (String × Json)} (h : Json.read text = .ok (.obj ms)) :
    validate specs (.str text) = validate specs (.obj ms) := by
  refine validate_congr ?_
  simp only [arguments, h]

theorem validate_of_read_error {e : Json.ReadError} (h : Json.read text = .error e) :
    validate specs (.str text) = .error [⟨"$", .unreadable e⟩] := by
  refine validate_of_error ?_
  simp only [arguments, h]

theorem exists_error_of_no_object (h : ¬ ∃ ms, Json.read text = .ok (.obj ms)) :
    ∃ e, validate specs (.str text) = .error [⟨"$", .unreadable e⟩] := by
  cases hread : Json.read text with
  | error e => exact ⟨e, validate_of_read_error hread⟩
  | ok v =>
    refine ⟨.expected "an object", validate_of_error ?_⟩
    cases v with
    | obj ms => exact absurd ⟨ms, hread⟩ h
    | _ => simp only [arguments, hread]

/-- **Text takes the same path.** The compact text of an object whose numbers are integers of 64
bits is validated like the object, if its containers are within the limit, and is refused as a whole
if they are not. Any text is validated like the object that it reads as, or is refused as a whole. -/
theorem text_validates_as_object (specs : List ParameterSpec) :
    (∀ ms, (Json.obj ms).Normal → (Json.obj ms).allNumbers Number.isWord = true →
      ((Json.obj ms).depth < Json.nestingLimit →
        validate specs (.str (Json.obj ms).print) = validate specs (.obj ms)) ∧
      (Json.nestingLimit ≤ (Json.obj ms).depth →
        validate specs (.str (Json.obj ms).print) = .error [⟨"$", .unreadable .tooDeep⟩])) ∧
    ∀ text,
      (∀ ms, Json.read text = .ok (.obj ms) →
        validate specs (.str text) = validate specs (.obj ms)) ∧
      ((¬ ∃ ms, Json.read text = .ok (.obj ms)) →
        ∃ e, validate specs (.str text) = .error [⟨"$", .unreadable e⟩]) := by
  refine ⟨fun ms hnormal hword => ⟨fun hdepth => ?_, fun hdepth => ?_⟩,
    fun text => ⟨fun ms hread => validate_of_read_object hread, exists_error_of_no_object⟩⟩
  · exact validate_of_read_object ((Json.read_print hnormal hword).trans (if_pos hdepth))
  · refine validate_of_read_error ((Json.read_print hnormal hword).trans (if_neg ?_))
    exact Nat.not_lt.2 hdepth

end

/-- A container in another, the least integer and an escaped character. -/
def entry : List (String × Json) :=
  [("n", .arr [.int (-9223372036854775808), .obj []]), ("title", .str "bell\x07")]

def entryText : String :=
  "\x7b\"n\":[-9223372036854775808,\x7b\x7d],\"title\":\"bell\\u0007\"\x7d"

theorem text_validates_as_object_entry :
    (Json.obj entry).Normal ∧ (Json.obj entry).allNumbers Number.isWord = true ∧
      (Json.obj entry).depth = 3 ∧
      validate [{ name := "title", type := .string }] (.str entryText) =
        validate [{ name := "title", type := .string }] (.obj entry) ∧
      ∃ e, validate [{ name := "title", type := .string }] (.str "[]") =
        .error [⟨"$", .unreadable e⟩] := by
  have hnormal : (Json.obj entry).Normal := by decide +kernel
  have hword : (Json.obj entry).allNumbers Number.isWord = true := by decide +kernel
  have hdepth : (Json.obj entry).depth = 3 := by decide +kernel
  have hprint : (Json.obj entry).print = entryText := by decide +kernel
  have harray : Json.read "[]" = .ok (.arr []) := by rfl
  refine ⟨hnormal, hword, hdepth, ?_, ?_⟩
  · rw [← hprint]
    exact ((text_validates_as_object _).1 entry hnormal hword).1 (by rw [hdepth]; decide)
  · refine ((text_validates_as_object _).2 "[]").2 ?_
    rintro ⟨ms, hms⟩
    cases harray.symm.trans hms

end CasefileHub.ParameterSpec
