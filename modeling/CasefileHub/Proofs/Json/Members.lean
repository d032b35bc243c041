import Mathlib.Data.List.Forall2
import CasefileHub.Json.Decode
import CasefileHub.Json.Members
/-!
# Objects that are read member by member

What is well-formed throughout is well-formed where it is only skimmed. The reader of members keeps
pace with one that reads everything in full: around the outermost value and in the members that are
read they have read the same, and in the others only as many containers are open, of the same kinds.
So a text that reads as a value reads member by member as one that differs in skimmed members only,
and as the same record:

    scanToken cs = ok (t, rest) → skimToken cs = ok (t.blurred, rest)    (skimToken_of_scanToken)
    both readers keep pace → they do so after a token                            (KeepsPace.step)
    readAsWritten s = ok v → readMembers known s = ok v', and v.Alike known v'
                                                         (exists_readMembers_of_readAsWritten)
    f asks only for known names → v.Alike known v' → the records of f are the same
                                                                  (Decoder.record_eq_of_alike)
-/

namespace CasefileHub

namespace Json

variable {ε α β : Type}

theorem exists_of_map_ok {x : Except ε α} {f : α → β} {b : β} (h : x.map f = .ok b) :
    ∃ a, x = .ok a ∧ f a = b := by
  cases x with
  | error e => cases h
  | ok a => exact ⟨a, rfl, Except.ok.inj h⟩

theorem exists_of_bind_ok {x : Except ε α} {f : α → Except ε β} {b : β} (h : x >>= f = .ok b) :
    ∃ a, x = .ok a ∧ f a = .ok b := by
  cases x with
  | error e => cases h
  | ok a => exact ⟨a, rfl, h⟩

/-! ## Tokens -/

/-- The token of the same kind that stands for all texts, or all numbers. -/
def Token.blurred : Token → Token
  | .text _ => .text ""
  | .number _ => .number (.int 0)
  | t => t

variable {cs rest : List Char}

theorem skimText_of_scanText {found : List Char} (h : scanText cs = .ok (found, rest)) :
    skimText cs = .ok rest := by
  fun_induction scanText cs generalizing found rest with
  | case2 =>
    cases h
    rfl
  | case5 a b c d n hfirst _ e f g k more m hsecond _ ih =>
    -- a pair of surrogates is two escapes
    obtain ⟨⟨cs, after⟩, hmore, hfound⟩ := exists_of_map_ok h
    cases hfound
    rw [skimText, if_pos (by rw [hfirst]; rfl), skimText, if_pos (by rw [hsecond]; rfl)]
    exact ih hmore
  | case9 a b c d more n hescape _ _ ih =>
    obtain ⟨⟨cs, after⟩, hmore, hfound⟩ := exists_of_map_ok h
    cases hfound
    rw [skimText, if_pos (by rw [hescape]; rfl)]
    exact ih hmore
  | case10 c more hunicode e hescape ih =>
    obtain ⟨⟨cs, after⟩, hmore, hfound⟩ := exists_of_map_ok h
    cases hfound
    rw [skimText.eq_4 _ _ hunicode, if_pos (by rw [hescape]; rfl)]
    exact ih hmore
  | case14 c more hquote hunicode hescape hbackslash hcontrol ih =>
    obtain ⟨⟨cs, after⟩, hmore, hfound⟩ := exists_of_map_ok h
    cases hfound
    rw [skimText.eq_5 _ _ hquote hunicode hescape, if_neg hbackslash, if_neg hcontrol]
    exact ih hmore
  | _ => cases h

theorem skimNumber_of_scanNumber {negative : Bool} {n : Number}
    (h : scanNumber negative cs = .ok (n, rest)) : skimNumber cs = .ok rest := by
  unfold scanNumber at h
  unfold skimNumber
  simp only at h ⊢
  split at h
  · cases h
  · rename_i hdigits
    obtain ⟨⟨fraction, rest₁⟩, hfraction, h⟩ := exists_of_bind_ok h
    obtain ⟨⟨exponent, rest₂⟩, hexponent, h⟩ := exists_of_bind_ok h
    obtain ⟨m, -, h⟩ := exists_of_bind_ok h
    cases h
    rw [if_neg hdigits, hfraction]
    show (scanExponent rest₁ >>= fun x => _) = _
    rw [hexponent]
    rfl

theorem punctuation?_blurred {c : Char} {t : Token} (h : punctuation? c = some t) : t.blurred = t := by
  unfold punctuation? at h
  split at h <;> cases h <;> rfl

theorem scanWord_blurred {t : Token} (h : scanWord cs = some (t, rest)) : t.blurred = t := by
  unfold scanWord at h
  split at h <;> cases h <;> rfl

/-- A token that is scanned in full is skimmed as one of its kind. -/
theorem skimToken_of_scanToken {t : Token} (h : scanToken cs = .ok (t, rest)) :
    skimToken cs = .ok (t.blurred, rest) := by
  cases cs with
  | nil => cases h
  | cons c more =>
    unfold scanToken at h
    unfold skimToken
    cases hpunct : punctuation? c with
    | some found =>
      simp only [hpunct] at h ⊢
      cases h
      rw [punctuation?_blurred hpunct]
    | none =>
      simp only [hpunct] at h ⊢
      by_cases hquote : c = '"'
      · rw [if_pos hquote] at h ⊢
        obtain ⟨⟨found, after⟩, htext, hfound⟩ := exists_of_map_ok h
        cases hfound
        rw [skimText_of_scanText htext]
        rfl
      rw [if_neg hquote] at h ⊢
      by_cases hminus : c = '-'
      · rw [if_pos hminus] at h ⊢
        obtain ⟨⟨n, after⟩, hnumber, hfound⟩ := exists_of_map_ok h
        cases hfound
        rw [skimNumber_of_scanNumber hnumber]
        rfl
      rw [if_neg hminus] at h ⊢
      by_cases hdigit : c.isDigit = true
      · rw [if_pos hdigit] at h ⊢
        obtain ⟨⟨n, after⟩, hnumber, hfound⟩ := exists_of_map_ok h
        cases hfound
        rw [skimNumber_of_scanNumber hnumber]
        rfl
      rw [if_neg hdigit] at h ⊢
      cases hword : scanWord (c :: more) with
      | none =>
        rw [hword] at h
        cases h
      | some found =>
        rw [hword] at h
        cases h
        rw [scanWord_blurred hword]

/-! ## Places -/

/-- Where the readers are: around the outermost value, or inside of a member, which is read in full
or skimmed. -/
inductive Place where
  | outermost | read | skimmed
deriving DecidableEq

/-- The same names, and the same values of those that are known. -/
def MembersAlike (known : String → Bool) (ms ms' : List (String × Json)) : Prop :=
  List.Forall₂ (fun m m' => m.1 = m'.1 ∧ (known m.1 = true → m.2 = m'.2)) ms ms'

/-- The values are the same, or objects with members that are alike. -/
inductive Alike (known : String → Bool) : Json → Json → Prop
  | refl (v : Json) : Alike known v v
  | obj {ms ms' : List (String × Json)} (h : MembersAlike known ms ms') :
      Alike known (.obj ms) (.obj ms')

namespace Place

/-- What a token looks like at a place. -/
def seen : Place → Token → Token
  | skimmed, t => t.blurred
  | _, t => t

/-- What the names have in common that are read at a place. -/
def Names (p : Place) (name name' : String) : Prop := p ≠ skimmed → name = name'

/-- What the items have in common that an array at a place has so far. -/
def Items : Place → List Json → List Json → Prop
  | skimmed, items, items' => items = [] ↔ items' = []
  | _, items, items' => items = items'

variable (known : String → Bool)

/-- What the values have in common that are read at a place. -/
def Values : Place → Json → Json → Prop
  | outermost, v, v' => Alike known v v'
  | read, v, v' => v = v'
  | skimmed, _, _ => True

/-- What the members have in common that an object at a place has so far. -/
def Members : Place → List (String × Json) → List (String × Json) → Prop
  | outermost, ms, ms' => MembersAlike known ms ms'
  | read, ms, ms' => ms = ms'
  | skimmed, ms, ms' => ms = [] ↔ ms' = []

/-- What the containers have in common that are open at a place. -/
inductive Frames (p : Place) : Frame → Frame → Prop
  | array {items items' : List Json} (h : p.Items items items') :
      Frames p (.array items) (.array items')
  | object {ms ms' : List (String × Json)} {name name' : String} (h : p.Members known ms ms')
      (hname : p.Names name name') : Frames p (.object ms name) (.object ms' name')

/-- The place inside of a container. -/
def inside : Place → Frame → Place
  | outermost, .object _ name => if known name then read else skimmed
  | outermost, .array _ => read
  | read, _ => read
  | skimmed, _ => skimmed

/-- What the open containers have in common, with the place inside of them. -/
inductive Stack : Place → List Frame → List Frame → Prop
  | nil : Stack .outermost [] []
  | cons {p : Place} {f f' : Frame} {fs fs' : List Frame} (h : Stack p fs fs')
      (hf : p.Frames known f f') : Stack (p.inside known f) (f :: fs) (f' :: fs')

variable {known} {p : Place}

theorem inside_object (ms : List (String × Json)) (name : String) :
    outermost.inside known (.object ms name) = if known name then read else skimmed := rfl

/-- A token that stands for itself looks the same everywhere. -/
theorem seen_of_blurred {t : Token} (h : t.blurred = t) : p.seen t = t := by
  cases p with
  | skimmed => exact h
  | _ => rfl

theorem seen_of_ne_skimmed (h : p ≠ .skimmed) (t : Token) : p.seen t = t := by
  cases p with
  | skimmed => exact absurd rfl h
  | _ => rfl

theorem exists_seen_text (p : Place) (s : String) :
    ∃ s', p.seen (.text s) = .text s' ∧ p.Names s s' := by
  cases p with
  | skimmed => exact ⟨"", rfl, fun h => absurd rfl h⟩
  | _ => exact ⟨s, rfl, fun _ => rfl⟩

theorem exists_seen_number (known : String → Bool) (p : Place) (n : Number) :
    ∃ n', p.seen (.number n) = .number n' ∧ p.Values known (.num n) (.num n') := by
  cases p with
  | outermost => exact ⟨n, rfl, .refl _⟩
  | read => exact ⟨n, rfl, rfl⟩
  | skimmed => exact ⟨.int 0, rfl, trivial⟩

theorem values_refl (p : Place) (v : Json) : p.Values known v v := by
  cases p with
  | outermost => exact .refl v
  | read => exact rfl
  | skimmed => trivial

theorem values_str {s s' : String} (h : p.Names s s') : p.Values known (.str s) (.str s') := by
  cases p with
  | skimmed => trivial
  | _ =>
    rw [h (by decide)]
    exact values_refl _ _

theorem items_nil (p : Place) : p.Items [] [] := by
  cases p with
  | skimmed => exact Iff.rfl
  | _ => exact rfl

theorem members_nil (p : Place) : p.Members known [] [] := by
  cases p with
  | outermost => exact .nil
  | read => exact rfl
  | skimmed => exact Iff.rfl

theorem eq_nil_of_items {items' : List Json} (h : p.Items [] items') : items' = [] := by
  cases p with
  | skimmed => exact h.1 rfl
  | _ => exact h.symm

theorem eq_nil_of_members {ms' : List (String × Json)} (h : p.Members known [] ms') : ms' = [] := by
  cases p with
  | outermost => exact List.forall₂_nil_left_iff.1 h
  | read => exact h.symm
  | skimmed => exact h.1 rfl

theorem items_cons {items items' : List Json} {v v' : Json} (h : p.Items items items')
    (hv : (p.inside known (.array items)).Values known v v') : p.Items (v :: items) (v' :: items') := by
  cases p with
  | skimmed => exact iff_of_false (List.cons_ne_nil _ _) (List.cons_ne_nil _ _)
  | _ => exact congrArg₂ List.cons hv h

theorem members_cons {ms ms' : List (String × Json)} {name name' : String} {v v' : Json}
    (h : p.Members known ms ms') (hname : p.Names name name')
    (hv : (p.inside known (.object ms name)).Values known v v') :
    p.Members known ((name, v) :: ms) ((name', v') :: ms') := by
  cases p with
  | outermost =>
    obtain rfl := hname (by decide)
    refine .cons ⟨rfl, fun hknown => ?_⟩ h
    rwa [inside_object, if_pos hknown] at hv
  | read =>
    obtain rfl := hname (by decide)
    exact congrArg₂ (fun w ws => (name, w) :: ws) hv h
  | skimmed => exact iff_of_false (List.cons_ne_nil _ _) (List.cons_ne_nil _ _)

theorem values_arr {items items' : List Json} (h : p.Items items items') :
    p.Values known (.arr items.reverse) (.arr items'.reverse) := by
  cases p with
  | skimmed => trivial
  | _ =>
    obtain rfl := h
    exact values_refl _ _

theorem values_obj {ms ms' : List (String × Json)} (h : p.Members known ms ms') :
    p.Values known (.obj ms.reverse) (.obj ms'.reverse) := by
  cases p with
  | outermost => exact .obj (List.forall₂_reverse_iff.2 h)
  | read =>
    obtain rfl := h
    exact values_refl _ _
  | skimmed => trivial

/-- Inside of a member nothing changes any more. -/
theorem inside_inside (p : Place) (f g : Frame) :
    (p.inside known g).inside known f = p.inside known g := by
  cases p with
  | outermost =>
    cases g with
    | array _ => rfl
    | object ms name =>
      rw [inside_object]
      split <;> rfl
  | _ => rfl

theorem Stack.length_eq {fs fs' : List Frame} (h : Stack known p fs fs') : fs'.length = fs.length := by
  induction h with
  | nil => rfl
  | cons _ _ ih => rw [List.length_cons, List.length_cons, ih]

/-- The outermost container tells whether what is inside is skimmed. -/
theorem Stack.skims_iff {fs fs' : List Frame} (h : Stack known p fs fs') {x : Progress}
    (hx : x.frames = fs') : x.skims known = true ↔ p = .skimmed := by
  unfold Progress.skims
  rw [hx]
  clear hx
  induction h with
  | nil => exact iff_of_false Bool.false_ne_true (by decide)
  | @cons p f f' fs fs' hstack hf ih =>
    -- an outermost array or object decides, and any other container changes nothing
    cases hstack with
    | nil =>
      cases hf with
      | array _ => exact iff_of_false Bool.false_ne_true Place.noConfusion
      | @object ms ms' name name' _ hname =>
        obtain rfl := hname (by decide)
        rw [inside_object]
        cases hknown : known name <;> simp [hknown]
    | cons _ _ =>
      rw [inside_inside, List.getLast?_cons_cons]
      exact ih

end Place

/-! ## Both readers -/

/-- The second reader keeps pace with the first, which reads everything in full. -/
inductive KeepsPace (known : String → Bool) : Place → Progress → Progress → Prop
  | needValue {p : Place} {fs fs' : List Frame} (h : p.Stack known fs fs') (mayClose : Bool) :
      KeepsPace known p (.needValue fs mayClose) (.needValue fs' mayClose)
  | needName {p : Place} {fs fs' : List Frame} {ms ms' : List (String × Json)}
      (h : p.Stack known fs fs') (hms : p.Members known ms ms') (mayClose : Bool) :
      KeepsPace known p (.needName fs ms mayClose) (.needName fs' ms' mayClose)
  | needColon {p : Place} {fs fs' : List Frame} {ms ms' : List (String × Json)}
      {name name' : String} (h : p.Stack known fs fs') (hms : p.Members known ms ms')
      (hname : p.Names name name') :
      KeepsPace known p (.needColon fs ms name) (.needColon fs' ms' name')
  | afterItem {p : Place} {fs fs' : List Frame} {f f' : Frame} (h : p.Stack known fs fs')
      (hf : p.Frames known f f') : KeepsPace known p (.afterItem fs f) (.afterItem fs' f')
  | done {v v' : Json} (h : Alike known v v') : KeepsPace known .outermost (.done v) (.done v')

variable {known : String → Bool} {p : Place} {x x' y : Progress} {limit limit' : Nat}

theorem KeepsPace.stack (h : KeepsPace known p x x') : p.Stack known x.frames x'.frames := by
  cases h with
  | done _ => exact .nil
  | needValue h _ => exact h
  | needName h _ _ => exact h
  | needColon h _ _ => exact h
  | afterItem h _ => exact h

theorem exists_keepsPace_give {fs fs' : List Frame} {v v' : Json} (h : p.Stack known fs fs')
    (hv : p.Values known v v') : ∃ q, KeepsPace known q (.give v fs) (.give v' fs') := by
  cases h with
  | nil => exact ⟨_, .done hv⟩
  | cons h hf =>
    cases hf with
    | array hitems => exact ⟨_, .afterItem h (.array (Place.items_cons hitems hv))⟩
    | object hms hname => exact ⟨_, .afterItem h (.object (Place.members_cons hms hname hv) hname)⟩

/-- A container that can be opened in full can be opened when it is skimmed. -/
theorem exists_keepsPace_openContainer {fs fs' : List Frame} {z z' : Progress} {q : Place}
    (hlimit : fs.length + 1 < limit → fs'.length + 1 < limit') (hz : KeepsPace known q z z')
    (hopen : openContainer limit fs z = .ok y) :
    ∃ y' q, openContainer limit' fs' z' = .ok y' ∧ KeepsPace known q y y' := by
  unfold openContainer at hopen ⊢
  split at hopen
  · rename_i hlt
    cases hopen
    exact ⟨z', q, if_pos (hlimit hlt), hz⟩
  · cases hopen

theorem exists_keepsPace_readValue {fs fs' : List Frame} {mayClose : Bool} {t : Token}
    (h : p.Stack known fs fs') (hlimit : fs.length + 1 < limit → fs'.length + 1 < limit')
    (hread : readValue limit fs mayClose t = .ok y) :
    ∃ y' q, readValue limit' fs' mayClose (p.seen t) = .ok y' ∧ KeepsPace known q y y' := by
  have hgive {v v' : Json} (hv : p.Values known v v') :
      ∃ y' q, Except.ok (ε := ReadError) (Progress.give v' fs') = .ok y' ∧
        KeepsPace known q (.give v fs) y' := by
    obtain ⟨q, hq⟩ := exists_keepsPace_give h hv
    exact ⟨_, q, rfl, hq⟩
  cases t with
  | word v =>
    cases hread
    rw [Place.seen_of_blurred rfl]
    exact hgive (Place.values_refl p v)
  | text s =>
    cases hread
    obtain ⟨s', hs', hname⟩ := p.exists_seen_text s
    rw [hs']
    exact hgive (Place.values_str hname)
  | number n =>
    cases hread
    obtain ⟨n', hn', hv⟩ := Place.exists_seen_number known p n
    rw [hn']
    exact hgive hv
  | openArray =>
    rw [Place.seen_of_blurred rfl]
    exact exists_keepsPace_openContainer hlimit
      (.needValue (.cons h (.array p.items_nil)) true) hread
  | openObject =>
    rw [Place.seen_of_blurred rfl]
    exact exists_keepsPace_openContainer hlimit (.needName h p.members_nil true) hread
  | closeArray =>
    rw [Place.seen_of_blurred rfl]
    cases h with
    | nil => cases hread
    | @cons p _ _ outer outer' h hf =>
      cases hf with
      | object _ _ => cases hread
      | @array items items' hitems =>
        cases items with
        | cons _ _ => cases hread
        | nil =>
          obtain rfl := Place.eq_nil_of_items hitems
          cases mayClose with
          | false => cases hread
          | true =>
            cases hread
            obtain ⟨q, hq⟩ := exists_keepsPace_give h (p.values_refl (.arr []))
            exact ⟨_, q, rfl, hq⟩
  | _ => cases hread

/-- **One token.** -/
theorem KeepsPace.step {t : Token} (h : KeepsPace known p x x')
    (hlimit : x.frames.length + 1 < limit → x'.frames.length + 1 < limit')
    (hstep : x.step limit t = .ok y) :
    ∃ y' q, x'.step limit' (p.seen t) = .ok y' ∧ KeepsPace known q y y' := by
  cases h with
  | needValue h mayClose => exact exists_keepsPace_readValue h hlimit hstep
  | @needName _ fs fs' ms ms' h hms mayClose =>
    cases t with
    | text s =>
      cases hstep
      obtain ⟨s', hs', hname⟩ := p.exists_seen_text s
      rw [hs']
      exact ⟨_, p, rfl, .needColon h hms hname⟩
    | closeObject =>
      rw [Place.seen_of_blurred rfl]
      cases mayClose with
      | false => cases ms <;> cases hstep
      | true =>
        cases ms with
        | cons _ _ => cases hstep
        | nil =>
          cases hstep
          obtain rfl := Place.eq_nil_of_members hms
          obtain ⟨q, hq⟩ := exists_keepsPace_give h (p.values_refl (.obj []))
          exact ⟨_, q, rfl, hq⟩
    | _ => cases ms <;> cases mayClose <;> cases hstep
  | needColon h hms hname =>
    cases t with
    | colon =>
      cases hstep
      rw [Place.seen_of_blurred rfl]
      exact ⟨_, _, rfl, .needValue (.cons h (.object hms hname)) false⟩
    | _ => cases hstep
  | afterItem h hf =>
    cases hf with
    | array hitems =>
      cases t with
      | comma =>
        cases hstep
        rw [Place.seen_of_blurred rfl]
        exact ⟨_, _, rfl, .needValue (.cons h (.array hitems)) false⟩
      | closeArray =>
        cases hstep
        rw [Place.seen_of_blurred rfl]
        obtain ⟨q, hq⟩ := exists_keepsPace_give h (Place.values_arr hitems)
        exact ⟨_, q, rfl, hq⟩
      | _ => cases hstep
    | object hms hname =>
      cases t with
      | comma =>
        cases hstep
        rw [Place.seen_of_blurred rfl]
        exact ⟨_, _, rfl, .needName h hms false⟩
      | closeObject =>
        cases hstep
        rw [Place.seen_of_blurred rfl]
        obtain ⟨q, hq⟩ := exists_keepsPace_give h (Place.values_obj hms)
        exact ⟨_, q, rfl, hq⟩
      | _ => cases hstep
  | done _ => cases hstep

theorem KeepsPace.advance {t : Token} (h : KeepsPace known p x x')
    (hscan : scanToken cs = .ok (t, rest)) (hstep : x.step nestingLimit t = .ok y) :
    ∃ y' q, x'.advance known cs = .ok (y', rest) ∧ KeepsPace known q y y' := by
  have hlength := h.stack.length_eq
  have hskims := h.stack.skims_iff rfl
  unfold Progress.advance
  by_cases hp : p = .skimmed
  · have hopens : x.frames.length + 1 < nestingLimit →
        x'.frames.length + 1 < x'.frames.length + 2 := fun _ => Nat.lt_succ_self _
    obtain ⟨y', q, hy', hq⟩ := h.step hopens hstep
    rw [hp] at hy'
    refine ⟨y', q, ?_, hq⟩
    rw [if_pos (hskims.2 hp), skimToken_of_scanToken hscan]
    show (x'.step _ t.blurred >>= fun z => .ok (z, rest)) = _
    rw [show x'.step _ t.blurred = .ok y' from hy']
    rfl
  · have hopens : x.frames.length + 1 < nestingLimit → x'.frames.length + 1 < nestingLimit := by
      rw [hlength]
      exact id
    obtain ⟨y', q, hy', hq⟩ := h.step hopens hstep
    rw [Place.seen_of_ne_skimmed hp] at hy'
    refine ⟨y', q, ?_, hq⟩
    rw [if_neg (mt hskims.1 hp), hscan]
    show (x'.step _ t >>= fun z => .ok (z, rest)) = _
    rw [hy']
    rfl

/-- **All tokens.** -/
theorem KeepsPace.advanceAll {fuel : Nat} {ts : List Token} (h : KeepsPace known p x x')
    (hscan : scanTokens fuel cs = .ok ts)
    (hrun : ts.foldlM (Progress.step nestingLimit) x = .ok y) :
    ∃ y' q, x'.advanceAll known fuel cs = .ok y' ∧ KeepsPace known q y y' := by
  -- one token for each unit of the fuel; the place may be another one after it
  induction fuel generalizing p x x' cs ts with
  | zero =>
    unfold scanTokens at hscan
    unfold Progress.advanceAll
    split at hscan
    · cases hscan
      cases hrun
      exact ⟨x', p, by simp_all, h⟩
    · cases hscan
  | succ fuel ih =>
    unfold scanTokens at hscan
    unfold Progress.advanceAll
    cases hcs : cs.dropWhile isSpace with
    | nil =>
      rw [hcs] at hscan
      cases hscan
      cases hrun
      exact ⟨x', p, rfl, h⟩
    | cons c more =>
      rw [hcs] at hscan
      obtain ⟨⟨t, after⟩, htoken, hscan⟩ := exists_of_bind_ok hscan
      obtain ⟨ts', hmore, hts⟩ := exists_of_bind_ok hscan
      cases hts
      rw [List.foldlM_cons] at hrun
      obtain ⟨z, hstep, hrun⟩ := exists_of_bind_ok hrun
      obtain ⟨z', q, hadvance, hz⟩ := h.advance htoken hstep
      obtain ⟨y', q', hall, hy⟩ := ih hz hmore hrun
      refine ⟨y', q', ?_, hy⟩
      simp only [hadvance]
      exact hall

/-- **A text that reads as a value reads member by member as one that is alike.** -/
theorem exists_readMembers_of_readAsWritten (known : String → Bool) {s : String} {v : Json}
    (h : readAsWritten s = .ok v) : ∃ v', readMembers known s = .ok v' ∧ Alike known v v' := by
  obtain ⟨ts, hscan, h⟩ := exists_of_bind_ok h
  obtain ⟨y, hrun, h⟩ := exists_of_bind_ok h
  have hstart : KeepsPace known .outermost (.needValue [] false) (.needValue [] false) :=
    .needValue .nil false
  obtain ⟨y', q, hall, hy⟩ := hstart.advanceAll hscan hrun
  cases hy with
  | done halike =>
    cases h
    refine ⟨_, ?_, halike⟩
    unfold readMembers
    simp only [hall]
    rfl
  | _ => cases h

end Json

/-! ## Records -/

namespace Fields

open Json (MembersAlike)

variable {known : String → Bool} {ms ms' : List (String × Json)} {α β : Type}

theorem locate_alike (h : MembersAlike known ms ms') {name : String} (hname : known name = true)
    (i : Nat) : locate name i ms = locate name i ms' := by
  induction h generalizing i with
  | nil => rfl
  | @cons m m' _ _ hm _ ih =>
    obtain ⟨n, v⟩ := m
    obtain ⟨n', v'⟩ := m'
    obtain ⟨rfl, hvalue⟩ := hm
    unfold locate
    split
    · rename_i heq
      rw [show v = v' from hvalue (heq ▸ hname)]
    · exact ih (i + 1)

theorem repeatedAt_alike (h : MembersAlike known ms ms') {name : String}
    (hname : known name = true) : repeatedAt name ms = repeatedAt name ms' := by
  unfold repeatedAt
  rw [locate_alike h hname]
  split
  · rfl
  · rename_i i _ _
    rw [locate_alike (List.forall₂_drop (i + 1) h) hname]

/-- The fields have known names. -/
def AsksOnly (known : String → Bool) (f : Fields α) : Prop :=
  ∀ ms ms', MembersAlike known ms ms' → f.fromMembers ms = f.fromMembers ms'

theorem asksOnly_field {name : String} (hname : known name = true) (d : Decoder α)
    (inObject inArray : Option α) : (field name d inObject inArray).AsksOnly known := by
  intro ms ms' h
  unfold field
  simp only [repeatedAt_alike h hname, locate_alike h hname, h.length_eq]

theorem asksOnly_required {name : String} (hname : known name = true) (d : Decoder α) :
    (required name d).AsksOnly known :=
  asksOnly_field hname d none none

theorem asksOnly_withDefault {name : String} (hname : known name = true) (d : Decoder α)
    (default : α) : (withDefault name d default).AsksOnly known :=
  asksOnly_field hname d _ _

theorem AsksOnly.seq {f : Fields (α → β)} {g : Fields α} (hf : f.AsksOnly known)
    (hg : g.AsksOnly known) : (f <*> g).AsksOnly known := by
  intro ms ms' h
  show (andThen f g).fromMembers ms = (andThen f g).fromMembers ms'
  unfold andThen
  simp only [hf ms ms' h, hg ms ms' h]

theorem AsksOnly.map {g : Fields α} (hg : g.AsksOnly known) (h : α → β) :
    (h <$> g).AsksOnly known :=
  have hvalue : (value h).AsksOnly known := fun _ _ _ => rfl
  hvalue.seq hg

end Fields

/-- A record with fields of known names is the same, read from values that are alike. -/
theorem Decoder.record_eq_of_alike {α : Type} {known : String → Bool} {f : Fields α}
    (hf : f.AsksOnly known) (name : String) {v v' : Json} (h : v.Alike known v') :
    record name f v = record name f v' := by
  cases h with
  | refl => rfl
  | obj h =>
    unfold record
    simp only [hf _ _ h]

end CasefileHub
