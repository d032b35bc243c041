import CasefileHub.Json.Printer
import CasefileHub.Json.Token
import CasefileHub.Proofs.Json.Size
/-!
# Tokens of printed values

The printer writes the tokens of a value one after the other, and the scanner finds them again. A
token ends by itself, but for a number, which must not be followed by what could continue it:

    scanText (escaped cs ++ quote ++ rest) = ok (cs, rest)                   (scanText_quoted)
    scanNumber (digits of n ++ rest) = ok (n, rest)                          (scanNumber_toDigits)
    Scans rest ts → Scans (v.print ++ rest) (v.tokens ++ ts)                 (scans_print)
-/

namespace CasefileHub.Json

/-! ## The tokens of a value -/

mutual

/-- The tokens that a value is printed with. -/
def tokens : Json → List Token
  | .null => [.word .null]
  | .bool b => [.word (.bool b)]
  | .num n => [.number n]
  | .str s => [.text s]
  | .arr items => .openArray :: (tokensItems items ++ [.closeArray])
  | .obj members => .openObject :: (tokensMembers members ++ [.closeObject])
termination_by structural v => v

def tokensItems : List Json → List Token
  | [] => []
  | v :: rest => if rest.isEmpty then tokens v else tokens v ++ .comma :: tokensItems rest
termination_by structural l => l

def tokensMembers : List (String × Json) → List Token
  | [] => []
  | m :: rest =>
    if rest.isEmpty then tokensMember m else tokensMember m ++ .comma :: tokensMembers rest
termination_by structural l => l

def tokensMember : String × Json → List Token
  | (name, v) => .text name :: .colon :: tokens v
termination_by structural m => m

end

/-- The scanner finds these tokens, given at least as many steps as there are characters. -/
def Scans (cs : List Char) (ts : List Token) : Prop :=
  ∀ fuel, cs.length ≤ fuel → scanTokens fuel cs = .ok ts

theorem scan_eq_of_scans {cs : List Char} {ts : List Token} (h : Scans cs ts) :
    Token.scan cs = .ok ts :=
  h cs.length (Nat.le_refl _)

theorem scans_nil : Scans [] [] := by
  intro fuel _
  cases fuel <;> rfl

/-- A token is found in front of those of the rest. -/
theorem scans_cons {c : Char} {cs rest : List Char} {t : Token} {ts : List Token}
    (hspace : isSpace c = false) (htoken : scanToken (c :: cs) = .ok (t, rest))
    (hle : rest.length ≤ cs.length) (h : Scans rest ts) : Scans (c :: cs) (t :: ts) := by
  rintro (_ | fuel) hfuel
  · cases hfuel
  · have hrest : scanTokens fuel rest = .ok ts :=
      h fuel (Nat.le_trans hle (Nat.le_of_succ_le_succ hfuel))
    rw [scanTokens, List.dropWhile_cons_of_neg (by simp [hspace])]
    show (scanToken (c :: cs) >>= fun found => _) = _
    rw [htoken]
    show (scanTokens fuel rest >>= fun more => _) = _
    rw [hrest]
    rfl

/-! ## Punctuation and words -/

theorem scans_punctuation {c : Char} {t : Token} {rest : List Char} {ts : List Token}
    (hc : punctuation? c = some t) (hspace : isSpace c = false) (h : Scans rest ts) :
    Scans (c :: rest) (t :: ts) := by
  refine scans_cons hspace ?_ (Nat.le_refl _) h
  rw [scanToken, hc]

theorem scans_null {rest : List Char} {ts : List Token} (h : Scans rest ts) :
    Scans ("null".toList ++ rest) (.word .null :: ts) :=
  scans_cons rfl rfl (by simp; omega) h

theorem scans_bool (b : Bool) {rest : List Char} {ts : List Token} (h : Scans rest ts) :
    Scans ((Json.bool b).print.toList ++ rest) (.word (.bool b) :: ts) := by
  cases b <;> exact scans_cons rfl rfl (by simp; omega) h

/-! ## Texts -/

theorem hex4?_control : ∀ n, n < 32 →
    hex4? '0' '0' (Nat.digitChar (n / 16)) (Nat.digitChar (n % 16)) = some n := by
  decide

theorem scanText_cons {c : Char} (hquote : c ≠ '"') (hbackslash : c ≠ '\\')
    (hcontrol : ¬ c.toNat < 0x20) (rest : List Char) :
    scanText (c :: rest) = (scanText rest).map fun (cs, after) => (c :: cs, after) := by
  rw [scanText, if_neg hbackslash, if_neg hcontrol]
  case x_1 => exact hquote
  case x_2 => exact fun _ _ _ _ _ heq => absurd heq hbackslash
  case x_3 => exact fun _ _ heq => absurd heq hbackslash

/-- Each character is found as it was before it was escaped. -/
theorem scanText_escapeChar (c : Char) (rest : List Char) :
    scanText (escapeChar c ++ rest) =
      (scanText rest).map fun (cs, after) => (c :: cs, after) := by
  unfold escapeChar
  iterate 5
    split
    · subst c
      rfl
  split
  · rename_i h8
    rw [← Char.ofNat_toNat c, h8]
    rfl
  split
  · rename_i h12
    rw [← Char.ofNat_toNat c, h12]
    rfl
  split
  · rename_i hcontrol
    simp only [List.cons_append, List.nil_append]
    rw [scanText, hex4?_control c.toNat hcontrol]
    simp only
    rw [if_neg (by omega), if_neg (by omega), Char.ofNat_toNat]
  · rename_i hquote hbackslash _ _ _ _ _ hcontrol
    exact scanText_cons hquote hbackslash hcontrol rest

theorem scanText_quoted (cs rest : List Char) :
    scanText (cs.flatMap escapeChar ++ '"' :: rest) = .ok (cs, rest) := by
  induction cs with
  | nil => rw [List.flatMap_nil, List.nil_append, scanText]
  | cons c cs ih =>
    rw [List.flatMap_cons, List.append_assoc, scanText_escapeChar, ih]
    rfl

theorem scans_quoted (s : String) {rest : List Char} {ts : List Token} (h : Scans rest ts) :
    Scans ((quoted s).toList ++ rest) (.text s :: ts) := by
  have hlist : (quoted s).toList ++ rest =
      '"' :: (s.toList.flatMap escapeChar ++ '"' :: rest) := by
    simp [quoted]
  rw [hlist]
  refine scans_cons rfl ?_ (by simp; omega) h
  show (scanText _).map _ = _
  rw [scanText_quoted]
  show Except.ok (Token.text (String.ofList s.toList), rest) = _
  rw [String.ofList_toList]

/-! ## Numbers -/

/-- Nothing that could continue a number comes first. -/
def EndsNumber (rest : List Char) : Prop :=
  ∀ c ∈ rest.head?, c.isDigit = false ∧ c ≠ '.' ∧ c ≠ 'e' ∧ c ≠ 'E'

theorem endsNumber_nil : EndsNumber [] := fun c h => by cases h

theorem scanFraction_of_endsNumber {rest : List Char} (h : EndsNumber rest) :
    scanFraction rest = .ok (none, rest) := by
  cases rest with
  | nil => rfl
  | cons c cs =>
    have hpoint := (h c rfl).2.1
    unfold scanFraction
    split
    · rename_i heq
      exact absurd (List.cons.inj heq).1 hpoint
    · rfl

theorem scanExponent_of_endsNumber {rest : List Char} (h : EndsNumber rest) :
    scanExponent rest = .ok (none, rest) := by
  cases rest with
  | nil => rfl
  | cons c cs =>
    have hletter := (h c rfl).2.2
    rw [scanExponent, if_neg (not_or.2 hletter)]

theorem splitDigits_toDigits (n : Nat) {rest : List Char} (h : EndsNumber rest) :
    splitDigits (Nat.toDigits 10 n ++ rest) = ((Nat.toDigits 10 n).map digitValue, rest) := by
  have hdigits : ∀ c ∈ Nat.toDigits 10 n, c.isDigit = true :=
    fun c => Nat.isDigit_of_mem_toDigits (by decide) (by decide)
  have htake : rest.takeWhile Char.isDigit = [] := by
    cases rest with
    | nil => rfl
    | cons c cs => exact List.takeWhile_cons_of_neg (by simp [(h c rfl).1])
  have hdrop : rest.dropWhile Char.isDigit = rest := by
    cases rest with
    | nil => rfl
    | cons c cs => exact List.dropWhile_cons_of_neg (by simp [(h c rfl).1])
  rw [splitDigits, List.takeWhile_append_of_pos hdigits, List.dropWhile_append_of_pos hdigits,
    htake, hdrop, List.append_nil]

theorem digitValue_digitChar {d : Nat} (h : d < 10) : digitValue (Nat.digitChar d) = d :=
  Nat.toNat_digitChar_sub_48_of_lt_ten h

/-- A positive number is not written with a zero in front. -/
theorem exists_head?_toDigits (n : Nat) (h : 0 < n) :
    ∃ d, 0 < d ∧ ((Nat.toDigits 10 n).map digitValue).head? = some d := by
  induction n using Nat.strongRecOn with
  | ind n ih =>
    by_cases hlt : n < 10
    · refine ⟨n, h, ?_⟩
      rw [Nat.toDigits_of_lt_base hlt, List.map_singleton, digitValue_digitChar hlt,
        List.head?_singleton]
    · obtain ⟨d, hd, hhead⟩ := ih (n / 10) (by omega) (by omega)
      refine ⟨d, hd, ?_⟩
      rw [Nat.toDigits_of_base_le (by decide) (by omega), List.map_append, List.head?_append, hhead,
        Option.some_or]

theorem le_foldl_digits (ds : List Nat) (s : Nat) : s ≤ ds.foldl (fun s d => s * 10 + d) s := by
  induction ds generalizing s with
  | nil => exact Nat.le_refl s
  | cons d ds ih =>
    have hstep : s ≤ s * 10 + d := by omega
    exact Nat.le_trans hstep (ih _)

/-- All digits of a significand that fits are gathered. -/
theorem gather_eq {ds : List Nat} {s : Nat}
    (h : ds.foldl (fun s d => s * 10 + d) s ≤ significandLimit) :
    gather s ds = (ds.foldl (fun s d => s * 10 + d) s, ds.length) := by
  induction ds generalizing s with
  | nil => rfl
  | cons d ds ih =>
    rw [List.foldl_cons] at h
    rw [gather, if_pos (Nat.le_trans (le_foldl_digits ds _) h), ih h]
    rfl

theorem foldl_toDigits (n : Nat) :
    ((Nat.toDigits 10 n).map digitValue).foldl (fun s d => s * 10 + d) 0 = n := by
  rw [List.foldl_map]
  simp only [Nat.mul_comm _ 10]
  exact Nat.ofDigitChars_eq_foldl.symm.trans Nat.ofDigitChars_ten_toDigits

/-- The digits of an integer of 64 bits are read back as that integer. -/
theorem scanNumber_toDigits (negative : Bool) {n : Nat} (hfits : n ≤ significandLimit)
    (hnegative : negative = true → n ≠ 0 ∧ n ≤ Nat.pow 2 63) {rest : List Char}
    (h : EndsNumber rest) :
    scanNumber negative (Nat.toDigits 10 n ++ rest) =
      .ok (.int (if negative then -(n : Int) else n), rest) := by
  have hgather : gather 0 ((Nat.toDigits 10 n).map digitValue) =
      (n, ((Nat.toDigits 10 n).map digitValue).length) := by
    rw [gather_eq, foldl_toDigits]
    rwa [foldl_toDigits]
  have hzero : (((Nat.toDigits 10 n).map digitValue).isEmpty ||
      (decide (((Nat.toDigits 10 n).map digitValue).length > 1) &&
        ((Nat.toDigits 10 n).map digitValue).head? == some 0)) = false := by
    rcases Nat.eq_zero_or_pos n with rfl | hpos
    · rfl
    · obtain ⟨d, hd, hhead⟩ := exists_head?_toDigits n hpos
      rw [hhead]
      simp [Nat.toDigits_ne_nil, Nat.pos_iff_ne_zero.1 hd]
  have hsign : (!negative || (n != 0 && decide (n ≤ Nat.pow 2 63))) = true := by
    cases negative with
    | false => rfl
    | true => simpa using hnegative rfl
  have hnumber : numberOf negative ((Nat.toDigits 10 n).map digitValue) none none =
      .ok (.int (if negative then -(n : Int) else n)) := by
    unfold numberOf
    simp only [hgather, beq_self_eq_true, Bool.true_and, hsign]
    rfl
  simp only [scanNumber, splitDigits_toDigits n h, hzero, scanFraction_of_endsNumber h,
    scanExponent_of_endsNumber h, hnumber, bind, Except.bind]
  rfl

theorem punctuation?_of_isDigit {c : Char} (h : c.isDigit = true) : punctuation? c = none := by
  unfold punctuation?
  split <;> first | rfl | cases h

theorem isSpace_of_isDigit {c : Char} (h : c.isDigit = true) : isSpace c = false := by
  unfold isSpace
  simp only [Bool.or_eq_false_iff, beq_eq_false_iff_ne]
  refine ⟨⟨⟨?_, ?_⟩, ?_⟩, ?_⟩ <;> (rintro rfl; cases h)

/-- A token that starts with a digit is a number. -/
theorem scanToken_of_isDigit {c : Char} (h : c.isDigit = true) (cs : List Char) :
    scanToken (c :: cs) =
      (scanNumber false (c :: cs)).map fun (n, after) => (.number n, after) := by
  have hquote : c ≠ '"' := by
    rintro rfl
    cases h
  have hminus : c ≠ '-' := by
    rintro rfl
    cases h
  simp only [scanToken, punctuation?_of_isDigit h]
  rw [if_neg hquote, if_neg hminus, if_pos h]

theorem scans_number {n : Number} (hn : n.isWord = true) {rest : List Char} {ts : List Token}
    (hend : EndsNumber rest) (h : Scans rest ts) :
    Scans (n.text.toList ++ rest) (.number n :: ts) := by
  cases n with
  | real x => cases hn
  | int n =>
    obtain ⟨hlow, hhigh⟩ := (isWord_iff n).1 hn
    have hlimit : significandLimit = 2 ^ 64 - 1 := rfl
    by_cases hneg : n < 0
    · have hlist : (Number.int n).text.toList ++ rest =
          '-' :: (Nat.toDigits 10 n.natAbs ++ rest) := by
        rw [Number.text, if_pos hneg, String.toList_append, Nat.toList_repr]
        rfl
      have hscan := scanNumber_toDigits true (n := n.natAbs) (by omega)
        (fun _ => ⟨by omega, by show n.natAbs ≤ 2 ^ 63; omega⟩) hend
      rw [hlist]
      refine scans_cons rfl ?_ (by simp) h
      show (scanNumber true _).map _ = _
      rw [hscan, if_pos rfl, show -(n.natAbs : Int) = n by omega]
      rfl
    · have hlist : (Number.int n).text.toList ++ rest = Nat.toDigits 10 n.natAbs ++ rest := by
        rw [Number.text, if_neg hneg, Nat.toList_repr]
      have hscan := scanNumber_toDigits false (n := n.natAbs) (by omega)
        (fun hfalse => by cases hfalse) hend
      rw [hlist]
      obtain ⟨c, cs, hdigits⟩ :=
        List.exists_cons_of_ne_nil (Nat.toDigits_ne_nil (b := 10) (n := n.natAbs))
      have hdigit : c.isDigit = true :=
        Nat.isDigit_of_mem_toDigits (by decide) (by decide) (hdigits ▸ List.mem_cons_self)
      rw [hdigits, List.cons_append] at hscan ⊢
      refine scans_cons (isSpace_of_isDigit hdigit) ?_ (by simp) h
      rw [scanToken_of_isDigit hdigit, hscan, if_neg (by simp),
        show (n.natAbs : Int) = n by omega]
      rfl

/-! ## Values -/

theorem endsNumber_cons {c : Char} (hc : c = ',' ∨ c = ']' ∨ c = '\x7d') (rest : List Char) :
    EndsNumber (c :: rest) := by
  intro c' hc'
  cases hc'
  rcases hc with rfl | rfl | rfl <;> decide

mutual

/-- A printed value is found as its tokens. -/
theorem scans_print : ∀ v : Json, v.allNumbers Number.isWord = true →
    ∀ (rest : List Char) (ts : List Token), EndsNumber rest → Scans rest ts →
      Scans (v.print.toList ++ rest) (v.tokens ++ ts)
  | .null, _, _, _, _, h => scans_null h
  | .bool b, _, _, _, _, h => scans_bool b h
  | .num _, hv, _, _, hend, h => scans_number hv hend h
  | .str s, _, _, _, _, h => scans_quoted s h
  | .arr items, hv, rest, ts, _, h => by
    have hclose : Scans (']' :: rest) (.closeArray :: ts) := scans_punctuation rfl rfl h
    have hitems := scans_printItems items hv _ _ (endsNumber_cons (by simp) rest) hclose
    have hopen := scans_punctuation (c := '[') rfl rfl hitems
    simpa [print, tokens] using hopen
  | .obj members, hv, rest, ts, _, h => by
    have hclose : Scans ('\x7d' :: rest) (.closeObject :: ts) := scans_punctuation rfl rfl h
    have hmembers := scans_printMembers members hv _ _ (endsNumber_cons (by simp) rest) hclose
    have hopen := scans_punctuation (c := '\x7b') rfl rfl hmembers
    simpa [print, tokens] using hopen

theorem scans_printItems : ∀ items : List Json, allNumbersItems Number.isWord items = true →
    ∀ (rest : List Char) (ts : List Token), EndsNumber rest → Scans rest ts →
      Scans ((printItems items).toList ++ rest) (tokensItems items ++ ts)
  | [], _, _, _, _, h => h
  | v :: items, hv, rest, ts, hend, h => by
    obtain ⟨hfirst, hitems⟩ := Bool.and_eq_true_iff.1 hv
    unfold printItems tokensItems
    split
    · exact scans_print v hfirst rest ts hend h
    · have hmore := scans_printItems items hitems rest ts hend h
      have hcomma := scans_punctuation (c := ',') rfl rfl hmore
      simpa using scans_print v hfirst _ _ (endsNumber_cons (by simp) _) hcomma

theorem scans_printMembers : ∀ members : List (String × Json),
    allNumbersMembers Number.isWord members = true →
    ∀ (rest : List Char) (ts : List Token), EndsNumber rest → Scans rest ts →
      Scans ((printMembers members).toList ++ rest) (tokensMembers members ++ ts)
  | [], _, _, _, _, h => h
  | m :: members, hv, rest, ts, hend, h => by
    obtain ⟨hfirst, hmembers⟩ := Bool.and_eq_true_iff.1 hv
    unfold printMembers tokensMembers
    split
    · exact scans_printMember m hfirst rest ts hend h
    · have hmore := scans_printMembers members hmembers rest ts hend h
      have hcomma := scans_punctuation (c := ',') rfl rfl hmore
      simpa using scans_printMember m hfirst _ _ (endsNumber_cons (by simp) _) hcomma

theorem scans_printMember : ∀ m : String × Json, allNumbersMember Number.isWord m = true →
    ∀ (rest : List Char) (ts : List Token), EndsNumber rest → Scans rest ts →
      Scans ((printMember m).toList ++ rest) (tokensMember m ++ ts)
  | (name, v), hv, rest, ts, hend, h => by
    have hcolon := scans_punctuation (c := ':') rfl rfl (scans_print v hv rest ts hend h)
    simpa [printMember, tokensMember] using scans_quoted name hcolon

end

/-- **The tokens of a printed value are its own.** -/
theorem scan_print {v : Json} (h : v.allNumbers Number.isWord = true) :
    Token.scan v.print.toList = .ok v.tokens := by
  have hscans := scans_print v h [] [] endsNumber_nil scans_nil
  rw [List.append_nil, List.append_nil] at hscans
  exact scan_eq_of_scans hscans

end CasefileHub.Json
