import CasefileHub.Identifier
/-!
# Different numbers, different identifiers

The digits of a number give it back, however many zeros stand in front. So an identifier tells the
number that it was made from, and a number that has not been used makes a new identifier:

    value (hex width n) = n                      (value_hex)
    casefile n = casefile m ↔ n = m              (casefile_inj)
    session n = session m ↔ n = m                (session_inj)
    request n = request m ↔ n = m                (request_inj)
-/

namespace CasefileHub.Identifier

/-! ## Reading digits -/

/-- The number of a hexadecimal digit. -/
def digitValue (c : Char) : Nat :=
  if c.toNat < 'a'.toNat then c.toNat - '0'.toNat else c.toNat - 'a'.toNat + 10

/-- The number that hexadecimal digits stand for, read after those of another number. -/
def value (before : Nat) (digits : List Char) : Nat :=
  digits.foldl (fun n c => 16 * n + digitValue c) before

theorem digitValue_digitChar {k : Nat} (h : k < 16) : digitValue k.digitChar = k :=
  (by decide : ∀ k < 16, digitValue (Nat.digitChar k) = k) k h

theorem value_append (before : Nat) (a b : List Char) :
    value before (a ++ b) = value (value before a) b := List.foldl_append

theorem value_zeros (k : Nat) : value 0 (List.replicate k '0') = 0 := by
  induction k with
  | zero => rfl
  | succ k ih => exact ih

theorem value_toDigits (n : Nat) : value 0 (Nat.toDigits 16 n) = n := by
  induction n using Nat.base_induction 16 (by decide) with
  | single k hk =>
    rw [Nat.toDigits_of_lt_base hk]
    simp [value, digitValue_digitChar hk]
  | digit n k hk hn ih =>
    rw [← Nat.toDigits_append_toDigits (by decide) hn hk, value_append, ih,
      Nat.toDigits_of_lt_base hk]
    simp [value, digitValue_digitChar hk]

theorem value_hex (width n : Nat) : value 0 (hex width n) = n := by
  unfold hex
  rw [value_append, value_zeros, value_toDigits]

theorem hex_inj {width n m : Nat} : hex width n = hex width m ↔ n = m := by
  refine ⟨fun h => ?_, congrArg _⟩
  rw [← value_hex width n, h, value_hex]

/-! ## Identifiers -/

@[simp] theorem casefile_inj {n m : Nat} : casefile n = casefile m ↔ n = m := by
  unfold casefile
  rw [String.ofList_inj, List.append_right_inj, hex_inj]

@[simp] theorem session_inj {n m : Nat} : session n = session m ↔ n = m := by
  unfold session
  rw [String.ofList_inj, List.append_right_inj, hex_inj]

theorem le_length_hex (width n : Nat) : width ≤ (hex width n).length := by
  unfold hex
  rw [List.length_append, List.length_replicate]
  omega

/-- Five pieces of thirty digits or more give the digits back. -/
theorem eq_of_pieces {l l' : List Char} (hfirst : l.take 8 = l'.take 8)
    (hsecond : (l.drop 8).take 4 = (l'.drop 8).take 4)
    (hthird : (l.drop 12).take 3 = (l'.drop 12).take 3)
    (hfourth : (l.drop 15).take 3 = (l'.drop 15).take 3) (hlast : l.drop 18 = l'.drop 18) :
    l = l' := by
  have hjoin (l : List Char) (i k : Nat) : (l.drop i).take k ++ l.drop (i + k) = l.drop i := by
    rw [← List.drop_drop, List.take_append_drop]
  have h15 : l.drop 15 = l'.drop 15 := by rw [← hjoin l 15 3, ← hjoin l' 15 3, hfourth, hlast]
  have h12 : l.drop 12 = l'.drop 12 := by rw [← hjoin l 12 3, ← hjoin l' 12 3, hthird, h15]
  have h8 : l.drop 8 = l'.drop 8 := by rw [← hjoin l 8 4, ← hjoin l' 8 4, hsecond, h12]
  rw [← List.take_append_drop 8 l, hfirst, h8, List.take_append_drop]

@[simp] theorem request_inj {n m : Nat} : request n = request m ↔ n = m := by
  refine ⟨fun h => ?_, congrArg _⟩
  suffices hdigits : hex 30 n = hex 30 m from hex_inj.1 hdigits
  have hn := le_length_hex 30 n
  have hm := le_length_hex 30 m
  unfold request at h
  simp only [String.ofList_inj, List.append_assoc, List.cons_append] at h
  -- the pieces have the same lengths, so they are equal one by one
  obtain ⟨hfirst, h⟩ := List.append_inj h (by simp only [List.length_take]; omega)
  obtain ⟨hsecond, h⟩ := List.append_inj (List.cons.inj h).2 (by
    simp only [List.length_take, List.length_drop]; omega)
  obtain ⟨hthird, h⟩ := List.append_inj (List.cons.inj (List.cons.inj h).2).2 (by
    simp only [List.length_take, List.length_drop]; omega)
  obtain ⟨hfourth, h⟩ := List.append_inj (List.cons.inj (List.cons.inj h).2).2 (by
    simp only [List.length_take, List.length_drop]; omega)
  exact eq_of_pieces hfirst hsecond hthird hfourth (List.cons.inj h).2

end CasefileHub.Identifier
