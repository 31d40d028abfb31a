import Mathlib
import Ingestion.Text

/-!
# Digits read back

A fixed number of digits, decimal or hexadecimal, is read back as the number that they are the last
digits of. The pieces of a text between its separators are read back, too.
-/

namespace Ingestion.Text

/-! ## Decimal digits -/

theorem ofDigits_eq (cs : List Char) : ofDigits cs = Nat.ofDigitChars 10 cs 0 := by
  have hfrom (n : Nat) :
      cs.foldl (fun n c => 10 * n + digitValue c) n = Nat.ofDigitChars 10 cs n := by
    induction cs generalizing n with
    | nil => rfl
    | cons c rest ih => rw [List.foldl_cons, ih, Nat.ofDigitChars_cons, digitValue]
  exact hfrom 0

/-- The character of a decimal digit. -/
theorem digit_spec : ∀ d < 10, (Char.ofNat ('0'.toNat + d)).isDigit = true ∧
    digitValue (Char.ofNat ('0'.toNat + d)) = d := by
  decide

theorem length_paddedDigits (width n : Nat) : (paddedDigits width n).length = width := by
  induction width with
  | zero => rfl
  | succ width ih => rw [paddedDigits, List.length_cons, ih]

theorem isDigit_of_mem_paddedDigits {width n : Nat} {c : Char} (h : c ∈ paddedDigits width n) :
    c.isDigit = true := by
  induction width with
  | zero => cases h
  | succ width ih =>
    rcases List.mem_cons.1 h with rfl | h
    · exact (digit_spec _ (Nat.mod_lt _ (by decide))).1
    · exact ih h

/-- Digits read back are the last ones of the number. -/
theorem ofDigits_paddedDigits (width n : Nat) :
    ofDigits (paddedDigits width n) = n % 10 ^ width := by
  have hfrom (m : Nat) : (paddedDigits width n).foldl (fun n c => 10 * n + digitValue c) m =
      m * 10 ^ width + n % 10 ^ width := by
    induction width generalizing m with
    | zero => simp [paddedDigits, Nat.mod_one]
    | succ width ih =>
      have hdigit := (digit_spec (n / 10 ^ width % 10) (Nat.mod_lt _ (by decide))).2
      rw [paddedDigits, List.foldl_cons, ih, Nat.pow_eq, hdigit, Nat.mod_pow_succ, Nat.pow_succ]
      ring
  rw [ofDigits, hfrom, Nat.zero_mul, Nat.zero_add]

/-- The digits of a number, with any zeros before them, are read back as the number. -/
theorem ofDigits_zeros_append (zeros n : Nat) :
    ofDigits (List.replicate zeros '0' ++ Nat.toDigits 10 n) = n := by
  rw [ofDigits_eq]
  induction zeros with
  | zero => exact Nat.ofDigitChars_toDigits (by decide) (by decide)
  | succ zeros ih =>
    rw [List.replicate_succ, List.cons_append, Nat.ofDigitChars_cons]
    exact ih

theorem toList_toString (n : Nat) : (toString n).toList = Nat.toDigits 10 n := by
  rw [Nat.toString_eq_repr, Nat.toList_repr]

theorem toDigits_inj {n n' : Nat} (h : Nat.toDigits 10 n = Nat.toDigits 10 n') : n = n' := by
  have hread := congrArg ofDigits h
  exact (ofDigits_zeros_append 0 n).symm.trans (hread.trans (ofDigits_zeros_append 0 n'))

/-! ## Hexadecimal digits -/

/-- The character of a hexadecimal digit. -/
theorem hexDigit_spec : ∀ d < 16, hexValue? (hexDigit d) = some d ∧ hexDigit d ≠ '-' ∧
    hexDigit d ≠ '\x7b' ∧ (hexDigit d).toLower ≠ 'u' := by
  decide

theorem length_hexDigits (width n : Nat) : (hexDigits width n).length = width := by
  induction width with
  | zero => rfl
  | succ width ih => rw [hexDigits, List.length_cons, ih]

theorem exists_of_mem_hexDigits {width n : Nat} {c : Char} (h : c ∈ hexDigits width n) :
    ∃ d < 16, c = hexDigit d := by
  induction width with
  | zero => cases h
  | succ width ih =>
    rcases List.mem_cons.1 h with rfl | h
    · exact ⟨_, Nat.mod_lt _ (by decide), rfl⟩
    · exact ih h

/-- Hexadecimal digits read back are the last ones of the number. -/
theorem ofHex?_hexDigits (width n : Nat) : ofHex? (hexDigits width n) = some (n % 16 ^ width) := by
  have hfrom (m : Nat) :
      (hexDigits width n).foldlM (fun n c => (hexValue? c).map (16 * n + ·)) m =
        some (m * 16 ^ width + n % 16 ^ width) := by
    induction width generalizing m with
    | zero => simp [hexDigits, Nat.mod_one]
    | succ width ih =>
      have hdigit := (hexDigit_spec (n / 16 ^ width % 16) (Nat.mod_lt _ (by decide))).1
      rw [hexDigits, List.foldlM_cons, Nat.pow_eq, hdigit, Option.map_some]
      refine (ih _).trans (congrArg some ?_)
      rw [Nat.mod_pow_succ, Nat.pow_succ]
      ring
  rw [ofHex?, hfrom, Nat.zero_mul, Nat.zero_add]

/-! ## Pieces -/

variable {sep : Char} {piece : List Char}

theorem splitAt_of_not_mem (h : sep ∉ piece) : splitAt sep piece = [piece] := by
  induction piece with
  | nil => rfl
  | cons c rest ih =>
    obtain ⟨hne, hrest⟩ := not_or.1 (mt List.mem_cons.2 h)
    rw [splitAt, if_neg (Ne.symm hne), ih hrest]

theorem splitAt_append (h : sep ∉ piece) (rest : List Char) :
    splitAt sep (piece ++ sep :: rest) = piece :: splitAt sep rest := by
  induction piece with
  | nil => rw [List.nil_append, splitAt, if_pos rfl]
  | cons c piece ih =>
    obtain ⟨hne, hpiece⟩ := not_or.1 (mt List.mem_cons.2 h)
    rw [List.cons_append, splitAt, if_neg (Ne.symm hne), ih hpiece]

/-- What stands before the first separator and what stands after it are determined by the text. -/
theorem append_cons_inj {piece' rest rest' : List Char} (h : sep ∉ piece) (h' : sep ∉ piece')
    (heq : piece ++ sep :: rest = piece' ++ sep :: rest') : piece = piece' ∧ rest = rest' := by
  have hpieces := congrArg (splitAt sep) heq
  rw [splitAt_append h, splitAt_append h'] at hpieces
  obtain ⟨rfl, -⟩ := List.cons.inj hpieces
  exact ⟨rfl, (List.cons.inj (List.append_cancel_left heq)).2⟩

end Ingestion.Text
