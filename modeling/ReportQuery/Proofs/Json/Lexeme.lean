/-
# Strings and numbers are read back

What the writers of JSON put down for a string or an integer is a string or a number
of the grammar, so the readers take it up to its end, and it is read as what it was
written for.

* The quoted text of a string stands for the string, whatever characters it has: those
  that are escaped with a letter, those that are escaped by their number, and those that
  stand for themselves (`denotes_quote`).
* The decimal text of an integer, with a sign or without one, is the text of its digits,
  and their value is the integer (`isDecimal_toString`).
-/

import ReportQuery.Proofs.Json.NumberText
import ReportQuery.Proofs.Json.StringText

namespace ReportQuery
namespace Json

/-! ## Strings -/

theorem toList_quote (s : String) :
    (quote s).toList = '"' :: (s.toList.flatMap escape ++ ['"']) := by
  simp [quote]

theorem hexNumber?_control {n : Nat} (hn : n < 0x20) :
    hexNumber? '0' '0' (Text.hexDigit (n / 16)) (Text.hexDigit (n % 16)) = some n := by
  have hzero : Text.hexValue? '0' = some 0 := by decide
  rw [hexNumber?, hzero, Text.hexValue?_hexDigit (by omega), Text.hexValue?_hexDigit (by omega)]
  exact congrArg some (by omega)

/-- A character is what its text inside a string stands for. -/
theorem StringDenotes.escape_append (c : Char) {cs s : List Char} (h : StringDenotes cs s) :
    StringDenotes (Json.escape c ++ cs) (c :: s) := by
  unfold Json.escape
  split
  case h_8 hq hb _ _ _ _ _ =>
    split
    · next hc =>
      have hu := StringDenotes.unicode (hexNumber?_control hc) (.inl (by omega)) h
      rwa [Char.ofNat_toNat] at hu
    · next hc => exact .plain hq hb (by simpa [isControl] using hc) h
  all_goals exact .escape (by decide) h

/-- **A string is what its quoted text stands for.** -/
theorem denotes_quote (s : String) : Denotes (quote s) s.toList := by
  refine ⟨s.toList.flatMap escape, ?_, toList_quote s⟩
  induction s.toList with
  | nil => exact .nil
  | cons c cs ih => exact ih.escape_append c

theorem exists_cons_digits (n : Nat) :
    ∃ c ds, Nat.toDigits 10 n = c :: ds ∧ ∀ d ∈ c :: ds, d.isDigit := by
  obtain ⟨c, ds, hn⟩ := List.exists_cons_of_ne_nil (Nat.toDigits_ne_nil (b := 10) (n := n))
  exact ⟨c, ds, hn, fun d hd => Nat.isDigit_of_mem_toDigits (by decide) (by decide) (hn ▸ hd)⟩

/-- Digits of a number begin with a zero only if the number is zero. -/
theorem eq_zero_of_toDigits {n : Nat} {ds : List Char} (h : Nat.toDigits 10 n = '0' :: ds) :
    n = 0 := by
  induction n using Nat.strongRecOn generalizing ds with
  | ind n ih =>
    rw [Nat.toDigits_eq_if (by decide)] at h
    split at h
    · exact Nat.digitChar_eq_zero.1 (List.cons.inj h).1
    · next hn =>
      obtain ⟨c, tail, ht, -⟩ := exists_cons_digits (n / 10)
      rw [ht, List.cons_append] at h
      have := ih (n / 10) (by omega) (ht.trans (by rw [(List.cons.inj h).1]))
      omega

/-- The text of an integer: its digits, behind a sign if it is negative. -/
theorem toList_toString_int (n : Int) :
    (toString n).toList =
      if 0 ≤ n then Nat.toDigits 10 n.natAbs else '-' :: Nat.toDigits 10 n.natAbs := by
  rw [Int.toString_eq_repr, Int.repr_eq_if]
  split
  · next h => rw [Nat.toList_repr, show n.toNat = n.natAbs by omega]
  · next h =>
    rw [String.toList_append, Nat.toList_repr, show (-n).toNat = n.natAbs by omega]
    rfl

theorem wholeText_toDigits (n : Nat) : WholeText (Nat.toDigits 10 n) := by
  obtain ⟨c, ds, hn, hd⟩ := exists_cons_digits n
  refine ⟨⟨by simp [hn], hn ▸ hd⟩, fun h => ?_⟩
  obtain rfl : c = '0' := by simpa [hn] using h
  obtain rfl := eq_zero_of_toDigits hn
  rfl

/-- The text of an integer is that of its digits, behind its sign. -/
theorem numberText_decimal (n : Int) :
    NumberText (toString n).toList ⟨decide (n < 0), Nat.toDigits 10 n.natAbs, [], none⟩ := by
  have hdigits : UnsignedText (Nat.toDigits 10 n.natAbs)
      ⟨decide (n < 0), Nat.toDigits 10 n.natAbs, [], none⟩ :=
    ⟨[], [], by simp, wholeText_toDigits _, .none, .none⟩
  rw [toList_toString_int]
  split
  · exact .positive (decide_eq_false (by omega)) hdigits
  · exact .negative (decide_eq_true (by omega)) hdigits

/-- **The text of an integer is its decimal text.** -/
theorem isDecimal_toString (n : Int) : IsDecimal (toString n).toList n := by
  refine isDecimal_iff.2 ⟨_, numberText_decimal n, rfl, rfl, ?_⟩
  rw [Decimal.ofDigits_toDigits]
  by_cases h : n < 0
  · exact .inr ⟨decide_eq_true h, by omega, h⟩
  · exact .inl ⟨decide_eq_false h, by omega⟩

end Json
end ReportQuery
