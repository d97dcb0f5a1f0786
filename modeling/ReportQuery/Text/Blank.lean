/-
# Blank characters

The characters with the Unicode property `White_Space`, twenty-five in all.
They may stand before the numbers of a date, and they are cut off the end of a
printed query.
-/

namespace ReportQuery
namespace Text

/-- The ranges of characters with the property `White_Space`, in order. -/
def blankRanges : List (Nat × Nat) :=
  [(0x09, 0x0D), (0x20, 0x20), (0x85, 0x85), (0xA0, 0xA0), (0x1680, 0x1680), (0x2000, 0x200A),
    (0x2028, 0x2029), (0x202F, 0x202F), (0x205F, 0x205F), (0x3000, 0x3000)]

/-- Whether a character is blank. -/
def isBlank (c : Char) : Bool :=
  blankRanges.any fun (first, last) => first ≤ c.toNat && c.toNat ≤ last

example : (blankRanges.map fun (first, last) => last + 1 - first).sum = 25 := rfl

theorem isBlank_of_isWhitespace {c : Char} (h : c.isWhitespace = true) : isBlank c = true := by
  simp only [Char.isWhitespace, Bool.or_eq_true, decide_eq_true_eq] at h
  rcases h with ((rfl | rfl) | rfl) | rfl <;> decide

/-- No digit is blank. -/
theorem isBlank_of_isDigit {c : Char} (h : c.isDigit = true) : isBlank c = false := by
  rw [Bool.eq_false_iff]
  intro hb
  simp only [Char.isDigit, Bool.and_eq_true, decide_eq_true_eq, ge_iff_le,
    UInt32.le_iff_toNat_le, Char.toNat_val] at h
  simp only [isBlank, blankRanges, List.any_cons, List.any_nil, Bool.or_eq_true,
    Bool.and_eq_true, decide_eq_true_eq, Bool.false_eq_true, or_false] at hb
  have h₀ : '0'.toNat = 48 := rfl
  have h₉ : '9'.toNat = 57 := rfl
  omega

/-- A list of characters from its first one that is not blank. -/
def skipBlanks (cs : List Char) : List Char := cs.dropWhile isBlank

/-- A text without the blanks at its end. -/
def trimEnd (text : String) : String :=
  String.ofList (text.toList.reverse.dropWhile isBlank).reverse

/-- What is cut off are blanks, and no blank is left at the end. -/
theorem exists_toList_eq_trimEnd (text : String) :
    ∃ blanks, text.toList = (trimEnd text).toList ++ blanks ∧ (∀ c ∈ blanks, isBlank c) ∧
      ∀ c ∈ (trimEnd text).toList.getLast?, isBlank c = false := by
  refine ⟨(text.toList.reverse.takeWhile isBlank).reverse, ?_, fun c hc => ?_, fun c hc => ?_⟩
  · rw [trimEnd, String.toList_ofList, ← List.reverse_append, List.takeWhile_append_dropWhile,
      List.reverse_reverse]
  · exact List.all_eq_true.1 List.all_takeWhile c (List.mem_reverse.1 hc)
  · rw [trimEnd, String.toList_ofList, List.getLast?_reverse] at hc
    have h := List.head?_dropWhile_not isBlank text.toList.reverse
    rwa [hc] at h

end Text
end ReportQuery
