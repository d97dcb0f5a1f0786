/-
# Texts with spaces between their lexemes

A JSON text is a list of lexemes with any spaces before, between and behind them
(`Spells`); written compactly, it has none (`compact`).  A list or an object is
written from the lexemes of its values, with a comma before each but the first.

The readers of punctuation take one lexeme off such a text, or look at it, and what
they leave is again a text of the lexemes behind it.  This is all that a reader of
documents needs: none of its steps hangs on where the spaces are.
-/

import ReportQuery.Filter.Json
import ReportQuery.Proofs.Json.Lexeme

namespace ReportQuery
namespace Json

/-- A text that holds some lexemes one after the other, with any spaces around them. -/
inductive Spells : List String → List Char → Prop
  | done : Spells [] []
  | space {c : Char} {text : List Char} {lexemes : List String} (hc : isSpace c = true)
    (h : Spells lexemes text) : Spells lexemes (c :: text)
  | lexeme (l : String) {text : List Char} {lexemes : List String} (h : Spells lexemes text) :
    Spells (l :: lexemes) (l.toList ++ text)

/-- The text of some lexemes without any space. -/
def compact (lexemes : List String) : List Char := lexemes.flatMap String.toList

/-- What stands before a value of a list or an object. -/
def lead (first : Bool) : List String := if first then [] else [","]

/-- The lexemes of some values, with commas between them; one stands before the first value too,
unless no value comes before it. -/
def separated (first : Bool) : List (List String) → List String
  | [] => []
  | value :: values => lead first ++ value ++ separated false values

/-- The lexemes of a list, from those of its values. -/
def listLexemes (values : List (List String)) : List String :=
  "[" :: (separated true values ++ ["]"])

/-- The lexemes of a member of an object. -/
def memberLexemes (key : String) (value : List String) : List String := quote key :: ":" :: value

/-- The lexemes of an object, from those of its members. -/
def objectLexemes (members : List (List String)) : List String :=
  "\x7b" :: (separated true members ++ ["\x7d"])

/-! ## The compact text -/

@[simp] theorem compact_nil : compact [] = [] := rfl

@[simp] theorem compact_cons (lexeme : String) (lexemes : List String) :
    compact (lexeme :: lexemes) = lexeme.toList ++ compact lexemes := rfl

@[simp] theorem compact_append (lexemes₁ lexemes₂ : List String) :
    compact (lexemes₁ ++ lexemes₂) = compact lexemes₁ ++ compact lexemes₂ :=
  List.flatMap_append

theorem Spells.compact_append (lexemes₁ : List String) {lexemes₂ : List String} {text : List Char}
    (h : Spells lexemes₂ text) : Spells (lexemes₁ ++ lexemes₂) (compact lexemes₁ ++ text) := by
  induction lexemes₁ with
  | nil => exact h
  | cons l lexemes ih => simpa using ih.lexeme l

theorem spells_compact (lexemes : List String) : Spells lexemes (compact lexemes) := by
  simpa using Spells.done.compact_append lexemes

theorem compact_separated_false (values : List (List String)) :
    compact (separated false values) = (values.map compact).flatMap (',' :: ·) := by
  induction values with
  | nil => rfl
  | cons value values ih => simp [separated, lead, ih]

theorem intercalate_cons (separator : List Char) (value : List Char) (values : List (List Char)) :
    separator.intercalate (value :: values) = value ++ values.flatMap (separator ++ ·) := by
  induction values generalizing value with
  | nil => simp
  | cons next values ih => simp [ih]

theorem compact_separated (values : List (List String)) :
    compact (separated true values) = [','].intercalate (values.map compact) := by
  cases values with
  | nil => rfl
  | cons value values =>
    rw [List.map_cons, intercalate_cons, separated, compact_append, compact_separated_false]
    rfl

section

variable {α : Type} {text : α → String} {value : α → List String}
  (h : ∀ x, (text x).toList = compact (value x))

include h

/-- A list is written compactly if its values are. -/
theorem toList_list (xs : List α) :
    (list (xs.map text)).toList = compact (listLexemes (xs.map value)) := by
  simp [list, listLexemes, compact_separated, String.toList_intercalate, Function.comp_def, h]

/-- An object is written compactly if the values of its members are. -/
theorem toList_object (key : α → String) (xs : List α) :
    (object (xs.map fun x => (key x, text x))).toList =
      compact (objectLexemes (xs.map fun x => memberLexemes (key x) (value x))) := by
  simp [object, objectLexemes, memberLexemes, compact_separated, String.toList_intercalate,
    Function.comp_def, h]

end

/-! ## Reading past the spaces -/

variable {l : String} {lexemes : List String} {cs : List Char} {c : Char}

theorem skipSpace_cons_of_isSpace (hc : isSpace c = true) (cs : List Char) :
    skipSpace (c :: cs) = skipSpace cs :=
  List.dropWhile_cons_of_pos hc

theorem Spells.skipSpace_nil (h : Spells [] cs) : skipSpace cs = [] := by
  generalize hl : ([] : List String) = lexemes at h
  induction h with
  | done => rfl
  | space hc _ ih => rw [skipSpace_cons_of_isSpace hc, ih hl]
  | lexeme => cases hl

/-- Behind the spaces, a text goes on with its first lexeme. -/
theorem Spells.skipSpace_cons (h : Spells (l :: lexemes) cs) {tail : List Char}
    (hl : l.toList = c :: tail) (hc : isSpace c = false) :
    ∃ text, skipSpace cs = c :: (tail ++ text) ∧ Spells lexemes text := by
  generalize hls : l :: lexemes = all at h
  induction h with
  | done => cases hls
  | space hs _ ih =>
    rw [skipSpace_cons_of_isSpace hs]
    exact ih hls
  | @lexeme _ text _ h =>
    cases hls
    refine ⟨text, ?_, h⟩
    rw [hl, List.cons_append]
    exact List.dropWhile_cons_of_neg (by simp [hc])

theorem Spells.skipSpace_punctuation (h : Spells (l :: lexemes) cs) (hl : l.toList = [c])
    (hc : isSpace c = false) : ∃ text, skipSpace cs = c :: text ∧ Spells lexemes text :=
  h.skipSpace_cons hl hc

theorem isSpace_iff : isSpace c = true ↔ c = ' ' ∨ c = '\n' ∨ c = '\t' ∨ c = '\r' := by
  simp [isSpace, or_assoc]

/-- A number is not begun by a space. -/
theorem isSpace_of_startsNumber (h : startsNumber c = true) : isSpace c = false := by
  by_contra hs
  rcases isSpace_iff.1 (Bool.not_eq_false _ ▸ hs) with rfl | rfl | rfl | rfl <;>
    exact absurd h (by decide)

theorem endsNumber_of_isSpace (hc : isSpace c = true) (cs : List Char) : EndsNumber (c :: cs) := by
  refine endsNumber_cons ?_ cs
  rcases isSpace_iff.1 hc with rfl | rfl | rfl | rfl <;> decide

/-- A text does not go on with a number if its first lexeme does not. -/
theorem Spells.endsNumber (h : Spells (l :: lexemes) cs) {tail : List Char}
    (hl : l.toList = c :: tail) (hc : c.isDigit = false ∧ c ≠ '.' ∧ c ≠ 'e' ∧ c ≠ 'E') :
    EndsNumber cs := by
  cases h with
  | space hs => exact endsNumber_of_isSpace hs _
  | lexeme =>
    rw [hl]
    exact endsNumber_cons hc _

/-! ## Punctuation -/

theorem Spells.takeColon (h : Spells (":" :: lexemes) cs) :
    ∃ text, takeColon cs = .ok text ∧ Spells lexemes text := by
  obtain ⟨text, hs, ht⟩ := h.skipSpace_punctuation (c := ':') rfl rfl
  exact ⟨text, by rw [Json.takeColon, hs]; rfl, ht⟩

theorem Spells.nextElement_done (h : Spells ("]" :: lexemes) cs) (first : Bool) :
    ∃ text, nextElement first cs = .ok (.done text) ∧ Spells lexemes text := by
  obtain ⟨text, hs, ht⟩ := h.skipSpace_punctuation (c := ']') rfl rfl
  exact ⟨text, by rw [nextElement, hs]; rfl, ht⟩

theorem Spells.nextMember_done (h : Spells ("\x7d" :: lexemes) cs) (first : Bool) :
    ∃ text, nextMember first cs = .ok (.done text) ∧ Spells lexemes text := by
  obtain ⟨text, hs, ht⟩ := h.skipSpace_punctuation (c := '\x7d') rfl rfl
  exact ⟨text, by rw [nextMember, hs]; rfl, ht⟩

/-- An element is left from its first character on. -/
theorem Spells.nextElement_more {first : Bool} (h : Spells (lead first ++ l :: lexemes) cs)
    {tail : List Char} (hl : l.toList = c :: tail) (hc : isSpace c = false) (he : c ≠ ']') :
    ∃ text, nextElement first cs = .ok (.more text) ∧ Spells (l :: lexemes) text := by
  have hagain : ∀ text, Spells lexemes text → Spells (l :: lexemes) (c :: (tail ++ text)) :=
    fun text ht => by simpa [hl] using ht.lexeme l
  cases first with
  | true =>
    obtain ⟨text, hs, ht⟩ := h.skipSpace_cons hl hc
    exact ⟨_, by rw [nextElement, hs]; simp [he], hagain text ht⟩
  | false =>
    obtain ⟨text, hs, ht⟩ := h.skipSpace_punctuation (c := ',') rfl rfl
    obtain ⟨text', hs', ht'⟩ := ht.skipSpace_cons hl hc
    exact ⟨_, by rw [nextElement, hs]; simp [hs', he], hagain text' ht'⟩

/-- A member is left from behind the quote of its key. -/
theorem Spells.nextMember_key {first : Bool} {key : String}
    (h : Spells (lead first ++ key :: lexemes) cs) {tail : List Char}
    (hk : key.toList = '"' :: tail) :
    ∃ rest, nextMember first cs = .ok (.more (tail ++ rest)) ∧ Spells lexemes rest := by
  cases first with
  | true =>
    obtain ⟨rest, hs, hr⟩ := h.skipSpace_cons hk rfl
    exact ⟨rest, by rw [nextMember, hs]; rfl, hr⟩
  | false =>
    obtain ⟨text, hs, ht⟩ := h.skipSpace_punctuation (c := ',') rfl rfl
    obtain ⟨rest, hs', hr⟩ := ht.skipSpace_cons hk rfl
    exact ⟨rest, by rw [nextMember, hs]; simp [hs'], hr⟩

theorem Spells.nextMember_more {first : Bool} {key : String} {s : List Char}
    (h : Spells (lead first ++ key :: lexemes) cs) (hk : Denotes key s) :
    ∃ text rest, nextMember first cs = .ok (.more text) ∧
      Json.takeString text = .ok (s, rest) ∧ Spells lexemes rest := by
  obtain ⟨_, hl⟩ := hk.exists_cons
  obtain ⟨rest, hn, hr⟩ := h.nextMember_key hl
  exact ⟨_, rest, hn, hk.takeString hl rest, hr⟩

end Json
end ReportQuery
