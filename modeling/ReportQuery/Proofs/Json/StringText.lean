/-
# The strings of JSON

Which characters may stand between the quotes of a string (`StringText`), and what
they stand for (`StringDenotes`).  Not every string stands for something: an escape
may be half of a character beyond the first plane, and the other half may be missing.

| string | taken | passed over |
| --- | --- | --- |
| stands for something | as that | up to its closing quote |
| a half stands alone | refused | up to its closing quote |

Which of the two a string is does not hang on what comes behind it
(`StringText.decided`), although a half looks for the other one in the characters
that follow it.
-/

import Mathlib.Data.List.Basic
import ReportQuery.Json.Lexeme

namespace ReportQuery
namespace Json

/-! ## The grammar -/

/-- A hexadecimal digit, in lower or upper case. -/
def isHexDigit (c : Char) : Bool :=
  ('0' ≤ c && c ≤ '9') || ('a' ≤ c && c ≤ 'f') || ('A' ≤ c && c ≤ 'F')

/-- The letters of the short escapes, with what they stand for. -/
def escapes : List (Char × Char) :=
  [('"', '"'), ('\\', '\\'), ('/', '/'), ('b', '\x08'), ('f', '\x0c'), ('n', '\n'), ('r', '\r'),
    ('t', '\t')]

/-- What may stand between the quotes of a string. -/
inductive StringText : List Char → Prop
  | nil : StringText []
  | plain {c : Char} {cs : List Char} (hq : c ≠ '"') (hb : c ≠ '\\') (hc : ¬ isControl c)
    (h : StringText cs) : StringText (c :: cs)
  | escape {c : Char} {cs : List Char} (hc : c ∈ escapes.map Prod.fst) (h : StringText cs) :
    StringText ('\\' :: c :: cs)
  | unicode {x₁ x₂ x₃ x₄ : Char} {cs : List Char}
    (hx : ∀ x ∈ [x₁, x₂, x₃, x₄], isHexDigit x = true) (h : StringText cs) :
    StringText ('\\' :: 'u' :: x₁ :: x₂ :: x₃ :: x₄ :: cs)

/-- What the text of a string stands for. -/
inductive StringDenotes : List Char → List Char → Prop
  | nil : StringDenotes [] []
  | plain {c : Char} {cs s : List Char} (hq : c ≠ '"') (hb : c ≠ '\\') (hc : ¬ isControl c)
    (h : StringDenotes cs s) : StringDenotes (c :: cs) (c :: s)
  | escape {c d : Char} {cs s : List Char} (hc : (c, d) ∈ escapes) (h : StringDenotes cs s) :
    StringDenotes ('\\' :: c :: cs) (d :: s)
  | unicode {x₁ x₂ x₃ x₄ : Char} {n : Nat} {cs s : List Char}
    (hx : hexNumber? x₁ x₂ x₃ x₄ = some n) (hn : n < 0xD800 ∨ 0xDFFF < n)
    (h : StringDenotes cs s) :
    StringDenotes ('\\' :: 'u' :: x₁ :: x₂ :: x₃ :: x₄ :: cs) (Char.ofNat n :: s)
  | pair {x₁ x₂ x₃ x₄ y₁ y₂ y₃ y₄ : Char} {high low : Nat} {cs s : List Char}
    (hx : hexNumber? x₁ x₂ x₃ x₄ = some high) (hhigh : 0xD800 ≤ high ∧ high ≤ 0xDBFF)
    (hy : hexNumber? y₁ y₂ y₃ y₄ = some low) (hlow : 0xDC00 ≤ low ∧ low ≤ 0xDFFF)
    (h : StringDenotes cs s) :
    StringDenotes
      ('\\' :: 'u' :: x₁ :: x₂ :: x₃ :: x₄ :: '\\' :: 'u' :: y₁ :: y₂ :: y₃ :: y₄ :: cs)
      (Char.ofNat ((high - 0xD800) * 0x400 + (low - 0xDC00) + 0x10000) :: s)

/-- A string with its quotes. -/
def IsString (lexeme : String) : Prop :=
  ∃ text, StringText text ∧ lexeme.toList = '"' :: (text ++ ['"'])

/-- What a string with its quotes stands for. -/
def Denotes (lexeme : String) (s : List Char) : Prop :=
  ∃ text, StringDenotes text s ∧ lexeme.toList = '"' :: (text ++ ['"'])

theorem isSome_hexValue? {c : Char} : (Text.hexValue? c).isSome = isHexDigit c := by
  rw [Text.hexValue?, isHexDigit, ← Bool.decide_and, ← Bool.decide_and, ← Bool.decide_and]
  split
  · next h => rw [decide_eq_true h, Bool.true_or, Bool.true_or, Option.isSome_some]
  next h₁ =>
  split
  · next h => rw [decide_eq_true h, Bool.or_true, Bool.true_or, Option.isSome_some]
  next h₂ =>
  split
  · next h => rw [decide_eq_true h, Bool.or_true, Option.isSome_some]
  · next h₃ => rw [decide_eq_false h₁, decide_eq_false h₂, decide_eq_false h₃]; rfl

theorem isSome_hexNumber? {x₁ x₂ x₃ x₄ : Char} :
    (hexNumber? x₁ x₂ x₃ x₄).isSome ↔ ∀ x ∈ [x₁, x₂, x₃, x₄], isHexDigit x = true := by
  simp only [List.forall_mem_cons, ← isSome_hexValue?, hexNumber?]
  cases Text.hexValue? x₁ <;> cases Text.hexValue? x₂ <;> cases Text.hexValue? x₃ <;>
    cases Text.hexValue? x₄ <;> simp

theorem exists_hexNumber? {x₁ x₂ x₃ x₄ : Char}
    (hx : ∀ x ∈ [x₁, x₂, x₃, x₄], isHexDigit x = true) :
    ∃ n, hexNumber? x₁ x₂ x₃ x₄ = some n :=
  Option.isSome_iff_exists.1 (isSome_hexNumber?.2 hx)

/-- What stands for something is a string of the grammar. -/
theorem StringDenotes.stringText {text s : List Char} (h : StringDenotes text s) :
    StringText text := by
  have hdigits {x₁ x₂ x₃ x₄ : Char} {n : Nat} (hx : hexNumber? x₁ x₂ x₃ x₄ = some n) :
      ∀ x ∈ [x₁, x₂, x₃, x₄], isHexDigit x = true :=
    isSome_hexNumber?.1 (Option.isSome_iff_exists.2 ⟨n, hx⟩)
  induction h with
  | nil => exact .nil
  | plain hq hb hc _ ih => exact .plain hq hb hc ih
  | escape hc _ ih => exact .escape (List.mem_map.2 ⟨_, hc, rfl⟩) ih
  | unicode hx _ _ ih => exact .unicode (hdigits hx) ih
  | pair hx _ hy _ _ ih => exact .unicode (hdigits hx) (.unicode (hdigits hy) ih)

theorem Denotes.isString {l : String} {s : List Char} (h : Denotes l s) : IsString l :=
  let ⟨text, ht, hl⟩ := h
  ⟨text, ht.stringText, hl⟩

theorem takeHex_of_hexNumber? {x₁ x₂ x₃ x₄ : Char} {n : Nat}
    (hx : hexNumber? x₁ x₂ x₃ x₄ = some n) (cs : List Char) :
    takeHex (x₁ :: x₂ :: x₃ :: x₄ :: cs) = .ok (n, cs) := by
  have hsize : ¬ byteSize (x₁ :: x₂ :: x₃ :: x₄ :: cs) < 4 := by
    have h₁ := Char.utf8Size_pos x₁
    have h₂ := Char.utf8Size_pos x₂
    have h₃ := Char.utf8Size_pos x₃
    have h₄ := Char.utf8Size_pos x₄
    simp only [byteSize]
    omega
  rw [takeHex, if_neg hsize]
  simp only [hx]

/-! ## Decoding -/

theorem takeString_of_escape {cs rest : List Char} {d : Char}
    (h : takeEscape cs = .ok (d, rest)) :
    takeString ('\\' :: cs) = (takeString rest).map fun (ds, rest) => (d :: ds, rest) := by
  rw [takeString]
  split
  · next hc => exact absurd hc (by decide)
  · split
    · split <;> simp_all
    · next hc => exact absurd rfl hc

theorem takeString_of_plain {c : Char} (hq : c ≠ '"') (hb : c ≠ '\\') (hc : ¬ isControl c)
    (cs : List Char) :
    takeString (c :: cs) = (takeString cs).map fun (ds, rest) => (c :: ds, rest) := by
  rw [takeString, if_neg hq]
  split
  · contradiction
  · rfl

theorem takeEscape_of_simple {c d : Char} (hu : c ≠ 'u') (h : simpleEscape? c = some d)
    (cs : List Char) : takeEscape (c :: cs) = .ok (d, cs) := by
  rw [takeEscape, if_neg hu, h]

theorem simpleEscape?_of_mem {c d : Char} (h : (c, d) ∈ escapes) :
    c ≠ 'u' ∧ simpleEscape? c = some d := by
  have hall : ∀ e ∈ escapes, e.1 ≠ 'u' ∧ simpleEscape? e.1 = some e.2 := by decide
  exact hall _ h

theorem takeEscape_of_mem {c d : Char} (h : (c, d) ∈ escapes) (cs : List Char) :
    takeEscape (c :: cs) = .ok (d, cs) :=
  takeEscape_of_simple (simpleEscape?_of_mem h).1 (simpleEscape?_of_mem h).2 cs

theorem takeEscape_of_char {x₁ x₂ x₃ x₄ : Char} {n : Nat} (hx : hexNumber? x₁ x₂ x₃ x₄ = some n)
    (hn : n < 0xD800 ∨ 0xDFFF < n) (cs : List Char) :
    takeEscape ('u' :: x₁ :: x₂ :: x₃ :: x₄ :: cs) = .ok (Char.ofNat n, cs) := by
  rw [takeEscape, if_pos rfl, takeUnicode, takeHex_of_hexNumber? hx]
  simp only
  rw [if_neg (by omega), if_neg (by omega)]

/-- The first half of a pair is taken if the second one is. -/
theorem takeUnicode_of_high {x₁ x₂ x₃ x₄ : Char} {high : Nat}
    (hx : hexNumber? x₁ x₂ x₃ x₄ = some high) (hhigh : 0xD800 ≤ high ∧ high ≤ 0xDBFF)
    (cs : List Char) :
    takeUnicode (x₁ :: x₂ :: x₃ :: x₄ :: cs) = (takeLowHalf cs).map fun (low, rest) =>
      (Char.ofNat ((high - 0xD800) * 0x400 + (low - 0xDC00) + 0x10000), rest) := by
  rw [takeUnicode, takeHex_of_hexNumber? hx]
  simp only
  rw [if_neg (by omega), if_pos hhigh]
  cases takeLowHalf cs <;> rfl

theorem takeLowHalf_of_low {y₁ y₂ y₃ y₄ : Char} {low : Nat}
    (hy : hexNumber? y₁ y₂ y₃ y₄ = some low) (hlow : 0xDC00 ≤ low ∧ low ≤ 0xDFFF)
    (cs : List Char) :
    takeLowHalf ('\\' :: 'u' :: y₁ :: y₂ :: y₃ :: y₄ :: cs) = .ok (low, cs) := by
  rw [takeLowHalf, takeHex_of_hexNumber? hy]
  exact if_pos hlow

theorem takeEscape_of_pair {x₁ x₂ x₃ x₄ y₁ y₂ y₃ y₄ : Char} {high low : Nat}
    (hx : hexNumber? x₁ x₂ x₃ x₄ = some high) (hhigh : 0xD800 ≤ high ∧ high ≤ 0xDBFF)
    (hy : hexNumber? y₁ y₂ y₃ y₄ = some low) (hlow : 0xDC00 ≤ low ∧ low ≤ 0xDFFF)
    (cs : List Char) :
    takeEscape ('u' :: x₁ :: x₂ :: x₃ :: x₄ :: '\\' :: 'u' :: y₁ :: y₂ :: y₃ :: y₄ :: cs) =
      .ok (Char.ofNat ((high - 0xD800) * 0x400 + (low - 0xDC00) + 0x10000), cs) := by
  rw [takeEscape, if_pos rfl, takeUnicode_of_high hx hhigh, takeLowHalf_of_low hy hlow]
  rfl

/-- **A string is decoded as what it stands for.** -/
theorem StringDenotes.takeString {text s : List Char} (h : StringDenotes text s)
    (rest : List Char) : takeString (text ++ '"' :: rest) = .ok (s, rest) := by
  induction h with
  | nil => rw [List.nil_append, Json.takeString, if_pos rfl]
  | plain hq hb hc _ ih =>
    rw [List.cons_append, takeString_of_plain hq hb hc, ih]
    rfl
  | @escape c d cs s hc _ ih =>
    rw [List.cons_append, List.cons_append, takeString_of_escape (takeEscape_of_mem hc _), ih]
    rfl
  | unicode hx hn _ ih =>
    simp only [List.cons_append]
    rw [takeString_of_escape (takeEscape_of_char hx hn _), ih]
    rfl
  | pair hx hhigh hy hlow _ ih =>
    simp only [List.cons_append]
    rw [takeString_of_escape (takeEscape_of_pair hx hhigh hy hlow _), ih]
    rfl

theorem takeString_of_escape_error {cs : List Char} {f : Fault} (h : takeEscape cs = .error f) :
    takeString ('\\' :: cs) = .error f := by
  rw [takeString]
  split
  · next hc => exact absurd hc (by decide)
  · split
    · split <;> simp_all
    · next hc => exact absurd rfl hc

theorem takeUnicode_of_low {x₁ x₂ x₃ x₄ : Char} {n : Nat} (hx : hexNumber? x₁ x₂ x₃ x₄ = some n)
    (hn : 0xDC00 ≤ n ∧ n ≤ 0xDFFF) (cs : List Char) :
    takeUnicode (x₁ :: x₂ :: x₃ :: x₄ :: cs) = .error (.before .loneSurrogate cs) := by
  rw [takeUnicode, takeHex_of_hexNumber? hx]
  exact if_pos hn

theorem takeLowHalf_of_ne {cs : List Char} (h : ∀ tail, cs ≠ '\\' :: 'u' :: tail) :
    ∃ f, takeLowHalf cs = .error f := by
  unfold takeLowHalf
  split
  · exact ⟨_, rfl⟩
  · exact ⟨_, rfl⟩
  · exact absurd rfl (h _)
  · exact ⟨_, rfl⟩
  · exact ⟨_, rfl⟩

/-- The second half of a pair is there, or it is missed whatever is behind the string. -/
theorem StringText.takeLowHalf {text : List Char} (h : StringText text) :
    (∃ y₁ y₂ y₃ y₄ low cs, text = '\\' :: 'u' :: y₁ :: y₂ :: y₃ :: y₄ :: cs ∧ StringText cs ∧
      hexNumber? y₁ y₂ y₃ y₄ = some low ∧ 0xDC00 ≤ low ∧ low ≤ 0xDFFF) ∨
    ∀ rest, ∃ f, takeLowHalf (text ++ '"' :: rest) = .error f := by
  cases h with
  | nil => exact .inr fun rest => takeLowHalf_of_ne (by simp)
  | plain hq hb hc h => exact .inr fun rest => takeLowHalf_of_ne (by simp [hb])
  | @escape c cs hc h =>
    refine .inr fun rest => takeLowHalf_of_ne fun tail he => ?_
    obtain rfl : c = 'u' := by simp_all
    exact absurd hc (by decide)
  | @unicode y₁ y₂ y₃ y₄ cs hy h =>
    obtain ⟨low, hlow⟩ := exists_hexNumber? hy
    by_cases hin : 0xDC00 ≤ low ∧ low ≤ 0xDFFF
    · exact .inl ⟨y₁, y₂, y₃, y₄, low, cs, rfl, h, hlow, hin⟩
    · refine .inr fun rest => ⟨.before .loneSurrogate (cs ++ '"' :: rest), ?_⟩
      simp only [List.cons_append]
      rw [Json.takeLowHalf, takeHex_of_hexNumber? hlow]
      exact if_neg hin

/-- A text between quotes that stands for something, or else is refused whatever is behind it. -/
def Decided (text : List Char) : Prop :=
  (∃ s, StringDenotes text s) ∨ ∀ rest, ∃ f, takeString (text ++ '"' :: rest) = .error f

/-- A text is decided if what follows its first character is, as that character is taken. -/
theorem Decided.cons {text cs : List Char} {c : Char} (h : Decided cs)
    (htake : ∀ rest, takeString (text ++ '"' :: rest) =
      (takeString (cs ++ '"' :: rest)).map fun (ds, rest) => (c :: ds, rest))
    (hdenotes : ∀ s, StringDenotes cs s → StringDenotes text (c :: s)) : Decided text := by
  rcases h with ⟨s, hs⟩ | h
  · exact .inl ⟨c :: s, hdenotes s hs⟩
  · refine .inr fun rest => ?_
    obtain ⟨f, hf⟩ := h rest
    exact ⟨f, by rw [htake, hf]; rfl⟩

/-- **A string stands for something, or it is refused**, whatever is behind it. -/
theorem StringText.decided {text : List Char} (h : StringText text) : Decided text := by
  -- What follows a pair is not what follows its first half, so the induction is on the length.
  induction hn : text.length using Nat.strongRecOn generalizing text with
  | ind n ih =>
    subst hn
    cases h with
    | nil => exact .inl ⟨[], .nil⟩
    | @plain c cs hq hb hc h =>
      exact (ih cs.length (by simp) h rfl).cons (fun rest => takeString_of_plain hq hb hc _)
        fun s => .plain hq hb hc
    | @escape c cs hc h =>
      obtain ⟨⟨c, d⟩, hd, rfl⟩ := List.mem_map.1 hc
      have hdecided := ih cs.length (by simp only [List.length_cons]; omega) h rfl
      exact hdecided.cons (fun rest => takeString_of_escape (takeEscape_of_mem hd _))
        fun s => .escape hd
    | @unicode x₁ x₂ x₃ x₄ cs hx h =>
      obtain ⟨n, hn⟩ := exists_hexNumber? hx
      have hrefused (h : ∀ rest, ∃ f,
          takeUnicode (x₁ :: x₂ :: x₃ :: x₄ :: (cs ++ '"' :: rest)) = .error f) :
          Decided ('\\' :: 'u' :: x₁ :: x₂ :: x₃ :: x₄ :: cs) :=
        .inr fun rest => (h rest).imp fun f hf => takeString_of_escape_error hf
      by_cases hchar : n < 0xD800 ∨ 0xDFFF < n
      · have hdecided := ih cs.length (by simp only [List.length_cons]; omega) h rfl
        exact hdecided.cons (fun rest => takeString_of_escape (takeEscape_of_char hn hchar _))
          fun s => .unicode hn hchar
      by_cases hsecond : 0xDC00 ≤ n ∧ n ≤ 0xDFFF
      · exact hrefused fun rest => ⟨_, takeUnicode_of_low hn hsecond _⟩
      have hfirst : 0xD800 ≤ n ∧ n ≤ 0xDBFF := by omega
      rcases h.takeLowHalf with ⟨y₁, y₂, y₃, y₄, low, cs, rfl, h, hy, hlow⟩ | hmissed
      · have hdecided := ih cs.length (by simp only [List.length_cons]; omega) h rfl
        exact hdecided.cons
          (fun rest => takeString_of_escape (takeEscape_of_pair hn hfirst hy hlow _))
          fun s => .pair hn hfirst hy hlow
      · refine hrefused fun rest => ?_
        obtain ⟨f, hf⟩ := hmissed rest
        exact ⟨f, by rw [takeUnicode_of_high hn hfirst, hf]; rfl⟩

/-- A string of the grammar stands for something, or it is refused whatever is behind it. -/
theorem IsString.denotes_or_refused {l : String} (h : IsString l) {tail : List Char}
    (hl : l.toList = '"' :: tail) :
    (∃ s, Denotes l s) ∨ ∀ rest, ∃ f, takeString (tail ++ rest) = .error f := by
  obtain ⟨text, ht, hl'⟩ := h
  obtain rfl := (List.cons.inj (hl.symm.trans hl')).2
  rcases ht.decided with ⟨s, hs⟩ | hrefused
  · exact .inl ⟨s, text, hs, hl⟩
  · exact .inr fun rest => by simpa using hrefused rest

theorem Denotes.exists_cons {l : String} {s : List Char} (h : Denotes l s) :
    ∃ tail, l.toList = '"' :: tail :=
  let ⟨_, _, hl⟩ := h
  ⟨_, hl⟩

theorem Denotes.takeString {l : String} {s : List Char} (h : Denotes l s) {tail : List Char}
    (hl : l.toList = '"' :: tail) (rest : List Char) :
    takeString (tail ++ rest) = .ok (s, rest) := by
  obtain ⟨text, ht, hl'⟩ := h
  obtain rfl := (List.cons.inj (hl.symm.trans hl')).2
  simpa using ht.takeString rest

/-- A string stands for one text only. -/
theorem Denotes.unique {l : String} {s s' : List Char} (h : Denotes l s) (h' : Denotes l s') :
    s = s' := by
  obtain ⟨tail, hl⟩ := h.exists_cons
  cases (h.takeString hl []).symm.trans (h'.takeString hl [])
  rfl

/-! ## Passing over -/

theorem skipString_of_escape {cs rest : List Char} (h : skipEscape cs = .ok rest) :
    skipString ('\\' :: cs) = skipString rest := by
  rw [skipString, if_neg (by decide), if_pos rfl]
  split <;> simp_all

/-- **A string is passed over up to its closing quote**, whether it stands for something or not. -/
theorem StringText.skipString {text : List Char} (h : StringText text) (rest : List Char) :
    skipString (text ++ '"' :: rest) = .ok rest := by
  induction h with
  | nil => rw [List.nil_append, Json.skipString, if_pos rfl]
  | plain hq hb hc _ ih =>
    rw [List.cons_append, Json.skipString, if_neg hq, if_neg hb, if_neg hc]
    exact ih
  | @escape c cs hc _ ih =>
    obtain ⟨⟨c, d⟩, hd, rfl⟩ := List.mem_map.1 hc
    obtain ⟨hu, hsimple⟩ := simpleEscape?_of_mem hd
    rw [List.cons_append, List.cons_append, skipString_of_escape _, ih]
    rw [skipEscape, if_neg hu, hsimple, Option.isSome_some, if_pos rfl]
  | unicode hx _ ih =>
    obtain ⟨n, hn⟩ := exists_hexNumber? hx
    simp only [List.cons_append]
    rw [skipString_of_escape _, ih]
    rw [skipEscape, if_pos rfl, takeHex_of_hexNumber? hn]
    rfl

end Json
end ReportQuery
