/-
# The lexemes of JSON

Readers for strings, numbers and words.  Each takes the characters that are
left of the text and gives what it read and what is left then; each that can
succeed uses up at least one character, which is what the readers built on them
recur on.

A string is read with its escapes decoded (`takeString`), or only passed over
(`skipString`), where the characters that escapes stand for do not matter.  A
number is split into its digits first (`takeNumeral`), and its value is worked
out after that (`Numeral.number`).
-/

import ReportQuery.Decimal.Reading
import ReportQuery.Json.Fault

namespace ReportQuery
namespace Json

/-- Characters that may stand between lexemes. -/
def isSpace (c : Char) : Bool := c == ' ' || c == '\n' || c == '\t' || c == '\r'

/-- The text from its first character that is not a space. -/
def skipSpace (cs : List Char) : List Char := cs.dropWhile isSpace

theorem length_skipSpace_le (cs : List Char) : (skipSpace cs).length ≤ cs.length :=
  (List.dropWhile_suffix isSpace).length_le

/-! ## Words -/

/-- Takes the letters of a word. -/
def takeWord : List Char → List Char → Except Fault (List Char)
  | [], cs => .ok cs
  | _ :: _, [] => .error (.before .endInValue [])
  | w :: word, c :: cs =>
    if c = w then takeWord word cs else .error (.atNext .expectedWord (c :: cs))

theorem length_le_of_takeWord {word cs rest : List Char} (h : takeWord word cs = .ok rest) :
    rest.length ≤ cs.length := by
  induction word generalizing cs with
  | nil => simp only [takeWord, Except.ok.injEq] at h; simp [h]
  | cons w word ih =>
    cases cs with
    | nil => simp [takeWord] at h
    | cons c cs =>
      simp only [takeWord] at h
      split at h
      · have := ih h; simp only [List.length_cons]; omega
      · simp at h

/-! ## Strings -/

/-- The number that four hexadecimal digits denote. -/
def hexNumber? (a b c d : Char) : Option Nat := do
  let high := (← Text.hexValue? a) * 16 + (← Text.hexValue? b)
  let low := (← Text.hexValue? c) * 16 + (← Text.hexValue? d)
  return high * 256 + low

/-- Takes four bytes, which have to be hexadecimal digits. -/
def takeHex (cs : List Char) : Except Fault (Nat × List Char) :=
  if byteSize cs < 4 then .error (.before .endInString [])
  else match cs with
    | a :: b :: c :: d :: rest =>
      match hexNumber? a b c d with
      | some n => .ok (n, rest)
      | none => .error ⟨.invalidEscape, byteSize cs - 4⟩
    | _ => .error ⟨.invalidEscape, byteSize cs - 4⟩

theorem length_lt_of_takeHex {cs rest : List Char} {n : Nat} (h : takeHex cs = .ok (n, rest)) :
    rest.length < cs.length := by
  unfold takeHex at h
  split at h
  · simp at h
  · split at h
    · split at h
      · simp only [Except.ok.injEq, Prod.mk.injEq] at h
        simp only [← h.2, List.length_cons]; omega
      · simp at h
    · simp at h

/-- What a one-letter escape stands for. -/
def simpleEscape? : Char → Option Char
  | '"' => some '"'
  | '\\' => some '\\'
  | '/' => some '/'
  | 'b' => some '\x08'
  | 'f' => some '\x0c'
  | 'n' => some '\n'
  | 'r' => some '\r'
  | 't' => some '\t'
  | _ => none

/-- Takes the second half of a character beyond the first plane, which has to
follow the first half as an escape of its own. -/
def takeLowHalf : List Char → Except Fault (Nat × List Char)
  | [] => .error (.before .endInString [])
  | ['\\'] => .error (.before .endInString [])
  | '\\' :: 'u' :: cs =>
    match takeHex cs with
    | .error f => .error f
    | .ok (low, rest) =>
      if 0xDC00 ≤ low ∧ low ≤ 0xDFFF then .ok (low, rest)
      else .error (.before .loneSurrogate rest)
  | '\\' :: cs => .error (.atNext .endOfSurrogate cs)
  | cs => .error (.atNext .endOfSurrogate cs)

theorem length_lt_of_takeLowHalf {cs rest : List Char} {n : Nat}
    (h : takeLowHalf cs = .ok (n, rest)) : rest.length < cs.length := by
  unfold takeLowHalf at h
  split at h
  · simp at h
  · simp at h
  · split at h
    · simp at h
    · rename_i hx
      have := length_lt_of_takeHex hx
      split at h
      · simp only [Except.ok.injEq, Prod.mk.injEq] at h
        simp only [← h.2, List.length_cons]; omega
      · simp at h
  · simp at h
  · simp at h

/-- Takes what follows `\u`: a character of the first plane, or the two halves
of a character beyond it. -/
def takeUnicode (cs : List Char) : Except Fault (Char × List Char) :=
  match takeHex cs with
  | .error f => .error f
  | .ok (n, rest) =>
    if 0xDC00 ≤ n ∧ n ≤ 0xDFFF then .error (.before .loneSurrogate rest)
    else if 0xD800 ≤ n ∧ n ≤ 0xDBFF then
      match takeLowHalf rest with
      | .error f => .error f
      | .ok (low, rest) => .ok (Char.ofNat ((n - 0xD800) * 0x400 + (low - 0xDC00) + 0x10000), rest)
    else .ok (Char.ofNat n, rest)

theorem length_lt_of_takeUnicode {cs rest : List Char} {c : Char}
    (h : takeUnicode cs = .ok (c, rest)) : rest.length < cs.length := by
  unfold takeUnicode at h
  split at h
  · simp at h
  · rename_i hx
    have hlt := length_lt_of_takeHex hx
    split at h
    · simp at h
    · split at h
      · split at h
        · simp at h
        · rename_i hl
          have := length_lt_of_takeLowHalf hl
          simp only [Except.ok.injEq, Prod.mk.injEq] at h
          rw [← h.2]; omega
      · simp only [Except.ok.injEq, Prod.mk.injEq] at h
        rw [← h.2]; exact hlt

/-- Takes what follows a backslash. -/
def takeEscape : List Char → Except Fault (Char × List Char)
  | [] => .error (.before .endInString [])
  | c :: cs =>
    if c = 'u' then takeUnicode cs
    else match simpleEscape? c with
      | some d => .ok (d, cs)
      | none => .error (.atNext .invalidEscape (c :: cs))

theorem length_lt_of_takeEscape {cs rest : List Char} {c : Char}
    (h : takeEscape cs = .ok (c, rest)) : rest.length < cs.length := by
  unfold takeEscape at h
  split at h
  · simp at h
  · split at h
    · have := length_lt_of_takeUnicode h
      simp only [List.length_cons]; omega
    · split at h
      · simp only [Except.ok.injEq, Prod.mk.injEq] at h
        simp only [← h.2, List.length_cons]; omega
      · simp at h

/-- Passes over what follows a backslash; the halves of characters are not looked at. -/
def skipEscape : List Char → Except Fault (List Char)
  | [] => .error (.before .endInString [])
  | c :: cs =>
    if c = 'u' then (takeHex cs).map Prod.snd
    else if (simpleEscape? c).isSome then .ok cs
    else .error (.atNext .invalidEscape (c :: cs))

theorem length_lt_of_skipEscape {cs rest : List Char} (h : skipEscape cs = .ok rest) :
    rest.length < cs.length := by
  unfold skipEscape at h
  split at h
  · simp at h
  · rename_i c cs
    split at h
    · cases hx : takeHex cs with
      | error f => simp [hx, Except.map] at h
      | ok p =>
        obtain ⟨n, tail⟩ := p
        have := length_lt_of_takeHex hx
        simp only [hx, Except.map, Except.ok.injEq] at h
        simp only [← h, List.length_cons]; omega
    · split at h
      · simp only [Except.ok.injEq] at h
        simp [← h]
      · simp at h

/-- Whether a character has to be escaped inside a string: below the space. -/
def isControl (c : Char) : Bool := c.toNat < 0x20

/-- Takes a string, from behind its opening quote to behind its closing one. -/
def takeString (cs : List Char) : Except Fault (List Char × List Char) :=
  match cs with
  | [] => .error (.before .endInString [])
  | c :: cs =>
    if c = '"' then .ok ([], cs)
    else if c = '\\' then
      match h : takeEscape cs with
      | .error f => .error f
      | .ok (d, rest) =>
        have := length_lt_of_takeEscape h
        (takeString rest).map fun (ds, rest) => (d :: ds, rest)
    else if isControl c then .error (.before .controlCharacter cs)
    else (takeString cs).map fun (ds, rest) => (c :: ds, rest)
termination_by cs.length
decreasing_by all_goals simp only [List.length_cons]; omega

/-- Passes over a string, from behind its opening quote to behind its closing one. -/
def skipString (cs : List Char) : Except Fault (List Char) :=
  match cs with
  | [] => .error (.before .endInString [])
  | c :: cs =>
    if c = '"' then .ok cs
    else if c = '\\' then
      match h : skipEscape cs with
      | .error f => .error f
      | .ok rest =>
        have := length_lt_of_skipEscape h
        skipString rest
    else if isControl c then .error (.before .controlCharacter (c :: cs))
    else skipString cs
termination_by cs.length
decreasing_by all_goals simp only [List.length_cons]; omega

theorem length_lt_of_takeString {cs ds rest : List Char} (h : takeString cs = .ok (ds, rest)) :
    rest.length < cs.length := by
  fun_induction takeString cs generalizing ds with
  | case1 => simp at h
  | case2 cs =>
    simp only [Except.ok.injEq, Prod.mk.injEq] at h
    simp [← h.2]
  | case3 => simp at h
  | case4 cs d tail he hlt _ ih =>
    cases ht : takeString tail with
    | error f => simp [ht, Except.map] at h
    | ok p =>
      obtain ⟨ds', tail'⟩ := p
      simp only [ht, Except.map, Except.ok.injEq, Prod.mk.injEq] at h
      have := ih (h.2 ▸ ht)
      simp only [List.length_cons]; omega
  | case5 => simp at h
  | case6 c cs _ _ _ ih =>
    cases ht : takeString cs with
    | error f => simp [ht, Except.map] at h
    | ok p =>
      obtain ⟨ds', tail'⟩ := p
      simp only [ht, Except.map, Except.ok.injEq, Prod.mk.injEq] at h
      have := ih (h.2 ▸ ht)
      simp only [List.length_cons]; omega

theorem length_lt_of_skipString {cs rest : List Char} (h : skipString cs = .ok rest) :
    rest.length < cs.length := by
  fun_induction skipString cs with
  | case1 => simp at h
  | case2 cs => simp only [Except.ok.injEq] at h; simp [← h]
  | case3 => simp at h
  | case4 cs tail he hlt _ ih => have := ih h; simp only [List.length_cons]; omega
  | case5 => simp at h
  | case6 c cs _ _ _ ih => have := ih h; simp only [List.length_cons]; omega

/-! ## Numbers -/

/-- The digits of a number: before the point, after it, and of the exponent,
which comes with a flag for a minus sign. -/
structure Numeral where
  negative : Bool
  whole : List Char
  fraction : List Char
  exponent : Option (Bool × List Char)
deriving DecidableEq, Repr

/-- A number that was read. -/
inductive Number where
  | integer (n : Int)
  | real (x : Float)
deriving DecidableEq

/-- A fault at the next character of a number; the end of the text may be a fault of its own. -/
def numeralFault (atEnd : Reason) (cs : List Char) : Fault :=
  .atNext (if cs.isEmpty then atEnd else .invalidNumber) cs

/-- Takes the digits before the point: a zero alone, or digits that do not begin with one. -/
def takeWhole (atEnd : Reason) : List Char → Except Fault (List Char × List Char)
  | [] => .error (numeralFault atEnd [])
  | c :: cs =>
    if !c.isDigit then .error (numeralFault atEnd (c :: cs))
    else if c = '0' then
      match cs with
      | d :: _ => if d.isDigit then .error (.atNext .invalidNumber cs) else .ok ([c], cs)
      | [] => .ok ([c], cs)
    else .ok (c :: cs.takeWhile Char.isDigit, cs.dropWhile Char.isDigit)

/-- Takes one digit or more. -/
def takeDigits (atEnd : Reason) (cs : List Char) : Except Fault (List Char × List Char) :=
  let ds := cs.takeWhile Char.isDigit
  if ds.isEmpty then .error (numeralFault atEnd cs) else .ok (ds, cs.dropWhile Char.isDigit)

/-- Takes the point and the digits after it, if there is a point. -/
def takeFraction (atEnd : Reason) : List Char → Except Fault (List Char × List Char)
  | '.' :: cs => takeDigits atEnd cs
  | cs => .ok ([], cs)

/-- Takes the exponent, if there is one. -/
def takeExponent (atEnd : Reason) : List Char →
    Except Fault (Option (Bool × List Char) × List Char)
  | [] => .ok (none, [])
  | c :: cs =>
    if c = 'e' ∨ c = 'E' then
      let (negative, cs) := Decimal.takeSign cs
      (takeDigits atEnd cs).map fun (ds, rest) => (some (negative, ds), rest)
    else .ok (none, c :: cs)

/-- Takes a number without its sign. -/
def takeNumeral (atEnd : Reason) (negative : Bool) (cs : List Char) :
    Except Fault (Numeral × List Char) := do
  let (whole, cs) ← takeWhole atEnd cs
  let (fraction, cs) ← takeFraction atEnd cs
  let (exponent, cs) ← takeExponent atEnd cs
  return (⟨negative, whole, fraction, exponent⟩, cs)

/-- Takes a number with its sign. -/
def takeSignedNumeral (atEnd : Reason) : List Char → Except Fault (Numeral × List Char)
  | '-' :: cs => takeNumeral atEnd true cs
  | cs => takeNumeral atEnd false cs

theorem length_dropWhile_le (p : Char → Bool) (cs : List Char) :
    (cs.dropWhile p).length ≤ cs.length :=
  (List.dropWhile_suffix p).length_le

theorem length_lt_of_takeWhole {atEnd : Reason} {cs ds rest : List Char}
    (h : takeWhole atEnd cs = .ok (ds, rest)) : rest.length < cs.length := by
  unfold takeWhole at h
  split at h
  · simp at h
  · rename_i c cs
    have hle := length_dropWhile_le Char.isDigit cs
    split at h
    · simp at h
    · split at h
      · split at h
        · split at h
          · simp at h
          · simp only [Except.ok.injEq, Prod.mk.injEq] at h; simp [← h.2]
        · simp only [Except.ok.injEq, Prod.mk.injEq] at h; simp [← h.2]
      · simp only [Except.ok.injEq, Prod.mk.injEq] at h
        rw [← h.2, List.length_cons]; omega

theorem length_le_of_takeDigits {atEnd : Reason} {cs ds rest : List Char}
    (h : takeDigits atEnd cs = .ok (ds, rest)) : rest.length ≤ cs.length := by
  simp only [takeDigits] at h
  split at h
  · simp at h
  · simp only [Except.ok.injEq, Prod.mk.injEq] at h
    rw [← h.2]; exact length_dropWhile_le _ _

theorem length_le_of_takeFraction {atEnd : Reason} {cs ds rest : List Char}
    (h : takeFraction atEnd cs = .ok (ds, rest)) : rest.length ≤ cs.length := by
  unfold takeFraction at h
  split at h
  · have := length_le_of_takeDigits h
    simp only [List.length_cons]; omega
  · simp only [Except.ok.injEq, Prod.mk.injEq] at h; simp [← h.2]

theorem length_takeSign_le (cs : List Char) : (Decimal.takeSign cs).2.length ≤ cs.length := by
  unfold Decimal.takeSign
  split <;> simp

theorem length_le_of_takeExponent {atEnd : Reason} {cs rest : List Char}
    {e : Option (Bool × List Char)} (h : takeExponent atEnd cs = .ok (e, rest)) :
    rest.length ≤ cs.length := by
  unfold takeExponent at h
  split at h
  · simp only [Except.ok.injEq, Prod.mk.injEq] at h; simp [← h.2]
  · rename_i c cs
    have hle := length_takeSign_le cs
    split at h
    · cases hd : takeDigits atEnd (Decimal.takeSign cs).2 with
      | error f => simp [hd, Except.map] at h
      | ok p =>
        obtain ⟨ds, tail⟩ := p
        have := length_le_of_takeDigits hd
        simp only [hd, Except.map, Except.ok.injEq, Prod.mk.injEq] at h
        rw [← h.2, List.length_cons]; omega
    · simp only [Except.ok.injEq, Prod.mk.injEq] at h; simp [← h.2]

theorem length_lt_of_takeNumeral {atEnd : Reason} {negative : Bool} {cs rest : List Char}
    {n : Numeral} (h : takeNumeral atEnd negative cs = .ok (n, rest)) :
    rest.length < cs.length := by
  simp only [takeNumeral, bind, Except.bind, pure, Except.pure] at h
  split at h
  · simp at h
  · rename_i hw
    have h₁ := length_lt_of_takeWhole hw
    split at h
    · simp at h
    · rename_i hf
      have h₂ := length_le_of_takeFraction hf
      split at h
      · simp at h
      · rename_i he
        have h₃ := length_le_of_takeExponent he
        simp only [Except.ok.injEq, Prod.mk.injEq] at h
        rw [← h.2]; omega

theorem length_lt_of_takeSignedNumeral {atEnd : Reason} {cs rest : List Char} {n : Numeral}
    (h : takeSignedNumeral atEnd cs = .ok (n, rest)) : rest.length < cs.length := by
  unfold takeSignedNumeral at h
  split at h
  · have := length_lt_of_takeNumeral h
    simp only [List.length_cons]; omega
  · exact length_lt_of_takeNumeral h

/-- Whether a number begins with this character. -/
def startsNumber (c : Char) : Bool := c == '-' || c.isDigit

/-- The significand that digits add up to before it would take more than 64
bits, and how many of the digits are in it. -/
def absorb (significand : Nat) : List Char → Nat × Nat
  | [] => (significand, 0)
  | d :: ds =>
    let next := 10 * significand + (d.toNat - '0'.toNat)
    if next < UInt64.size then
      let (total, count) := absorb next ds
      (total, count + 1)
    else (significand, 0)

/-- A power of ten. -/
def powerOfTen (n : Nat) : Float := Float.ofScientific 1 false n

/-- A number divided by a power of ten, in steps of `10 ^ 308` at most. -/
def dividedByPower (x : Float) (n : Nat) : Float :=
  if n ≤ 308 then x / powerOfTen n
  else if x == 0.0 then x
  else dividedByPower (x / powerOfTen 308) (n - 308)
termination_by n
decreasing_by omega

/-- A number times a power of ten, if that is finite. -/
def timesPower? (x : Float) (n : Nat) : Option Float :=
  if n ≤ 308 then
    let y := x * powerOfTen n
    if y.isFinite then some y else none
  else if x == 0.0 then some x
  else none

/-- A number times `10 ^ n`, if that is finite. -/
def scaledByPower? (x : Float) (n : Int) : Option Float :=
  if 0 ≤ n then timesPower? x n.toNat else some (dividedByPower x n.natAbs)

/-- How many digits of an exponent are read until it takes more than 31 bits;
`none` if it never does. -/
def exponentOverflow? (ds : List Char) : Option Nat :=
  (List.range (ds.length + 1)).find? fun n =>
    Int32.maxValue.toInt < Decimal.ofDigits (ds.take n)

namespace Numeral

/-- The number as a binary one.  The digits that fit go into the significand,
which is rounded before it is scaled, so the result may be off by a little.
A fault is out of range behind the digit of the exponent that is too much, or
behind the number. -/
def real (n : Numeral) (rest : List Char) : Except Fault Float :=
  let (significand, counted) := absorb 0 n.whole
  let (significand, absorbed) := absorb significand n.fraction
  let scale : Int := (n.whole.length - counted : Nat) - (absorbed : Int)
  let signed := fun x : Float => if n.negative then -x else x
  let scaled := fun scale : Int =>
    match scaledByPower? significand.toUInt64.toFloat scale with
    | some x => .ok (signed x)
    | none => .error (.before .numberOutOfRange rest)
  match n.exponent with
  | none => scaled scale
  | some (negative, ds) =>
    match exponentOverflow? ds with
    | some read =>
      if significand ≠ 0 && !negative then .error (.before .numberOutOfRange (ds.drop read ++ rest))
      else .ok (signed 0.0)
    | none =>
      scaled (scale + if negative then -(Decimal.ofDigits ds : Int) else Decimal.ofDigits ds)

/-- The value of a number.  Whole numbers without an exponent are integers as
far as 64 bits reach; minus zero and all other numbers are binary ones. -/
def number (n : Numeral) (rest : List Char) : Except Fault Number :=
  let value := Decimal.ofDigits n.whole
  let isWhole := n.fraction.isEmpty && n.exponent.isNone
  if isWhole && !n.negative && value < UInt64.size then .ok (.integer value)
  else if isWhole && n.negative && 0 < value && Int64.minValue.toInt ≤ -(value : Int) then
    .ok (.integer (-value))
  else (n.real rest).map .real

end Numeral

/-- What a number is called when something else was wanted. -/
def Number.found : Number → Found
  | .integer n => .integer n
  | .real x => .real x

end Json
end ReportQuery
