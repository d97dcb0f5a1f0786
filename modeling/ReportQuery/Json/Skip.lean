/-
# Passing over a JSON value

A value that is not wanted is checked for its syntax and otherwise not looked
at.  Nesting is kept as a stack of frames, so that it may be of any depth: a
frame says what is open around the place that has been reached, and `skip`
moves between three places.

| place | what comes next |
| --- | --- |
| `value` | a value inside the open frames |
| `member` | a key, a colon and a value of the innermost frame, an object |
| `after` | a comma or the end of the innermost frame, behind a value of it |

The main statement is that skipping a value uses up some of the text
(`length_lt_of_skip`).
-/

import ReportQuery.Json.Lexeme

namespace ReportQuery
namespace Json

/-- What is open around a value. -/
inductive Frame where
  | list
  | object
deriving DecidableEq, Repr

namespace Frame

/-- The character that ends a frame. -/
def close : Frame → Char
  | .list => ']'
  | .object => '}'

/-- The fault of a text that ends inside a frame. -/
def endReason : Frame → Reason
  | .list => .endInList
  | .object => .endInObject

/-- The fault of a character that is neither a comma nor the end of the frame. -/
def commaReason : Frame → Reason
  | .list => .expectedListComma
  | .object => .expectedObjectComma

end Frame

/-- Takes the colon between a key and its value. -/
def takeColon (cs : List Char) : Except Fault (List Char) :=
  match skipSpace cs with
  | [] => .error (.atNext .endInObject [])
  | c :: rest => if c = ':' then .ok rest else .error (.atNext .expectedColon (c :: rest))

theorem length_lt_of_takeColon {cs rest : List Char} (h : takeColon cs = .ok rest) :
    rest.length < cs.length := by
  have hle := length_skipSpace_le cs
  unfold takeColon at h
  split at h
  · simp at h
  · rename_i c tail hs
    rw [hs, List.length_cons] at hle
    split at h
    · simp only [Except.ok.injEq] at h; rw [← h]; omega
    · simp at h

/-- Passes over a key from its quote on, and over the colon after it. -/
def skipKey (cs : List Char) : Except Fault (List Char) :=
  match skipSpace cs with
  | [] => .error (.atNext .endInObject [])
  | c :: rest =>
    if c = '"' then
      match skipString rest with
      | .error f => .error f
      | .ok rest => takeColon rest
    else .error (.atNext .keyNotString (c :: rest))

theorem length_lt_of_skipKey {cs rest : List Char} (h : skipKey cs = .ok rest) :
    rest.length < cs.length := by
  have hle := length_skipSpace_le cs
  unfold skipKey at h
  split at h
  · simp at h
  · rename_i c tail hs
    rw [hs, List.length_cons] at hle
    split at h
    · split at h
      · simp at h
      · rename_i hk
        have h₁ := length_lt_of_skipString hk
        have h₂ := length_lt_of_takeColon h
        omega
    · simp at h

/-- Passes over a value that opens no frame. -/
def skipScalar (c : Char) (cs : List Char) : Except Fault (List Char) :=
  if c = '"' then skipString cs
  else if c = 'n' then takeWord ['u', 'l', 'l'] cs
  else if c = 't' then takeWord ['r', 'u', 'e'] cs
  else if c = 'f' then takeWord ['a', 'l', 's', 'e'] cs
  else if startsNumber c then (takeSignedNumeral .invalidNumber (c :: cs)).map Prod.snd
  else .error (.atNext .expectedValue (c :: cs))

theorem length_le_of_skipScalar {c : Char} {cs rest : List Char} (h : skipScalar c cs = .ok rest) :
    rest.length ≤ cs.length := by
  unfold skipScalar at h
  split at h
  · exact Nat.le_of_lt (length_lt_of_skipString h)
  split at h
  · exact length_le_of_takeWord h
  split at h
  · exact length_le_of_takeWord h
  split at h
  · exact length_le_of_takeWord h
  split at h
  · cases hn : takeSignedNumeral .invalidNumber (c :: cs) with
    | error f => simp [hn, Except.map] at h
    | ok p =>
      obtain ⟨n, tail⟩ := p
      have := length_lt_of_takeSignedNumeral hn
      simp only [hn, Except.map, Except.ok.injEq] at h
      rw [← h]
      simp only [List.length_cons] at this
      omega
  · simp at h

/-- How far the text has been passed over. -/
inductive Place where
  | value
  | member
  | after
deriving DecidableEq, Repr

/-- Passes over the text from a place inside open frames to behind the value
that opened the outermost of them. -/
def skip (place : Place) (frames : List Frame) (cs : List Char) : Except Fault (List Char) :=
  match place with
  | .value =>
    match hs : skipSpace cs with
    | [] => .error (.atNext .endInValue [])
    | c :: rest =>
      have hle := length_skipSpace_le cs
      have hrest : rest.length < cs.length := by
        rw [hs, List.length_cons] at hle; omega
      if c = '[' then
        match skipSpace rest with
        | [] => .error (.atNext .endInList [])
        | d :: _ => if d = ']' then skip .after (.list :: frames) rest
          else skip .value (.list :: frames) rest
      else if c = '{' then
        match skipSpace rest with
        | [] => .error (.atNext .endInObject [])
        | d :: _ => if d = '}' then skip .after (.object :: frames) rest
          else skip .member (.object :: frames) rest
      else
        match h : skipScalar c rest with
        | .error f => .error f
        | .ok rest' =>
          have := length_le_of_skipScalar h
          skip .after frames rest'
  | .member =>
    match h : skipKey cs with
    | .error f => .error f
    | .ok rest =>
      have := length_lt_of_skipKey h
      skip .value frames rest
  | .after =>
    match frames with
    | [] => .ok cs
    | frame :: frames =>
      match hs : skipSpace cs with
      | [] => .error (.atNext frame.endReason [])
      | c :: rest =>
        have hle := length_skipSpace_le cs
        have hrest : rest.length < cs.length := by
          rw [hs, List.length_cons] at hle; omega
        if c = ',' then
          match frame with
          | .list => skip .value (.list :: frames) rest
          | .object => skip .member (.object :: frames) rest
        else if c = frame.close then skip .after frames rest
        else .error (.atNext frame.commaReason (c :: rest))
termination_by cs.length

/-- Passes over one value. -/
def skipValue (cs : List Char) : Except Fault (List Char) := skip .value [] cs

theorem length_le_of_skip {place : Place} {frames : List Frame} {cs rest : List Char}
    (h : skip place frames cs = .ok rest) : rest.length ≤ cs.length := by
  fun_induction skip place frames cs <;> grind

end Json
end ReportQuery
