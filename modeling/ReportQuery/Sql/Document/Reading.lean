/-
# Reading documents

A text is read as a document if it is JSON, or nearly so: there may be comments and more kinds
of blanks, a comma behind the last element, labels without quotes, texts in single quotes and
with more escapes, and numbers with a plus, without a digit on one side of the point, or in
base 16.  It is then a loose document.

Reading tells whether a text is loose, and where its fault is.  Of a text that goes on behind
its document, this is the last place at which the reader met a bracket, a comma or a colon in
place of something else.
-/

import ReportQuery.Sql.Document.Basic

namespace ReportQuery
namespace Sql

/-! ## Blanks and names -/

/-- Whether a character is a blank of JSON. -/
def isPlainBlank (c : Char) : Bool := c == ' ' || c == '\t' || c == '\n' || c == '\r'

/-- Whether a character is a further blank. -/
def isOtherBlank (c : Char) : Bool :=
  c == '\x0b' || c == '\x0c' || c == '\xa0' || c == '\u1680' || c == '\ufeff' ||
    ('\u2000' ≤ c && c ≤ '\u200a') || c == '\u2028' || c == '\u2029' || c == '\u202f' ||
    c == '\u205f' || c == '\u3000'

/-- A comment that has begun; a long one has to end, and knows the text from its beginning. -/
inductive Comment where
  | line
  | long (text : List Char)

/-- What is behind blanks and comments, and whether some of them are not those of JSON. -/
def skipBlanks (isLoose : Bool) (comment : Option Comment) : List Char → Bool × List Char
  | '*' :: '/' :: cs =>
    match comment with
    | none => (isLoose, '*' :: '/' :: cs)
    | some .line => skipBlanks true comment cs
    | some (.long _) => skipBlanks true none cs
  | '/' :: '*' :: cs =>
    match comment with
    | none => skipBlanks isLoose (some (.long ('/' :: '*' :: cs))) cs
    | some comment => skipBlanks isLoose (some comment) ('*' :: cs)
  | '/' :: '/' :: cs => skipBlanks isLoose (some (comment.getD .line)) ('/' :: cs)
  | c :: cs =>
    match comment with
    | none =>
      if isPlainBlank c then skipBlanks isLoose none cs
      else if isOtherBlank c then skipBlanks true none cs
      else (isLoose, c :: cs)
    | some .line => skipBlanks true (if endsLine c then none else comment) cs
    | some (.long _) => skipBlanks isLoose comment cs
  | [] =>
    match comment with
    | none => (isLoose, [])
    | some .line => (true, [])
    | some (.long text) => (isLoose, text)

/-- Whether a character is a letter or a digit. -/
def isAlphanumeric (c : Char) : Bool := c.isAlpha || c.isDigit

/-- Whether a character may begin a label without quotes. -/
def beginsLabel (c : Char) : Bool := c.isAlpha || c == '$' || c == '_' || 0x80 ≤ c.toNat

/-- Whether digits of base 16 stand ahead. -/
def areHexadecimal (count : Nat) (cs : List Char) : Bool :=
  let ahead := cs.take count
  ahead.length == count && ahead.all fun c => (Text.hexValue? c).isSome

/-- A label without quotes, and what is behind it. -/
def bareLabel? (cs : List Char) : Option (Wording × List Char) :=
  let (spelling, written, rest) := go true cs
  if written.isEmpty then none else some (⟨spelling, written⟩, rest)
where
  go (isFirst : Bool) : List Char → Spelling × List Char × List Char
    | '\\' :: 'u' :: cs =>
      if areHexadecimal 4 cs then
        let (_, written, rest) := go false cs
        (.escaped, '\\' :: 'u' :: written, rest)
      else (.plain, [], '\\' :: 'u' :: cs)
    | c :: cs =>
      if beginsLabel c && (isFirst || !isOtherBlank c) || !isFirst && c.isDigit then
        let (spelling, written, rest) := go false cs
        (spelling, c :: written, rest)
      else (.plain, [], c :: cs)
    | [] => (.plain, [], [])

/-- Whether a text begins with a word, whatever the case of its letters. -/
def beginsWith (word : String) (cs : List Char) : Bool :=
  (cs.take word.length).map Char.toLower == word.toList

/-! ## Reading -/

/-- What a reader has met: what was left of the text at the place of the fault, and whether the
text is loose. -/
structure DocumentState where
  mark : List Char
  isLoose : Bool := false

/-- Reading a part of a document. -/
abbrev DocumentReader := OptionT (StateM DocumentState)

/-- Remembers a place. -/
def markAt (cs : List Char) : DocumentReader Unit := modify fun s => { s with mark := cs }

/-- A fault at a place. -/
def failAt {α : Type} (cs : List Char) : DocumentReader α := do
  markAt cs
  failure

/-- The text is loose. -/
def loosen : DocumentReader Unit := modify fun s => { s with isLoose := true }

/-- Reads a part if it can be read. -/
def attempt {α : Type} (part : DocumentReader α) : DocumentReader (Option α) :=
  OptionT.lift part.run

/-- Reads a text up to a quote; `written` is the part of it before that, from its end. -/
def readText (quote : Char) (spelling : Spelling) (written : List Char) :
    List Char → DocumentReader (Wording × List Char)
  | [] => failAt []
  | '\\' :: '\r' :: '\n' :: cs => do
    loosen
    readText quote .extended ('\n' :: '\r' :: '\\' :: written) cs
  | '\\' :: [] => failAt []
  | '\\' :: c :: cs => do
    let written := c :: '\\' :: written
    if "\"\\/bfnrt".toList.contains c || c == 'u' && areHexadecimal 4 cs then
      readText quote (if spelling = .plain then .escaped else spelling) written cs
    else if "'0v".toList.contains c || endsLine c || c == 'x' && areHexadecimal 2 cs then
      loosen
      readText quote .extended written cs
    else failAt (c :: cs)
  | c :: cs => do
    if c == quote then return (⟨spelling, written.reverse⟩, cs)
    else if c.toNat < 0x20 then
      loosen
      readText quote .extended (c :: written) cs
    else readText quote (if c == '"' then .extended else spelling) (c :: written) cs

/-- What is known of a number so far. -/
structure NumberState where
  /-- What is read of it, from its end. -/
  taken : List Char
  isReal : Bool := false
  isLoose : Bool := false
  hasExponent : Bool := false

/-- Whether what is read of a number ends with a digit.  It may also end with a point behind a
digit, and is loose then; anything else is a fault. -/
def NumberState.closed? (s : NumberState) : Option NumberState :=
  match s.taken with
  | '.' :: c :: _ => if c.isDigit then some { s with isLoose := true } else none
  | c :: _ => if c.isDigit then some s else none
  | [] => none

/-- Reads the rest of a number. -/
def readNumber (s : NumberState) : List Char → DocumentReader (Document × List Char)
  | '.' :: cs => do
    if s.isReal then failAt ('.' :: cs)
    else readNumber { s with taken := '.' :: s.taken, isReal := true } cs
  | c :: cs => do
    if c.isDigit then readNumber { s with taken := c :: s.taken } cs
    else match s.closed? with
      | none => failAt (c :: cs)
      | some s =>
        if s.isLoose then loosen
        if c == 'e' || c == 'E' then
          if s.hasExponent then failAt (c :: cs)
          else
            let s := { s with taken := c :: s.taken, isReal := true, hasExponent := true }
            match cs with
            | sign :: more =>
              let isSigned := sign == '+' || sign == '-'
              if sign.isDigit || isSigned && more.head?.any Char.isDigit then
                readNumber { s with taken := sign :: s.taken } more
              else failAt (if isSigned then cs else c :: cs)
            | [] => failAt (c :: cs)
        else finish s (c :: cs)
  | [] => do
    match s.closed? with
    | none => failAt []
    | some s =>
      if s.isLoose then loosen
      finish s []
where
  finish (s : NumberState) (rest : List Char) : DocumentReader (Document × List Char) :=
    let written := s.taken.reverse
    return (if s.isReal then .real s.isLoose written else .integer written, rest)

/-- Reads a number, in front of which a sign has been read. -/
def readUnsigned (sign : List Char) : List Char → DocumentReader (Document × List Char)
  | '0' :: c :: more =>
    if (c == 'x' || c == 'X') && areHexadecimal 1 more then do
      loosen
      let isDigit := fun c => (Text.hexValue? c).isSome
      return (.hexadecimal (sign ++ '0' :: c :: more.takeWhile isDigit), more.dropWhile isDigit)
    else if c.isDigit then failAt (c :: more)
    else readNumber { taken := '0' :: sign } (c :: more)
  | c :: more => readNumber { taken := c :: sign } more
  | [] => failAt []

/-- The words for infinities and for what is no number. -/
def numberWords : List (String × Document) :=
  [("inf", .real false "9e999".toList), ("infinity", .real false "9e999".toList), ("nan", .null),
    ("qnan", .null), ("snan", .null)]

/-- Reads a number behind its sign. -/
def readSigned (sign : Char) (cs : List Char) : DocumentReader (Document × List Char) := do
  let kept := if sign == '-' then ['-'] else []
  if sign == '+' then loosen
  if cs.head?.any Char.isDigit then
    match cs with
    | '0' :: c :: _ => if c.isDigit then failAt cs else readUnsigned kept cs
    | _ => readUnsigned kept cs
  else if beginsWith "inf" cs then
    loosen
    let length := if beginsWith "infinity" cs then 8 else 3
    return (.real false (kept ++ "9e999".toList), cs.drop length)
  else match cs with
    | '.' :: rest =>
      loosen
      readNumber { taken := '.' :: kept, isReal := true, isLoose := true } rest
    | _ => failAt (sign :: cs)

/-- Reads a word, or any number that is written with letters. -/
def readWord (cs : List Char) : DocumentReader (Document × List Char) := do
  let isWord := fun (word : String) =>
    word.toList.isPrefixOf cs && !(cs.drop word.length).head?.any isAlphanumeric
  if isWord "true" then return (.truth true, cs.drop 4)
  else if isWord "false" then return (.truth false, cs.drop 5)
  else if isWord "null" then return (.null, cs.drop 4)
  else
    let found := numberWords.find? fun (word, _) =>
      beginsWith word cs && !(cs.drop word.length).head?.any isAlphanumeric
    match found with
    | some (word, d) =>
      loosen
      return (d, cs.drop word.length)
    | none => failAt cs

/-- What a reader may meet. -/
inductive Item where
  | value (d : Document)
  | objectEnd
  | arrayEnd
  | comma
  | colon
  | textEnd

/-- Reads what has a place of its own, behind the place. -/
def readSign (item : Item) (cs : List Char) : DocumentReader (Item × List Char) := do
  markAt cs
  return (item, cs.tail)

/-- The most documents that may be within each other. -/
def deepestDocument : Nat := 1000

mutual

/-- Reads the next value or sign; `fuel` is above twice the length of the text, and `depth` tells
how many documents may still be within each other. -/
def readItem : Nat → Nat → List Char → DocumentReader (Item × List Char)
  | 0, _, cs => failAt cs
  | fuel + 1, depth, cs => do
    let (isLoose, cs) := skipBlanks false none cs
    if isLoose then loosen
    match cs with
    | [] => return (.textEnd, [])
    | '\x7b' :: rest =>
      match depth with
      | 0 => failAt cs
      | depth + 1 => readMembers fuel depth [] rest
    | '[' :: rest =>
      match depth with
      | 0 => failAt cs
      | depth + 1 => readElements fuel depth [] rest
    | '\x7d' :: _ => readSign .objectEnd cs
    | ']' :: _ => readSign .arrayEnd cs
    | ',' :: _ => readSign .comma cs
    | ':' :: _ => readSign .colon cs
    | c :: rest =>
      let (d, rest) ←
        if c == '"' then do
          let (wording, rest) ← readText '"' .plain [] rest
          pure (Document.text wording, rest)
        else if c == '\'' then do
          loosen
          let (wording, rest) ← readText '\'' .plain [] rest
          pure (Document.text wording, rest)
        else if c.isDigit then readUnsigned [] cs
        else if c == '-' || c == '+' then readSigned c rest
        else if c == '.' && rest.head?.any Char.isDigit then do
          loosen
          readNumber { taken := ['.'], isReal := true, isLoose := true } rest
        else readWord cs
      return (.value d, rest)

/-- Reads the members of an object behind some others, which are given from the last one on. -/
def readMembers : Nat → Nat → List Member → List Char → DocumentReader (Item × List Char)
  | 0, _, _, cs => failAt cs
  | fuel + 1, depth, members, cs => do
    match ← attempt (readItem fuel depth cs) with
    | some (.objectEnd, rest) =>
      unless members.isEmpty do loosen
      return (.value (.object members.reverse), rest)
    | some (.value (.text label), rest) => readMember fuel depth members label rest
    | some (.value _, _) => failAt cs
    | found =>
      let (_, cs) := skipBlanks false none cs
      match bareLabel? cs with
      | some (label, rest) =>
        loosen
        readMember fuel depth members label rest
      | none => if found.isSome then failAt cs else failure

/-- Reads what is behind the label of a member. -/
def readMember : Nat → Nat → List Member → Wording → List Char → DocumentReader (Item × List Char)
  | 0, _, _, _, cs => failAt cs
  | fuel + 1, depth, members, label, cs => do
    let cs := cs.dropWhile isPlainBlank
    let cs ← match cs with
      | ':' :: rest => pure rest
      | _ =>
        match ← readItem fuel depth cs with
        | (.colon, rest) => pure rest
        | _ => failAt cs
    match ← readItem fuel depth cs with
    | (.value value, rest) =>
      let members := .mk label value :: members
      let cs := rest.dropWhile isPlainBlank
      match cs with
      | ',' :: rest => readMembers fuel depth members rest
      | '\x7d' :: rest => return (.value (.object members.reverse), rest)
      | _ =>
        match ← attempt (readItem fuel depth cs) with
        | some (.comma, rest) => readMembers fuel depth members rest
        | some (.objectEnd, rest) => return (.value (.object members.reverse), rest)
        | _ => failAt cs
    | _ => failAt cs

/-- Reads the elements of an array behind some others, which are given from the last one on. -/
def readElements : Nat → Nat → List Document → List Char → DocumentReader (Item × List Char)
  | 0, _, _, cs => failAt cs
  | fuel + 1, depth, elements, cs => do
    match ← readItem fuel depth cs with
    | (.arrayEnd, rest) =>
      unless elements.isEmpty do loosen
      return (.value (.array elements.reverse), rest)
    | (.value d, rest) =>
      let elements := d :: elements
      let cs := rest.dropWhile isPlainBlank
      match cs with
      | ',' :: rest => readElements fuel depth elements rest
      | ']' :: rest => return (.value (.array elements.reverse), rest)
      | _ =>
        match ← attempt (readItem fuel depth cs) with
        | some (.comma, rest) => readElements fuel depth elements rest
        | some (.arrayEnd, rest) => return (.value (.array elements.reverse), rest)
        | _ => failAt cs
    | _ => failAt cs

end

/-- Reads a document to the end of the text. -/
def readAll (cs : List Char) : DocumentReader Document := do
  match ← readItem (2 * cs.length + 4) deepestDocument cs with
  | (.value d, rest) =>
    let rest := rest.dropWhile isPlainBlank
    if rest.isEmpty then return d
    else
      let (_, rest) := skipBlanks false none rest
      unless rest.isEmpty do failure
      loosen
      return d
  | _ => failure

/-- A text that has been read. -/
structure DocumentText where
  document? : Option Document
  isLoose : Bool
  /-- The place of the fault, counted from 1; 0 if there is none. -/
  faultPlace : Nat

/-- Reads a text as a document. -/
def readDocument (cs : List Char) : DocumentText :=
  let (document?, s) := (readAll cs).run.run { mark := cs }
  { document?
    isLoose := s.isLoose
    faultPlace := if document?.isSome then 0 else cs.length - s.mark.length + 1 }

end Sql
end ReportQuery
