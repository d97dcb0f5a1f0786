/-
# Tokens of a statement

A statement is a list of words, quoted names, literals, parameters and symbols, with
blanks and comments between them.

| token | written |
| --- | --- |
| word | letters, digits, `_` and `$`, and all that is not ASCII; begins with no digit |
| quoted name | between quotation marks, backquotes or square brackets |
| text | between apostrophes |
| bytes | `x` and hexadecimal digits in pairs between apostrophes |
| number | digits with a point and an exponent, or `0x` and hexadecimal digits |
| parameter | `?`, `?` and digits, or `:`, `@`, `$` or `#` and a name |

A quoting sign within quotes is written twice.  What is none of these is a token of
its own kind, `unknown`, and ends the reading.

The words `WINDOW`, `OVER` and `FILTER` are names like others, unless what stands around
them tells that they begin a clause: then they are tokens of the kind `clause`.
-/

import ReportQuery.Sql.Fault
import ReportQuery.Text.Hex

namespace ReportQuery
namespace Sql

/-- The kinds of tokens. -/
inductive TokenKind where
  | word
  /-- A word that begins a clause, as its neighbours tell. -/
  | clause
  /-- A name between quotation marks, which stands for a text where it names nothing. -/
  | quotation
  /-- A name in backquotes or square brackets. -/
  | quotedName
  | text
  | bytes
  | number
  | parameter
  | symbol
  | unknown
  | ending
deriving DecidableEq, Repr

/-- A token, as it is written, and the statement from its first character on. -/
structure Token where
  kind : TokenKind
  text : String
  source : List Char
deriving DecidableEq, Repr

/-- Words that are keywords only where their neighbours say so. -/
def clauseWords : List String := ["WINDOW", "OVER", "FILTER"]

/-! ## Characters -/

/-- Whether a character separates tokens. -/
def isSpace (c : Char) : Bool :=
  c == ' ' || c == '\t' || c == '\n' || c == '\x0c' || c == '\r'

/-- Whether a character may stand in a word. -/
def isWordPart (c : Char) : Bool := c.isAlphanum || c == '_' || c == '$' || 0x80 ≤ c.toNat

/-- Whether a character begins a word. -/
def isWordStart (c : Char) : Bool := c.isAlpha || c == '_' || 0x80 ≤ c.toNat

/-- Whether a character is a hexadecimal digit. -/
def isHexDigit (c : Char) : Bool := (Text.hexValue? c).isSome

/-! ## Kinds of tokens

Each function gives the kind of the token that a text begins with, and its length. -/

/-- The length of a comment behind its first two characters, with its end. -/
def commentLength : List Char → Nat
  | '*' :: '/' :: _ => 2
  | _ :: cs => commentLength cs + 1
  | [] => 0

/-- The length of what stands in quotes, with the closing sign; none if it is missing. -/
def quotedLength? (sign : Char) : List Char → Option Nat
  | [] => none
  | [c] => if c = sign then some 1 else none
  | c :: d :: cs =>
    if c ≠ sign then (quotedLength? sign (d :: cs)).map (· + 1)
    else if d = sign then (quotedLength? sign cs).map (· + 2)
    else some 1

/-- A token in quotes. -/
def scanQuoted (kind : TokenKind) (sign : Char) (cs : List Char) : TokenKind × Nat :=
  match quotedLength? sign cs with
  | some n => (kind, n + 1)
  | none => (.unknown, cs.length + 1)

/-- A name in square brackets. -/
def scanBracketed (cs : List Char) : TokenKind × Nat :=
  let name := cs.takeWhile (· != ']')
  if name.length < cs.length then (.quotedName, name.length + 2) else (.unknown, cs.length + 1)

/-- Bytes behind `x` and an apostrophe. -/
def scanBytes (cs : List Char) : TokenKind × Nat :=
  let digits := cs.takeWhile isHexDigit
  match cs.dropWhile isHexDigit with
  | '\'' :: _ => (if digits.length % 2 = 0 then .bytes else .unknown, digits.length + 3)
  | rest =>
    let more := rest.takeWhile (· != '\'')
    (.unknown, digits.length + more.length + 2 + (if more.length < rest.length then 1 else 0))

/-- Whether a character is a digit or separates digits. -/
def isDigitPart (c : Char) : Bool := c.isDigit || c == '_'

/-- The length of an exponent. -/
def exponentLength : List Char → Nat
  | e :: c :: cs =>
    let digits := if c == '+' || c == '-' then cs else c :: cs
    if (e == 'e' || e == 'E') && (digits.head?.map Char.isDigit).getD false then
      (cs.takeWhile isDigitPart).length + 2
    else 0
  | _ => 0

/-- The length of a number, apart from what may not stand behind one. -/
def numberLength (cs : List Char) : Nat :=
  let decimal :=
    let whole := (cs.takeWhile isDigitPart).length
    let fraction := match cs.drop whole with
      | '.' :: rest => (rest.takeWhile isDigitPart).length + 1
      | _ => 0
    whole + fraction + exponentLength (cs.drop (whole + fraction))
  match cs with
  | '0' :: x :: d :: rest =>
    if (x == 'x' || x == 'X') && isHexDigit d then
      (rest.takeWhile fun c => isHexDigit c || c == '_').length + 3
    else decimal
  | _ => decimal

/-- Whether each sign that separates digits stands between digits. -/
def isSeparatedWell (isDigit : Char → Bool) : Bool → List Char → Bool
  | _, [] => true
  | behindDigit, '_' :: cs =>
    behindDigit && (cs.head?.map isDigit).getD false && isSeparatedWell isDigit false cs
  | _, c :: cs => isSeparatedWell isDigit (isDigit c) cs

/-- A number, behind which no word may begin. -/
def scanNumber (cs : List Char) : TokenKind × Nat :=
  let size := numberLength cs
  let behind := ((cs.drop size).takeWhile isWordPart).length
  let hexadecimal := ((cs.drop 1).head?.map fun c => c == 'x' || c == 'X').getD false
  let isDigit := if hexadecimal then isHexDigit else Char.isDigit
  if behind = 0 ∧ isSeparatedWell isDigit false (cs.take size) then (.number, size)
  else (.unknown, size + behind)

/-- The length of the name of a parameter, and whether it is one; `named` says whether
a part of a name has been read. -/
def parameterLength (named : Bool) : List Char → Nat × Bool
  | ':' :: ':' :: cs =>
    let (n, ok) := parameterLength named cs
    (n + 2, ok)
  | c :: cs =>
    if isWordPart c then
      let (n, ok) := parameterLength true cs
      (n + 1, ok)
    else if c = '(' ∧ named then
      let inner := cs.takeWhile fun c => !isSpace c && c != ')'
      match cs.dropWhile fun c => !isSpace c && c != ')' with
      | ')' :: _ => (inner.length + 2, true)
      | _ => (inner.length + 1, false)
    else (0, named)
  | [] => (0, named)

/-- The symbols, longer ones before those that they begin with. -/
def symbols : List String :=
  ["->>", "->", "==", "<=", "<>", "<<", ">=", ">>", "!=", "||", "(", ")", ";", "+", "-", "*", "/",
    "%", "=", "<", ">", "|", "&", "~", ",", "."]

/-- A symbol. -/
def scanSymbol (cs : List Char) : TokenKind × Nat :=
  match symbols.find? fun symbol => symbol.toList.isPrefixOf cs with
  | some symbol => (.symbol, symbol.length)
  | none => (.unknown, 1)

/-- The token that a text begins with, which is not empty and does not begin with a
blank or a comment. -/
def scan : List Char → TokenKind × Nat
  | '\'' :: cs => scanQuoted .text '\'' cs
  | '"' :: cs => scanQuoted .quotation '"' cs
  | '`' :: cs => scanQuoted .quotedName '`' cs
  | '[' :: cs => scanBracketed cs
  | '?' :: cs => (.parameter, (cs.takeWhile Char.isDigit).length + 1)
  | 'x' :: '\'' :: cs | 'X' :: '\'' :: cs => scanBytes cs
  | '.' :: c :: cs => if c.isDigit then scanNumber ('.' :: c :: cs) else (.symbol, 1)
  | c :: cs =>
    if c.isDigit then scanNumber (c :: cs)
    else if c == ':' || c == '@' || c == '$' || c == '#' then
      let (n, ok) := parameterLength false cs
      (if ok then .parameter else .unknown, n + 1)
    else if isWordStart c then (.word, (cs.takeWhile isWordPart).length + 1)
    else scanSymbol (c :: cs)
  | [] => (.unknown, 0)

/-- The length of a blank or a comment that a text begins with. -/
def gapLength : List Char → Nat
  | '-' :: '-' :: cs => (cs.takeWhile (· != '\n')).length + 2
  | '/' :: '*' :: c :: cs => if cs.isEmpty then 3 else commentLength (c :: cs) + 2
  | '\ufeff' :: _ => 1
  | c :: _ => if isSpace c then 1 else 0
  | [] => 0

/-! ## Reading -/

/-- The end of a statement. -/
def Token.ending : Token := ⟨.ending, "", []⟩

/-- The tokens of a text, with an ending behind them; `fuel` is not less than the length
of the text.  A null ends the text. -/
def tokensFrom : Nat → List Char → List Token
  | 0, _ => [.ending]
  | fuel + 1, cs =>
    let gap := gapLength cs
    if 0 < gap then tokensFrom fuel (cs.drop gap)
    else if (cs.head?.getD '\x00') = '\x00' then [.ending]
    else
      let (kind, size) := scan cs
      let token : Token := ⟨kind, String.ofList (cs.take size), cs⟩
      if kind = .unknown then [token] else token :: tokensFrom fuel (cs.drop size)

/-- The tokens of a text, with an ending behind them. -/
def tokens (cs : List Char) : List Token := tokensFrom cs.length cs

namespace Token

/-- The text of a list of characters without the first and the last one, where a sign
that is written twice stands once. -/
def unquote (sign : Char) : List Char → List Char
  | a :: b :: cs =>
    if a = sign ∧ b = sign then sign :: unquote sign cs else a :: unquote sign (b :: cs)
  | cs => cs

/-- What a token in quotes holds; any other token is its own content. -/
def content (t : Token) : String :=
  let inner := (t.text.toList.drop 1).dropLast
  match t.kind, t.text.toList.head? with
  | .quotedName, some '[' => String.ofList inner
  | .quotedName, some sign | .quotation, some sign | .text, some sign =>
    String.ofList (unquote sign inner)
  | _, _ => t.text

/-- A word in upper case; the empty text for any other token. -/
def upperWord (t : Token) : String :=
  if t.kind = .word ∨ t.kind = .clause then String.ofList (t.text.toList.map Char.toUpper) else ""

/-- The keyword that a token may be; the empty text if it can be none. -/
def keyword (t : Token) : String :=
  if t.kind = .word ∧ clauseWords.contains t.upperWord then "" else t.upperWord

/-- Whether a token is a symbol. -/
def isSymbol (t : Token) (symbol : String) : Bool := t.kind == .symbol && t.text == symbol

/-- The fault of a statement in which a token may not stand. -/
def fault (t : Token) : Fault :=
  match t.kind with
  | .ending => .incomplete
  | .unknown => .unrecognized t.text
  | _ => .unexpected t.text

end Token

example : (tokens "a.b<>'it''s'--x\n?1".toList).map Token.content =
    ["a", ".", "b", "<>", "it's", "?1", ""] := by cbv

end Sql
end ReportQuery
