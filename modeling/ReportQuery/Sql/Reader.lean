/-
# Reading along tokens

What reads a statement takes its tokens from the left, and numbers its parameters as
it meets them.  It looks at a token before it takes it, and the first token that may
not stand where it does is the fault of the statement.
-/

import ReportQuery.Decimal.Reading
import ReportQuery.Sql.Word

namespace ReportQuery
namespace Sql

/-- What is left of a statement, and the parameters met so far: the name of each, in
the order of their numbers.  A parameter that is written `?` has no name. -/
structure Input where
  rest : List Token
  parameters : List (Option String) := []

/-- A reader of a part of a statement. -/
abbrev Reader := StateT Input (Except Fault)

namespace Reader

/-- The token so many tokens ahead. -/
def ahead (distance : Nat) : Reader Token := return (← get).rest[distance]?.getD .ending

/-- The next token. -/
def peek : Reader Token := ahead 0

/-- Takes the next token. -/
def advance : Reader Unit := modify fun input => { input with rest := input.rest.tail }

/-- Fails at the next token. -/
def refuse {α : Type} : Reader α := do throw (← peek).fault

/-- Takes the next token if it is a symbol. -/
def acceptSymbol (symbol : String) : Reader Bool := do
  let found := (← peek).isSymbol symbol
  if found then advance
  return found

/-- Takes a symbol, which has to be next. -/
def expectSymbol (symbol : String) : Reader Unit := do
  unless ← acceptSymbol symbol do refuse

/-- Takes the next token if it is a keyword. -/
def acceptWord (word : String) : Reader Bool := do
  let found := (← peek).keyword == word
  if found then advance
  return found

/-- Takes a keyword, which has to be next. -/
def expectWord (word : String) : Reader Unit := do
  unless ← acceptWord word do refuse

/-- Takes a name, which has to be next. -/
def name : Reader String := do
  let token ← peek
  if token.isName then
    advance
    return token.content
  else refuse

/-- Takes the next token as a name if it is one of some kind. -/
def optionalName (isWanted : Token → Bool) : Reader (Option String) := do
  let token ← peek
  if isWanted token then
    advance
    return some token.content
  else return none

/-- Members with commas between them, `fuel` at most. -/
def listOf {α : Type} (member : Reader α) : Nat → Reader (List α)
  | 0 => refuse
  | fuel + 1 => do
    let first ← member
    if ← acceptSymbol "," then return first :: (← listOf member fuel)
    else return [first]

/-- What follows a keyword; empty if the keyword is not next. -/
def after {α : Type} (word : String) (part : Reader (List α)) : Reader (List α) := do
  if ← acceptWord word then part else return []

/-! ## Parameters -/

/-- The largest number of a parameter. -/
def largestParameter : Nat := 32766

/-- The number of a parameter, and the parameters known then. -/
def numberParameter (text : String) (known : List (Option String)) :
    Except Fault (Nat × List (Option String)) :=
  match text.toList with
  | ['?'] => .ok (known.length + 1, known ++ [none])
  | '?' :: digits =>
    let number := Decimal.ofDigits digits
    if number = 0 ∨ largestParameter < number then .error .parameterNumber
    else
      let known := known ++ List.replicate (number - known.length) none
      .ok (number, known.modify (number - 1) fun name => name.orElse fun _ => some text)
  | _ =>
    match known.findIdx? (· == some text) with
    | some index => .ok (index + 1, known)
    | none => .ok (known.length + 1, known ++ [some text])

/-- Takes a parameter, and gives its number. -/
def parameter : Reader Nat := do
  let token ← peek
  let (number, known) ← numberParameter token.text (← get).parameters
  advance
  modify fun input => { input with parameters := known }
  return number

end Reader

end Sql
end ReportQuery
