/-
# Pieces of statements

What the tokens of a statement say by themselves, and how the pieces that have been read
are put together: operators with their operands, functions, joins, and queries of several
parts.
-/

import ReportQuery.Sql.Reader
import ReportQuery.Sql.Window
import ReportQuery.Text.Cut

namespace ReportQuery
namespace Sql

open Reader

/-! ## Words and numbers -/

/-- The operator that a token stands for between two operands, with its level. -/
def Token.binary? (t : Token) : Option (Nat × Operator) :=
  match t.kind, t.text with
  | .symbol, "=" | .symbol, "==" => some (4, .equal)
  | .symbol, "<>" | .symbol, "!=" => some (4, .unequal)
  | .symbol, "<" => some (5, .less)
  | .symbol, "<=" => some (5, .atMost)
  | .symbol, ">" => some (5, .greater)
  | .symbol, ">=" => some (5, .atLeast)
  | .symbol, "&" => some (7, .bitAnd)
  | .symbol, "|" => some (7, .bitOr)
  | .symbol, "<<" => some (7, .shiftLeft)
  | .symbol, ">>" => some (7, .shiftRight)
  | .symbol, "+" => some (8, .add)
  | .symbol, "-" => some (8, .subtract)
  | .symbol, "*" => some (9, .multiply)
  | .symbol, "/" => some (9, .divide)
  | .symbol, "%" => some (9, .remainder)
  | .symbol, "||" => some (10, .concat)
  | .word, _ =>
    match t.keyword with
    | "OR" => some (1, .or)
    | "AND" => some (2, .and)
    | _ => none
  | _, _ => none

/-- The sign that a token is in front of an operand. -/
def Token.sign? (t : Token) : Option Operator :=
  match t.kind, t.text with
  | .symbol, "-" => some .negate
  | .symbol, "+" => some .keep
  | .symbol, "~" => some .invert
  | _, _ => none

/-- Whether a token begins a query. -/
def Token.beginsQuery (t : Token) : Bool := ["SELECT", "VALUES", "WITH"].contains t.keyword

/-- Whether a token may follow a source. -/
def Token.endsSource (t : Token) : Bool :=
  t.kind == .ending || [")", ",", ";"].any t.isSymbol ||
    (joinWords ++ ["JOIN", "WHERE", "GROUP", "HAVING", "WINDOW", "ORDER", "LIMIT", "UNION",
      "EXCEPT", "INTERSECT"]).contains t.keyword

/-- The affinity of a declared type. -/
def Affinity.ofType (type : String) : Affinity :=
  let cs := type.toList.map Char.toUpper
  let holds := fun word : String => (Text.cutAtPhrase? word.toList cs).isSome
  if holds "INT" then .integer
  else if ["CHAR", "CLOB", "TEXT"].any holds then .text
  else if holds "BLOB" then .blob
  else if ["REAL", "FLOA", "DOUB"].any holds then .real
  else .numeric

/-- The bytes of a literal, whose digits stand between `x'` and `'`. -/
def bytesOf : List Char → List UInt8
  | a :: b :: cs =>
    match Text.hexValue? a, Text.hexValue? b with
    | some high, some low => UInt8.ofNat (16 * high + low) :: bytesOf cs
    | _, _ => []
  | _ => []

/-- The expression that is the opposite of another one, if it is to be. -/
def Expr.negatedIf (negated : Bool) (e : Expr) : Expr :=
  match negated, e with
  | false, e => e
  | true, .truth value => .truth !value
  | true, e => .apply .not [e]

/-- Whether an expression is false as it is written. -/
def Expr.isFalse : Expr → Bool
  | .truth value => !value
  | .number digits => match digits.toList with
    | '0' :: _ :: digits => digits.all (· == '0') && digits.length < 10
    | ['0'] => true
    | _ => false
  | _ => false

/-- The conditions that a condition is made of, as far as they are joined from the left. -/
def Expr.conjuncts : Expr → List Expr
  | .apply .and [a, b] => a.conjuncts ++ [b]
  | e => [e]

/-- An operator with its operands.  Of a conjunction with what is false nothing else is kept, not
even what is wrong with it. -/
def applied (operator : Operator) (left right : Expr) : Expr :=
  if operator == .and && (left.isFalse || right.isFalse) then .number "0"
  else .apply operator [left, right]

mutual

/-- Whether an expression has a value of its own. -/
def Expr.isConstant : Expr → Bool
  | .literal _ | .truth _ | .number _ | .parameter _ => true
  | .column n => n.table.isNone && (sameName n.column "true" || sameName n.column "false")
  | .apply _ operands => areConstant operands
  | .call .. | .subquery .. | .raised => false

/-- Whether all of some expressions have values of their own. -/
def areConstant : List Expr → Bool
  | [] => true
  | e :: es => e.isConstant && areConstant es

end

/-- How deep an expression may be. -/
def greatestDepth : Nat := 1000

mutual

/-- How many expressions stand within each other, one of them this one; queries are not looked
into. -/
def Expr.depth : Expr → Nat
  | .apply _ operands => greatestDepthOf operands + 1
  | .call _ _ arguments _ _ _ => greatestDepthOf arguments + 1
  | .subquery _ tested _ => greatestDepthOf tested + 1
  | _ => 1

/-- The depth of the deepest one of some expressions. -/
def greatestDepthOf : List Expr → Nat
  | [] => 0
  | e :: es => max e.depth (greatestDepthOf es)

end

/-- Whether a value is among members.  A query as the only member stands for its rows, and
with a single constant the value is compared. -/
def amongMembers (left : Expr) (members : List Expr) : Expr :=
  match left, members with
  | left, [.subquery .value _ query] => .subquery .membership [left] query
  | .apply .row row, members => .apply .among (.apply .row row :: members)
  | left, [e] =>
    if e.isConstant then .apply .equal [left, .apply .keep [e]] else .apply .among [left, e]
  | left, members => .apply .among (left :: members)

/-- Whether two values are the same, or that they are not; a test for null if one is written. -/
def sameness (wanted : Bool) (left : Expr) : Expr → Expr
  | .literal .null => .apply (if wanted then .isNull else .notNull) [left]
  | right => .apply (if wanted then .same else .different) [left, right]

/-! ## Functions and windows -/

/-- The most arguments of a function. -/
def mostArguments : Nat := 127

/-- A call of a function.  Without arguments there is nothing to order. -/
def callOf (function : String) (distinct : Bool) (arguments : List Expr) (order : List Term)
    (filter : List Expr) (around : List Window) : Except Fault Expr :=
  if mostArguments < arguments.length then .error (.tooManyArguments function)
  else if distinct && !around.isEmpty then .error .distinctWindow
  else if arguments.isEmpty then .ok (.call function distinct [] [] filter around)
  else if !order.isEmpty && !around.isEmpty then .error (.orderOnScalar function)
  else .ok (.call function distinct arguments order filter around)

/-- A call of a function with nothing but arguments. -/
def plainCall (function : String) (arguments : List Expr) : Expr :=
  .call function false arguments [] [] []

/-- An offset of a frame; what is no constant counts for null. -/
def frameOffset (e : Expr) : Expr := if e.isConstant then e else .literal .null

/-- A frame, which may not end before it begins. -/
def WindowFrame.of (unit : FrameUnit) (start ending : FrameBound) (exclusion : Exclusion) :
    Except Fault WindowFrame :=
  match start, ending with
  | .currentRow, .preceding _ | .following _, .preceding _ | .following _, .currentRow =>
    .error .unsupportedFrame
  | _, _ => .ok (.mk unit start ending exclusion)

/-- Adds the window that has been read to those of an arm.  It may be based on those before it. -/
def addWindow (windows : List NamedWindow) (name : String) (window : Window) :
    Except Fault (List NamedWindow) :=
  if windows.isEmpty then .ok [.mk name window]
  else (window.basedOn windows).map fun window => windows ++ [.mk name window]

/-! ## Joins -/

/-- How the words in front of `JOIN` say that a table is joined, if they can stand together. -/
def Join.ofWords? (words : List String) : Option Join :=
  let said := words.map fun word => String.ofList (word.toList.map Char.toUpper)
  let has := said.contains
  let left := has "LEFT" || has "FULL"
  let right := has "RIGHT" || has "FULL"
  if said.any (fun word => !joinWords.contains word) ||
      ((has "INNER" || has "CROSS") && (left || right || has "OUTER")) ||
      (has "OUTER" && !left && !right) then none
  else some ⟨has "NATURAL", left, right⟩

/-- Takes names up to `JOIN`, `count` at most, and then `JOIN`. -/
def joinModifiers : Nat → Reader (List String)
  | 0 => do
    expectWord "JOIN"
    return []
  | count + 1 => do
    if ← acceptWord "JOIN" then return []
    let token ← peek
    let _ ← name
    return token.text :: (← joinModifiers count)

/-- Takes what joins a source to the next one, if there is a next one. -/
def joinOperator? : Reader (Option Join) := do
  let token ← peek
  if token.isSymbol "," || token.keyword == "JOIN" then
    advance
    return some {}
  else if joinWords.contains token.keyword then
    advance
    let words := token.text :: (← joinModifiers 2)
    match Join.ofWords? words with
    | some join => return some join
    | none => throw (.unknownJoin (" ".intercalate words))
  else return none

/-! ## Compound queries -/

/-- A query that has not been joined to others yet, with its own order and limit. -/
structure Part where
  operator : SetOperator
  arms : List Arm
  order : List Term
  limit : List Expr

/-- The clause of a part that belongs at the end of the whole query. -/
def Part.misplaced? (p : Part) : Option String :=
  if !p.order.isEmpty then some "ORDER BY"
  else if !p.limit.isEmpty then some "LIMIT"
  else none

/-- The last clause that stands before an operator, with that operator. -/
def misplacedClause? : List Part → Option (String × SetOperator)
  | first :: next :: more =>
    (misplacedClause? (next :: more)).orElse fun _ =>
      first.misplaced?.map fun clause => (clause, next.operator)
  | _ => none

/-- The most parts of a query, unless rows that are written out come last. -/
def mostArms : Nat := 500

/-- The query that parts make, whose last one has the order and the limit. -/
def Select.ofParts (definitions : List Definition) (parts : List Part) : Except Fault Select :=
  match misplacedClause? parts, parts.getLast? with
  | some (clause, operator), _ => .error (.misplacedClause clause operator.keywords)
  | none, some last =>
    let arms := parts.flatMap Part.arms
    if mostArms < arms.length && !last.arms.all Arm.isRow then .error .tooManyArms
    else .ok (.mk definitions arms last.order last.limit)
  | none, none => .ok (.mk definitions [] [] [])

/-- All rows of sources. -/
def Select.allOf (sources : List Source) : Select :=
  .ofArm (.mk .union false [.all none] sources [] [] [] [])

/-- Takes an operator between queries, if there is one. -/
def setOperator? : Reader (Option SetOperator) := do
  if ← acceptWord "UNION" then
    if ← acceptWord "ALL" then return some .unionAll
    return some .union
  else if ← acceptWord "INTERSECT" then return some .intersect
  else if ← acceptWord "EXCEPT" then return some .except
  else return none

/-- The arms of rows that are written out. -/
def armsOfRows (operator : SetOperator) : List (List Expr) → List Arm
  | [] => []
  | row :: rows =>
    let columns := row.map fun e => Column.value e none none
    .mk operator false columns [] [] [] [] [] :: armsOfRows .unionAll rows

/-- The written form of what stands between two tokens. -/
def writtenBetween (first next : Token) : String :=
  let cs := first.source.take (first.source.length - next.source.length)
  String.ofList (cs.reverse.dropWhile isSpace).reverse

/-- Takes the word that says whether equal rows are given once. -/
def distinctness : Reader Bool := do
  if ← acceptWord "DISTINCT" then return true
  let _ ← acceptWord "ALL"
  return false

/-- Takes a number with or without a sign, as in the size of a type. -/
def signedNumber : Reader Unit := do
  let token ← peek
  if token.isSymbol "+" || token.isSymbol "-" then advance
  if (← peek).kind == .number then advance else refuse

/-- Takes the words of a type. -/
def typeWords : Nat → Reader (List String)
  | 0 => refuse
  | fuel + 1 => do
    match ← optionalName fun t => t.isIdentifier || t.kind == .text with
    | some word => return word :: (← typeWords fuel)
    | none => return []

/-- Takes the words of a type, and its size; a type may also be left out. -/
def typeName (fuel : Nat) : Reader (List String) := do
  let words ← typeWords fuel
  if words.isEmpty then return words
  if ← acceptSymbol "(" then
    signedNumber
    if ← acceptSymbol "," then signedNumber
    expectSymbol ")"
  return words

/-- Takes the next token if it is one of some keywords. -/
def acceptOneOf (words : List String) : Reader Bool := do
  let found := words.contains (← peek).keyword
  if found then advance
  return found

/-- Names in parentheses. -/
def nameList (fuel : Nat) : Reader (List String) := do
  expectSymbol "("
  let names ← listOf name fuel
  expectSymbol ")"
  return names

/-- The name of a column that a definition gives, behind which nothing may be said of it. -/
def definedColumn : Reader String := do
  let column ← name
  let collated ← acceptWord "COLLATE"
  if collated then
    if (← optionalName fun t => t.isIdentifier || t.kind == .text).isNone then refuse
  let ordered ← acceptOneOf ["ASC", "DESC"]
  if collated || ordered then throw (.wordsBehindColumn column)
  return column

/-- The names of columns that a definition gives. -/
def definedColumns (fuel : Nat) : Reader (List String) := do
  expectSymbol "("
  let columns ← listOf definedColumn fuel
  expectSymbol ")"
  return columns

/-- The index by which a table is to be read. -/
def indexed : Reader (Option String) := do
  if ← acceptWord "INDEXED" then
    expectWord "BY"
    return some (← name)
  if ← acceptWord "NOT" then expectWord "INDEXED"
  return none

/-- The rows that are left out of a frame. -/
def excluded : Reader Exclusion := do
  if !(← acceptWord "EXCLUDE") then return .nothing
  if ← acceptWord "GROUP" then return .group
  if ← acceptWord "TIES" then return .ties
  if ← acceptWord "CURRENT" then
    expectWord "ROW"
    return .currentRow
  expectWord "NO"
  expectWord "OTHERS"
  return .noOthers

/-- What ends a trigger, behind the opening parenthesis. -/
def raising : Reader Expr := do
  if !(← acceptWord "IGNORE") then
    unless ← acceptOneOf ["ROLLBACK", "ABORT", "FAIL"] do refuse
    expectSymbol ","
    let _ ← name
  expectSymbol ")"
  return .raised

end Sql
end ReportQuery
