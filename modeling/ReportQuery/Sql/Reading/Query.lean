/-
# Reading queries

Operators bind in the order of the table, the loosest ones first; those of one line
are taken from the left.

| level | operators |
| ---: | --- |
| 1 | `OR` |
| 2 | `AND` |
| 3 | `NOT`, also in front of what is on the next line |
| 4 | `=`, `==`, `<>`, `!=`, `IS`, `IN`, `BETWEEN`, `ISNULL`, `NOTNULL` |
| 4 | `LIKE`, `GLOB`, `MATCH`, `REGEXP` |
| 5 | `<`, `<=`, `>`, `>=` |
| 7 | `&`, `|`, `<<`, `>>` |
| 8 | `+`, `-` |
| 9 | `*`, `/`, `%` |
| 10 | `||`, `->`, `->>` |
| 11 | `COLLATE` |
| 12 | a sign, `~` |

Every function here takes as `fuel` how deep the calls below it may go.  No call goes
deeper than by a few steps for each token, so `readStatement` gives more than enough.
-/

import ReportQuery.Sql.Reading.Basic

namespace ReportQuery
namespace Sql

open Reader

/-! ## Expressions and queries -/

mutual

/-- An expression whose operators are of a level or bind more tightly. -/
def expression : Nat → Nat → Reader Expr
  | 0, _ => refuse
  | fuel + 1, level => do
    let left ← operand fuel
    let found ← operators fuel level false left
    if level ≤ 1 && greatestDepth < found.depth then throw .tooDeep
    return found

/-- What operators make of a left operand.  The flag says that a conjunction ends the
expression, as it does behind `BETWEEN`. -/
def operators : Nat → Nat → Bool → Expr → Reader Expr
  | 0, _, _, _ => refuse
  | fuel + 1, level, ends, left => do
    let token ← peek
    match token.binary? with
    | some (own, operator) =>
      if own < level || (ends && operator == .and) then return left
      advance
      let right ← expression fuel (own + 1)
      operators fuel level ends (applied operator left right)
    | none =>
      if token.keyword == "COLLATE" && level ≤ 11 then
        advance
        match ← optionalName fun t => t.isIdentifier || t.kind == .text with
        | some collation => operators fuel level ends (.apply (.collate collation) [left])
        | none => refuse
      else if (token.isSymbol "->" || token.isSymbol "->>") && level ≤ 10 then
        advance
        let right ← expression fuel 11
        operators fuel level ends (plainCall token.text [left, right])
      else if token.keyword == "NOT" && level ≤ 3 then
        advance
        if ← acceptWord "NULL" then operators fuel level ends (.apply .notNull [left])
        else match ← predicate fuel true left with
          | some e => operators fuel level ends e
          | none => refuse
      else if level ≤ 4 then
        match ← comparison? fuel left with
        | some e => operators fuel level ends e
        | none => return left
      else return left

/-- What a test for null, or whether two values are the same, makes of a left operand;
and so any other predicate. -/
def comparison? : Nat → Expr → Reader (Option Expr)
  | 0, _ => refuse
  | fuel + 1, left => do
    if ← acceptWord "ISNULL" then return some (.apply .isNull [left])
    else if ← acceptWord "NOTNULL" then return some (.apply .notNull [left])
    else if ← acceptWord "IS" then
      let negated ← acceptWord "NOT"
      let distinct ← acceptWord "DISTINCT"
      if distinct then expectWord "FROM"
      let right ← expression fuel 5
      return some (sameness (negated == distinct) left right)
    else predicate fuel false left

/-- What a predicate that may be negated makes of a left operand. -/
def predicate : Nat → Bool → Expr → Reader (Option Expr)
  | 0, _, _ => refuse
  | fuel + 1, negated, left => do
    let token ← peek
    if patternWords.contains token.keyword then
      advance
      let pattern ← expression fuel 5
      let escape ← after "ESCAPE" do return [← expression fuel 5]
      return some (.negatedIf negated (plainCall token.text (pattern :: left :: escape)))
    else if ← acceptWord "BETWEEN" then
      let first ← operand fuel
      let least ← operators fuel 1 true first
      expectWord "AND"
      let largest ← expression fuel 5
      return some (.negatedIf negated (.apply .between [left, least, largest]))
    else if ← acceptWord "IN" then return some (.negatedIf negated (← membership fuel left))
    else return none

/-- Whether a value is among what stands behind `IN`. -/
def membership : Nat → Expr → Reader Expr
  | 0, _ => refuse
  | fuel + 1, left => do
    if ← acceptSymbol "(" then
      if (← peek).beginsQuery then
        let query ← select fuel
        expectSymbol ")"
        return .subquery .membership [left] query
      else if ← acceptSymbol ")" then return .truth false
      else
        let members ← listOf (expression fuel 1) fuel
        expectSymbol ")"
        return amongMembers left members
    else
      let origin ← table fuel false
      return .subquery .membership [left] (.allOf [.mk origin none {} [] []])

/-- A table, with its schema, and with arguments if it is called.  The flag says whether it
is called without arguments, too, if there are parentheses. -/
def table : Nat → Bool → Reader Origin
  | 0, _ => refuse
  | fuel + 1, callsBare => do
    let first ← name
    let second ← if ← acceptSymbol "." then some <$> name else pure none
    let (called, given) ←
      if ← acceptSymbol "(" then do
        let given ← arguments fuel
        expectSymbol ")"
        pure (callsBare || !given.isEmpty, given)
      else pure (false, [])
    return .table (second.map fun _ => first) (second.getD first) called given none

/-- The arguments up to a closing parenthesis. -/
def arguments : Nat → Reader (List Expr)
  | 0 => refuse
  | fuel + 1 => do
    if (← peek).isSymbol ")" then return []
    listOf (expression fuel 1) fuel

/-- An operand. -/
def operand : Nat → Reader Expr
  | 0 => refuse
  | fuel + 1 => do
    let token ← peek
    match token.sign? with
    | some sign =>
      advance
      return .apply sign [← operand fuel]
    | none =>
      match token.kind with
      | .number =>
        advance
        return .number token.text
      | .bytes =>
        advance
        return .literal (.blob (bytesOf (token.text.toList.drop 2)))
      | .parameter => return .parameter (← parameter)
      | .text =>
        if (← ahead 1).isSymbol "." then qualified fuel
        else
          advance
          return .literal (.text token.content)
      | .symbol =>
        if ← acceptSymbol "(" then parenthesized fuel else refuse
      | _ =>
        match token.keyword with
        | "NULL" =>
          advance
          return .literal .null
        | "NOT" =>
          advance
          return .apply .not [← expression fuel 3]
        | "CASE" =>
          advance
          choice fuel
        | "CAST" =>
          advance
          expectSymbol "("
          let e ← expression fuel 1
          expectWord "AS"
          let words ← typeName fuel
          expectSymbol ")"
          return .apply (.cast (.ofType (" ".intercalate words))) [e]
        | "EXISTS" =>
          advance
          expectSymbol "("
          let query ← select fuel
          expectSymbol ")"
          return .subquery .existence [] query
        | "RAISE" =>
          advance
          expectSymbol "("
          raising
        | "CURRENT_DATE" | "CURRENT_TIME" | "CURRENT_TIMESTAMP" =>
          advance
          return plainCall token.text []
        | _ =>
          if !token.isOperandName then refuse
          else if (← ahead 1).isSymbol "(" then
            advance
            advance
            call fuel token.content
          else qualified fuel

/-- What stands in parentheses: a query, an expression, or several of them. -/
def parenthesized : Nat → Reader Expr
  | 0 => refuse
  | fuel + 1 => do
    if (← peek).beginsQuery then
      let query ← select fuel
      expectSymbol ")"
      return .subquery .value [] query
    match ← listOf (expression fuel 1) fuel with
    | [e] =>
      expectSymbol ")"
      return e
    | members =>
      expectSymbol ")"
      return .apply .row members

/-- A column, with its table and schema. -/
def qualified : Nat → Reader Expr
  | 0 => refuse
  | _ + 1 => do
    let quotation := (← peek).kind == .quotation
    let first ← name
    if !(← acceptSymbol ".") then return .column ⟨none, none, first, quotation⟩
    let second ← name
    if !(← acceptSymbol ".") then return .column ⟨none, some first, second, false⟩
    return .column ⟨some first, some second, ← name, false⟩

/-- A function behind its name and the opening parenthesis. -/
def call : Nat → String → Reader Expr
  | 0, _ => refuse
  | fuel + 1, function => do
    let (distinct, given, order) ←
      if ← acceptSymbol "*" then pure (false, [], [])
      else do
        let distinct ← distinctness
        let given ← if (← peek).keyword == "ORDER" then pure [] else arguments fuel
        pure (distinct, given, ← after "ORDER" (terms fuel))
    expectSymbol ")"
    let filter ← after "FILTER" do
      expectSymbol "("
      expectWord "WHERE"
      let condition ← expression fuel 1
      expectSymbol ")"
      return [condition]
    let around ← after "OVER" do
      if ← acceptSymbol "(" then return [← window fuel]
      return [.named (← name)]
    liftM (callOf function distinct given order filter around)

/-- A window behind the opening parenthesis. -/
def window : Nat → Reader Window
  | 0 => refuse
  | fuel + 1 => do
    let base ← optionalName fun t =>
      t.isName && !(["PARTITION", "ORDER", "ROWS", "RANGE", "GROUPS"].contains t.keyword)
    let agreeing ← after "PARTITION" do
      expectWord "BY"
      listOf (expression fuel 1) fuel
    let order ← after "ORDER" (terms fuel)
    let frame ← frame fuel
    expectSymbol ")"
    return .mk base agreeing order frame

/-- The frame of a window, if there is one. -/
def frame : Nat → Reader (List WindowFrame)
  | 0 => refuse
  | fuel + 1 => do
    let unit ←
      if ← acceptWord "ROWS" then pure FrameUnit.rows
      else if ← acceptWord "RANGE" then pure .range
      else if ← acceptWord "GROUPS" then pure .groups
      else return []
    let (start, ending) ←
      if ← acceptWord "BETWEEN" then do
        let start ← frameBound fuel "PRECEDING"
        expectWord "AND"
        pure (start, ← frameBound fuel "FOLLOWING")
      else do
        pure (← frameBound fuel "PRECEDING", .currentRow)
    let exclusion ← excluded
    return [← liftM (WindowFrame.of unit start ending exclusion)]

/-- A bound of a frame; where it is unbounded, it is so to one side only. -/
def frameBound : Nat → String → Reader FrameBound
  | 0, _ => refuse
  | fuel + 1, side => do
    if ← acceptWord "UNBOUNDED" then
      expectWord side
      return .unbounded
    if ← acceptWord "CURRENT" then
      expectWord "ROW"
      return .currentRow
    let offset ← expression fuel 1
    if ← acceptWord "PRECEDING" then return .preceding (frameOffset offset)
    expectWord "FOLLOWING"
    return .following (frameOffset offset)

/-- A choice behind `CASE`. -/
def choice : Nat → Reader Expr
  | 0 => refuse
  | fuel + 1 => do
    let base ← if (← peek).keyword == "WHEN" then pure [] else do
      pure [← expression fuel 1]
    let branches ← branches fuel
    let last ← after "ELSE" do return [← expression fuel 1]
    expectWord "END"
    return .apply (.choose (!base.isEmpty) (!last.isEmpty)) (base ++ branches ++ last)

/-- The conditions of a choice, each with its result. -/
def branches : Nat → Reader (List Expr)
  | 0 => refuse
  | fuel + 1 => do
    expectWord "WHEN"
    let condition ← expression fuel 1
    expectWord "THEN"
    let result ← expression fuel 1
    if (← peek).keyword == "WHEN" then return condition :: result :: (← branches fuel)
    return [condition, result]

/-- The terms of an order behind its first keyword. -/
def terms : Nat → Reader (List Term)
  | 0 => refuse
  | fuel + 1 => do
    expectWord "BY"
    listOf (term fuel) fuel

/-- A term of an order. -/
def term : Nat → Reader Term
  | 0 => refuse
  | fuel + 1 => do
    let key ← expression fuel 1
    let descending ← acceptWord "DESC"
    if !descending then
      let _ ← acceptWord "ASC"
    if ← acceptWord "NULLS" then
      if ← acceptWord "FIRST" then return .mk key descending true
      expectWord "LAST"
      return .mk key descending false
    return .mk key descending (!descending)

/-- A query, in front of which tables may be defined. -/
def select : Nat → Reader Select
  | 0 => refuse
  | fuel + 1 => do
    let definitions ←
      if ← acceptWord "WITH" then do
        let _ ← acceptWord "RECURSIVE"
        definitions fuel []
      else pure []
    let parts ← parts fuel .union
    liftM (Select.ofParts definitions parts)

/-- Definitions of tables, behind those of some names. -/
def definitions : Nat → List String → Reader (List Definition)
  | 0, _ => refuse
  | fuel + 1, known => do
    let table ← name
    let columns ← if (← peek).isSymbol "(" then definedColumns fuel else pure []
    expectWord "AS"
    if ← acceptWord "NOT" then expectWord "MATERIALIZED"
    else
      let _ ← acceptWord "MATERIALIZED"
    expectSymbol "("
    let query ← select fuel
    expectSymbol ")"
    if known.any (sameName table) then throw (.duplicateDefinition table)
    let definition := Definition.mk table columns query
    if ← acceptSymbol "," then return definition :: (← definitions fuel (table :: known))
    return [definition]

/-- A query up to an operator between queries, and those behind it. -/
def parts : Nat → SetOperator → Reader (List Part)
  | 0, _ => refuse
  | fuel + 1, operator => do
    let part ← part fuel operator
    match ← setOperator? with
    | some next => return part :: (← parts fuel next)
    | none => return [part]

/-- A query up to an operator between queries. -/
def part : Nat → SetOperator → Reader Part
  | 0, _ => refuse
  | fuel + 1, operator => do
    if ← acceptWord "VALUES" then
      let rows ← listOf (writtenRow fuel) fuel
      return ⟨operator, armsOfRows operator rows, [], []⟩
    expectWord "SELECT"
    let distinct ← distinctness
    let columns ← listOf (column fuel) fuel
    let sources ← after "FROM" (sources fuel none)
    let condition ← after "WHERE" do return (← expression fuel 1).conjuncts
    let groups ← after "GROUP" do
      expectWord "BY"
      listOf (expression fuel 1) fuel
    let having ← after "HAVING" do return [← expression fuel 1]
    let windows ← after "WINDOW" (namedWindows fuel [])
    let order ← after "ORDER" (terms fuel)
    let limit ← after "LIMIT" (limits fuel)
    return ⟨operator, [.mk operator distinct columns sources condition groups having windows],
      order, limit⟩

/-- The windows of an arm, behind some others. -/
def namedWindows : Nat → List NamedWindow → Reader (List NamedWindow)
  | 0, _ => refuse
  | fuel + 1, known => do
    let given ← name
    expectWord "AS"
    expectSymbol "("
    let window ← window fuel
    let known ← liftM (addWindow known given window)
    if ← acceptSymbol "," then namedWindows fuel known else return known

/-- A row that is written out. -/
def writtenRow : Nat → Reader (List Expr)
  | 0 => refuse
  | fuel + 1 => do
    expectSymbol "("
    let row ← listOf (expression fuel 1) fuel
    expectSymbol ")"
    return row

/-- The number of rows, and of the rows before them. -/
def limits : Nat → Reader (List Expr)
  | 0 => refuse
  | fuel + 1 => do
    let first ← expression fuel 1
    if ← acceptWord "OFFSET" then return [first, ← expression fuel 1]
    if ← acceptSymbol "," then return [← expression fuel 1, first]
    return [first]

/-- A result column. -/
def column : Nat → Reader Column
  | 0 => refuse
  | fuel + 1 => do
    let token ← peek
    if ← acceptSymbol "*" then return .all none
    if token.isName && (← ahead 1).isSymbol "." && (← ahead 2).isSymbol "*" then
      advance
      advance
      advance
      return .all (some token.content)
    let e ← expression fuel 1
    let written := writtenBetween token (← peek)
    if ← acceptWord "AS" then return .value e (some (← name)) (some written)
    return .value e (← optionalName Token.isGivenName) (some written)

/-- The sources of rows, the first of which is joined in some way to others before it. -/
def sources : Nat → Option Join → Reader (List Source)
  | 0, _ => refuse
  | fuel + 1, join => do
    let first ← source fuel join
    match ← joinOperator? with
    | some next => return first ++ (← sources fuel (some next))
    | none => return first

/-- A source of rows; several ones in parentheses are one source, and they are taken
out of the parentheses where that says the same. -/
def source : Nat → Option Join → Reader (List Source)
  | 0, _ => refuse
  | fuel + 1, join => do
    let enclosed := (← peek).isSymbol "("
    let inner ← innerSources fuel
    let given ← if ← acceptWord "AS" then some <$> name else optionalName fun t =>
      t.isIdentifier || t.kind == .text
    let inner ← match inner with
      | [.mk (.table schema name false _ _) none _ [] []] => do
        pure [Source.mk (.table schema name false [] (← indexed)) none {} [] []]
      | inner => pure inner
    let keyword := (← peek).keyword
    let condition ← after "ON" do return [← expression fuel 1]
    let common ← if condition.isEmpty then after "USING" (nameList fuel) else pure []
    if join.isNone && !(condition.isEmpty && common.isEmpty) then
      unless (← peek).endsSource do refuse
      throw (.joinWithoutTable keyword)
    let keepsName := !enclosed || join.isNone
    let join := join.getD {}
    match inner with
    | [.mk origin name _ [] []] =>
      let name := given.orElse fun _ => if keepsName then name else none
      return [.mk origin name join condition common]
    | .mk origin name _ first firstCommon :: more =>
      if join == {} && given.isNone && common.isEmpty then
        return .mk origin name join (first ++ condition) firstCommon :: more
      return [.mk (.rows (.allOf inner)) given join condition common]
    | [] => return []

/-- What stands before the name of a source: a table, a query, or sources in parentheses. -/
def innerSources : Nat → Reader (List Source)
  | 0 => refuse
  | fuel + 1 => do
    if ← acceptSymbol "(" then
      if (← peek).beginsQuery then
        let query ← select fuel
        expectSymbol ")"
        return [.mk (.rows query) none {} [] []]
      let inner ← sources fuel none
      expectSymbol ")"
      return inner
    let origin ← table fuel true
    return [.mk origin none {} [] []]

end

end Sql
end ReportQuery
