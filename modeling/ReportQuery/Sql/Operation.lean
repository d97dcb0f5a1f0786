/-
# What operators mean

The meaning of an operator, made of those of its operands.  Comparisons take the collation
and the affinity from either side, and may be of rows.
-/

import ReportQuery.Sql.Progress

namespace ReportQuery
namespace Sql

/-! ## Comparisons -/

/-- How two meanings are compared: what either says itself comes before what they are
made of. -/
structure Comparer where
  left : Meaning
  right : Meaning
  affinity : Affinity
  collation : Collation

/-- How two meanings are compared. -/
def Comparer.of (left right : Meaning) : Settling Comparer := do
  let said := [left, right].filterMap Meaning.collating
  let collation ← collationOf ((said.find? Collating.explicit).orElse fun _ => said.head?)
  return ⟨left, right, left.affinity.common right.affinity, collation⟩

/-- The result of a comparison, unknown if a value is null. -/
def Comparer.test (c : Comparer) (test : Ordering → Bool) (frames : List Frame) :
    Except Fault (Option Bool) := do
  let a ← c.left.value frames
  let b ← c.right.value frames
  return comparison test c.affinity c.collation a b

/-- Whether two values are the same, also if they are null. -/
def Comparer.same (c : Comparer) (frames : List Frame) : Except Fault Bool := do
  let a ← c.left.value frames
  let b ← c.right.value frames
  if a = .null ∨ b = .null then return a = .null ∧ b = .null
  return compareAs c.affinity c.collation a b = .eq

/-- Whether rows are equal: unknown if that hangs on a null. -/
def rowsEqual (cs : List Comparer) (frames : List Frame) : Except Fault (Option Bool) :=
  cs.foldrM (fun c known => return bothTrue (← c.test (· == .eq) frames) known) (some true)

/-- Whether the first member that differs is on the wanted side; `ending` tells what holds
of rows that are equal. -/
def rowsOrdered (wanted : Ordering) (ending : Bool) (frames : List Frame) :
    List Comparer → Except Fault (Option Bool)
  | [] => .ok (some ending)
  | c :: cs => do
    let ahead ← c.test (· == wanted) frames
    let equal ← c.test (· == .eq) frames
    return oneTrue ahead (bothTrue equal (← rowsOrdered wanted ending frames cs))

/-- What an operator that compares makes of rows. -/
def compareRows (operator : Operator) (cs : List Comparer) (frames : List Frame) :
    Except Fault Value :=
  match operator with
  | .equal => Value.ofTruth? <$> rowsEqual cs frames
  | .unequal => (fun known => Value.ofTruth? (known.map not)) <$> rowsEqual cs frames
  | .less => Value.ofTruth? <$> rowsOrdered .lt false frames cs
  | .atMost => Value.ofTruth? <$> rowsOrdered .lt true frames cs
  | .greater => Value.ofTruth? <$> rowsOrdered .gt false frames cs
  | .atLeast => Value.ofTruth? <$> rowsOrdered .gt true frames cs
  | .same => do return .ofTruth (← cs.allM fun c => c.same frames)
  | .different => do return .ofTruth !(← cs.allM fun c => c.same frames)
  | _ => .ok .null

/-- The meaning of a comparison of rows of one length. -/
def comparisonMeaning (operator : Operator) (left right : List Meaning) : Settling Meaning := do
  let cs ← (left.zip right).mapM fun (a, b) => Comparer.of a b
  return { Meaning.ofParts (left ++ right) (compareRows operator cs) with collating := none }

/-! ## Operators -/

/-- The meaning of a conjunction or disjunction, whose second operand is left alone where
the first one settles it. -/
def connective (settled : Bool) (join : Option Bool → Option Bool → Option Bool)
    (left right : Meaning) : Meaning :=
  .ofParts [left, right] fun frames => do
    let a := (← left.value frames).truth?
    if a = some settled then return .ofTruth settled
    return .ofTruth? (join a (← right.value frames).truth?)

/-- The result of a choice between conditions, each with its result. -/
def chosen (holds : Meaning → List Frame → Except Fault Bool) (last : Option Meaning)
    (frames : List Frame) : List (Meaning × Meaning) → Except Fault Value
  | [] => (last.map fun m => m.value frames).getD (.ok .null)
  | (condition, result) :: branches => do
    if ← holds condition frames then result.value frames
    else chosen holds last frames branches

/-- Conditions with their results, from a list in which they alternate. -/
def pairsOf {α : Type} : List α → List (α × α)
  | a :: b :: more => (a, b) :: pairsOf more
  | _ => []

/-- The meaning of a choice. -/
def choiceMeaning (base last : Bool) (operands : List Meaning) : Settling Meaning := do
  let value := if base then operands.head? else none
  let rest := if base then operands.tail else operands
  let ending := if last then rest.getLast? else none
  let branches := pairsOf (if last then rest.dropLast else rest)
  let holds := fun (m : Meaning) frames => do return (← m.value frames).truth? = some true
  match value with
  | none =>
    return { Meaning.ofParts operands fun frames => chosen holds ending frames branches with
      classes := classesOf branches ending }
  | some value =>
    let branches ← branches.mapM fun (condition, result) => do
      let c ← Comparer.of value condition
      return ({ condition with value := fun frames => do
        return .ofTruth? (← c.test (· == .eq) frames) }, result)
    return { Meaning.ofParts operands fun frames => chosen holds ending frames branches with
      classes := classesOf branches ending }
where
  /-- The classes of the results of a choice. -/
  classesOf (branches : List (Meaning × Meaning)) (last : Option Meaning) : ValueClasses :=
    (branches.map (·.2) ++ last.toList).foldl (fun known m => known.or m.classes) {}

/-- The meaning of a test whether a value is among others. -/
def amongMeaning (value : Meaning) (others : List Meaning) : Settling Meaning := do
  let cs ← others.mapM fun m => Comparer.of value { m with affinity := .none, collating := none }
  return .ofParts (value :: others) fun frames => do
    let found ← cs.foldlM (fun known c => return oneTrue known (← c.test (· == .eq) frames))
      (some false)
    return .ofTruth? found

/-- The digits of a number as a value, or those of its opposite. -/
def numberValue (negative : Bool) (text : String) : Except Fault Value :=
  let cs := text.toList.filter (· != '_')
  let sign := if negative then "-" else ""
  match cs with
  | '0' :: x :: digits =>
    if x = 'x' ∨ x = 'X' then
      let digits := digits.dropWhile (· == '0')
      let n : Int := digits.foldl (fun n c => 16 * n + (Text.hexValue? c).getD 0) 0
      if 16 < digits.length then .error (.tooLargeHexadecimal (sign ++ text))
      else .ok (.integer (Int64.ofInt (if negative then -n else n)))
    else decimalValue cs
  | cs => decimalValue cs
where
  /-- The value of decimal digits. -/
  decimalValue (cs : List Char) : Except Fault Value :=
    if cs.all Char.isDigit then
      let n : Int := Decimal.ofDigits cs
      .ok (wholeValue (if negative then -n else n))
    else
      let x := (LeadingNumber.read cs).all.scaled
      .ok (.real (if negative then -x else x))

/-- The meaning of a number. -/
def numberMeaning (negative : Bool) (text : String) : Settling Meaning := do
  match numberValue negative text with
  | .ok c => return .constant c
  | .error fault =>
    later fault
    return .constant .null

/-- What an operator makes of one value. -/
def unary (operator : Operator) (c : Value) : Value :=
  match operator with
  | .not => .ofTruth? (c.truth?.map not)
  | .negate => arithmetic .subtract (.integer 0) c
  | .invert => if c = .null then .null else .integer (-1 - c.asInteger)
  | .isNull => .ofTruth (c = .null)
  | .notNull => .ofTruth (c ≠ .null)
  | .cast affinity => c.cast affinity
  | _ => c

/-- The meaning of an operator and its operands, each of which is one value. -/
def operatorMeaning (operator : Operator) (operands : List Meaning) : Settling Meaning := do
  match operator, operands with
  | .and, [a, b] => return connective false bothTrue a b
  | .or, [a, b] => return connective true oneTrue a b
  | .choose base last, _ => choiceMeaning base last operands
  | .among, value :: others => amongMeaning value others
  | .collate name, [a] => return { a with collating := some ⟨name, true⟩, column := none }
  | .keep, [a] => return { a with affinity := .none, column := none, truth := none }
  | .cast affinity, [a] =>
    let m := Meaning.map [a] fun values => .ok (unary operator (values.headD .null))
    return { m with affinity, classes := .ofAffinity affinity, collating := a.collating }
  | _, [a] => return .map [a] fun values => .ok (unary operator (values.headD .null))
  | _, [a, b] =>
    let m := Meaning.map [a, b] fun
      | [x, y] => .ok (arithmetic operator x y)
      | _ => .ok .null
    return { m with
      classes := if operator = .concat then ⟨false, true, true⟩ else { numbers := true } }
  | _, _ => return .constant .null

end Sql
end ReportQuery
