/-
# Values in expressions

How stored values are taken for numbers, for texts and for truth values, how they are
compared, and what the operators make of them.

Whatever is computed from null is null, apart from a conjunction or disjunction that
its other operand settles.  A text counts for the number that it begins with.  Whole
numbers that leave 64 bits go on as reals.

In the order of values null comes first, and then numbers, texts and bytes.
-/

import ReportQuery.Decimal.Scaling
import ReportQuery.Sql.Expression

namespace ReportQuery
namespace Sql

/-! ## Numbers in texts -/

/-- Whether a character is skipped around the number in a text. -/
def isNumberSpace (c : Char) : Bool := c == ' ' || ('\t' ≤ c && c ≤ '\r')

/-- The number that a text begins with: its whole part, with its sign, what it is when
all of it is read, whether it has a point or an exponent, and whether anything else
follows. -/
structure LeadingNumber where
  whole : Int
  all : Decimal.Numeral
  isReal : Bool
  isComplete : Bool

/-- Reads the number that a text begins with. -/
def LeadingNumber.read (cs : List Char) : LeadingNumber :=
  let (negative, cs) := Decimal.takeSign (cs.dropWhile isNumberSpace)
  let whole := cs.takeWhile Char.isDigit
  let rest := cs.dropWhile Char.isDigit
  let (point, fraction, rest) := match rest with
    | '.' :: rest => (true, rest.takeWhile Char.isDigit, rest.dropWhile Char.isDigit)
    | _ => (false, [], rest)
  let digits := whole ++ fraction
  let value := Decimal.ofDigits whole
  let (begun, exponent, rest) := match rest with
    | e :: rest =>
      if (e == 'e' || e == 'E') && !digits.isEmpty then
        let (negative, rest) := Decimal.takeSign rest
        let ds := rest.takeWhile Char.isDigit
        if ds.isEmpty then (true, none, e :: rest)
        else
          let size : Int := Decimal.ofDigits ds
          (true, some (if negative then -size else size), rest.dropWhile Char.isDigit)
      else (false, none, e :: rest)
    | [] => (false, none, [])
  { whole := if negative then -(value : Int) else value
    all := ⟨negative, Decimal.ofDigits digits, exponent.getD 0 - fraction.length⟩
    isReal := !digits.isEmpty && (point || exponent.isSome)
    isComplete := !digits.isEmpty && begun == exponent.isSome && rest.all isNumberSpace }

/-- An integer, within the bounds of its type. -/
def saturated (n : Int) : Int64 :=
  if n < -9223372036854775808 then Int64.minValue
  else if 9223372036854775807 < n then Int64.maxValue
  else Int64.ofInt n

/-- Whether an integer fits its type. -/
def fits (n : Int) : Bool := -9223372036854775808 ≤ n && n ≤ 9223372036854775807

/-- An integer as a value, a real if it is too large. -/
def wholeValue (n : Int) : Value :=
  if fits n then .integer (Int64.ofInt n)
  else .real (Decimal.Numeral.scaled ⟨n < 0, n.natAbs, 0⟩)

namespace Value

/-- A value as an integer: of a text the whole number that it begins with. -/
def asInteger : Value → Int64
  | .null => 0
  | .integer n => n
  | .real x => x.toInt64
  | c => saturated (LeadingNumber.read c.chars).whole

/-- A value as a real: of a text the number that it begins with. -/
def asReal : Value → Float
  | .null => 0.0
  | .integer n => n.toFloat
  | .real x => x
  | c => (LeadingNumber.read c.chars).all.scaled

/-- The number in a text: an integer, unless there is a point or an exponent or it is too
large. -/
def ofLeading (n : LeadingNumber) : Value :=
  if n.isReal then .real n.all.scaled else wholeValue n.whole

/-- A value as a number; null stays null. -/
def asNumber (v : Value) : Value :=
  match v with
  | .null | .integer _ | .real _ => v
  | v => ofLeading (LeadingNumber.read v.chars)

/-- A real that is a whole number as an integer, as long as all digits of it are known. -/
def wholeIfExact : Value → Value
  | .real x =>
    let n := x.toInt64
    if n.toFloat == x && -2251799813685248 ≤ n && n < 2251799813685248 then .integer n
    else .real x
  | c => c

/-- A text that is a number as that number; any other value as it is. -/
def numberIfComplete (v : Value) : Value :=
  if v.storageClass = .text then
    let n := LeadingNumber.read v.chars
    if n.isComplete then ofLeading n else v
  else v

/-- The whole number that a value is. -/
def wholeNumber? (v : Value) : Option Int :=
  match v.numberIfComplete with
  | .integer n => some n.toInt
  | .real x =>
    if x.toInt64.toFloat == x && Int64.minValue < x.toInt64 && x.toInt64 < Int64.maxValue then
      some x.toInt64.toInt
    else none
  | _ => none

/-- Whether a value counts as true; null counts as neither. -/
def truth? : Value → Option Bool
  | .null => none
  | .integer n => some (n != 0)
  | c => some (c.asReal != 0.0)

/-- A truth value as a value. -/
def ofTruth (b : Bool) : Value := .integer (if b then 1 else 0)

/-- A truth value that may be unknown as a value. -/
def ofTruth? (b : Option Bool) : Value := (b.map ofTruth).getD .null

/-- A value converted to a type. -/
def cast (affinity : Affinity) (c : Value) : Value :=
  if c = .null then .null
  else match affinity with
    | .none => c
    | .blob => .blob c.bytes
    | .text => if c.storageClass = .text then c else .ofTextBytes c.bytes
    | .integer => .integer c.asInteger
    | .real => .real c.asReal
    | .numeric => match c with
      | .integer _ | .real _ => c
      | c => c.asNumber.wholeIfExact

end Value

/-! ## Order -/

/-- How texts are compared. -/
inductive Collation where
  | binary
  /-- The case of Latin letters does not matter. -/
  | noCase
  /-- Blanks at the end do not matter. -/
  | rightTrimmed
deriving DecidableEq, Repr

/-- A byte, as that of a small letter if it is one of a Latin letter. -/
def lowerByte (b : UInt8) : UInt8 := if 0x41 ≤ b && b ≤ 0x5A then b + 0x20 else b

/-- A byte, as that of a capital letter if it is one of a Latin letter. -/
def upperByte (b : UInt8) : UInt8 := if 0x61 ≤ b && b ≤ 0x7A then b - 0x20 else b

namespace Collation

/-- The collation of a name. -/
def ofName? (name : String) : Option Collation :=
  if sameName name "BINARY" then some .binary
  else if sameName name "NOCASE" then some .noCase
  else if sameName name "RTRIM" then some .rightTrimmed
  else none

/-- The bytes that stand for those of a text in comparisons. -/
def key (bytes : List UInt8) : Collation → List UInt8
  | .binary => bytes
  | .noCase => bytes.map lowerByte
  | .rightTrimmed => (bytes.reverse.dropWhile (· == 0x20)).reverse

end Collation

/-- Compares an integer with a real that is a number. -/
def compareWholeReal (n : Int64) (x : Float) : Ordering :=
  if x < -9223372036854775808.0 then .gt
  else if 9223372036854775808.0 ≤ x then .lt
  else
    let whole := x.toInt64
    if n < whole then .lt
    else if whole < n then .gt
    else if n.toFloat < x then .lt
    else if x < n.toFloat then .gt
    else .eq

/-- Compares two reals that are numbers. -/
def compareReals (x y : Float) : Ordering := if x < y then .lt else if y < x then .gt else .eq

/-- Compares lists of bytes; a list comes before those that it begins. -/
def compareBytes : List UInt8 → List UInt8 → Ordering
  | [], [] => .eq
  | [], _ :: _ => .lt
  | _ :: _, [] => .gt
  | a :: as, b :: bs => (compare a.toNat b.toNat).then (compareBytes as bs)

/-- The place of a class of values among the others. -/
def classRank : StorageClass → Nat
  | .null => 0
  | .integer | .real => 1
  | .text => 2
  | .blob => 3

/-- Compares two values. -/
def compareValues (collation : Collation) : Value → Value → Ordering
  | .integer a, .integer b => compare a.toInt b.toInt
  | .integer a, .real y => compareWholeReal a y
  | .real x, .integer b => (compareWholeReal b x).swap
  | .real x, .real y => compareReals x y
  | .blob a, .blob b => compareBytes a b
  | a, b =>
    if a.storageClass = .text ∧ b.storageClass = .text then
      compareBytes (collation.key a.bytes) (collation.key b.bytes)
    else compare (classRank a.storageClass) (classRank b.storageClass)

/-- A number as a text, if it is compared with one. -/
def textBeside (other v : Value) : Value :=
  match v with
  | .integer n => if other.storageClass = .text then .text (Value.integerText n) else v
  | .real x => if other.storageClass = .text then .text (Value.realText x) else v
  | v => v

/-- Two values as they are compared: a text with a number as a number where numbers are
preferred, and as texts where texts are. -/
def prepared (affinity : Affinity) (a b : Value) : Value × Value :=
  match affinity with
  | .none | .blob => (a, b)
  | .text => (textBeside b a, textBeside a b)
  | _ => (a.numberIfComplete, b.numberIfComplete)

/-- The affinity by which the values of two expressions are compared. -/
def Affinity.common (a b : Affinity) : Affinity :=
  if a = .none then b
  else if b = .none then a
  else if a.isNumeric || b.isNumeric then .numeric
  else .blob

/-- Compares two values that are not null. -/
def compareAs (affinity : Affinity) (collation : Collation) (a b : Value) : Ordering :=
  let (a, b) := prepared affinity a b
  compareValues collation a b

/-- What a comparison of two values gives; unknown if one of them is null. -/
def comparison (test : Ordering → Bool) (affinity : Affinity) (collation : Collation)
    (a b : Value) : Option Bool :=
  if a = .null ∨ b = .null then none else some (test (compareAs affinity collation a b))

/-! ## Operators -/

/-- Both of two truth values. -/
def bothTrue : Option Bool → Option Bool → Option Bool
  | some false, _ | _, some false => some false
  | some true, some true => some true
  | _, _ => none

/-- One of two truth values. -/
def oneTrue : Option Bool → Option Bool → Option Bool
  | some true, _ | _, some true => some true
  | some false, some false => some false
  | _, _ => none

/-- Integers shifted to the left, or to the right by a negative distance. -/
def shiftLeft (n distance : Int64) : Int64 :=
  let d := distance.toInt
  if 0 ≤ d then
    if 64 ≤ d then 0 else Int64.ofInt (n.toInt * Nat.pow 2 d.toNat)
  else if d ≤ -64 then (if n < 0 then -1 else 0)
  else Int64.ofInt (Int.fdiv n.toInt (Nat.pow 2 (-d).toNat))

/-- The integers shifted the other way. -/
def shiftRight (n distance : Int64) : Int64 :=
  if distance = Int64.minValue then shiftLeft n Int64.maxValue else shiftLeft n (-distance)

/-- Computes with whole numbers where both operands are whole and the result fits, and else
with reals. -/
def compute (whole : Int → Int → Int) (real : Float → Float → Float) (a b : Value) : Value :=
  match a.asNumber, b.asNumber with
  | .null, _ | _, .null => .null
  | .integer m, .integer n =>
    let result := whole m.toInt n.toInt
    if fits result then .integer (Int64.ofInt result) else .ofReal (real m.toFloat n.toFloat)
  | a, b => .ofReal (real a.asReal b.asReal)

/-- The remainder of a division, with the sign of the dividend; both operands are taken
as integers. -/
def remainder (a b : Value) : Value :=
  let m := a.asInteger.toInt
  let n := b.asInteger.toInt
  if a = .null ∨ b = .null ∨ n = 0 then .null
  else match a.asNumber, b.asNumber with
    | .integer _, .integer _ => wholeValue (Int.tmod m n)
    | _, _ => (wholeValue (Int.tmod m n)).cast .real

/-- What an operator of arithmetic makes of two values; null for any other operator. -/
def arithmetic (operator : Operator) (a b : Value) : Value :=
  let bitwise := fun f : Int64 → Int64 → Int64 =>
    if a = .null ∨ b = .null then .null else Value.integer (f a.asInteger b.asInteger)
  match operator with
  | .add => compute (· + ·) (· + ·) a b
  | .subtract => compute (· - ·) (· - ·) a b
  | .multiply => compute (· * ·) (· * ·) a b
  | .divide => if b.asNumber.asReal == 0.0 then .null else compute Int.tdiv (· / ·) a b
  | .remainder => remainder a b
  | .concat =>
    if a = .null ∨ b = .null then .null else .ofTextBytes (a.bytes ++ b.bytes)
  | .bitAnd => bitwise fun m n => m &&& n
  | .bitOr => bitwise fun m n => m ||| n
  | .shiftLeft => bitwise shiftLeft
  | .shiftRight => bitwise shiftRight
  | _ => .null

/-! ## Patterns -/

/-- Whether two characters are the same but for the case of Latin letters. -/
def sameLetter (a b : Char) : Bool := a.toLower == b.toLower

/-- Whether a text matches a pattern in which `%` stands for any characters and `_` for
one; behind the sign `escape` a character stands for itself. -/
def matchesLike (escape : Option Char) : List Char → List Char → Bool
  | [], text => text.isEmpty
  | p :: ps, text =>
    if some p = escape then
      match ps, text with
      | q :: ps, c :: cs => sameLetter q c && matchesLike escape ps cs
      | _, _ => false
    else if p = '%' then
      (List.range (text.length + 1)).any fun n => matchesLike escape ps (text.drop n)
    else match text with
      | [] => false
      | c :: cs => (p = '_' || sameLetter p c) && matchesLike escape ps cs

/-- Whether a character is in a set of characters and ranges up to `]`, and the pattern
behind the set; none if the set does not end. -/
def inSet? (c : Char) (found : Bool) : List Char → Option (Bool × List Char)
  | [] => none
  | ']' :: ps => some (found, ps)
  | a :: '-' :: b :: ps =>
    if b = ']' then some (found || a == c || c == '-', ps)
    else inSet? c (found || (a ≤ c && c ≤ b)) ps
  | a :: ps => inSet? c (found || a == c) ps

/-- Reads a set behind `[`, where `^` takes its complement and `]` may come first. -/
def matchSet? (c : Char) (ps : List Char) : Option (Bool × List Char) :=
  let (complement, ps) := match ps with
    | '^' :: ps => (true, ps)
    | ps => (false, ps)
  let (found, ps) := match ps with
    | ']' :: ps => (c == ']', ps)
    | ps => (false, ps)
  (inSet? c found ps).map fun (found, ps) => (found != complement, ps)

/-- Whether a text matches a pattern in which `*` stands for any characters, `?` for one
and `[…]` for one of a set; `fuel` is not less than the length of the pattern. -/
def matchesGlob : Nat → List Char → List Char → Bool
  | _, [], text => text.isEmpty
  | 0, _ :: _, _ => false
  | fuel + 1, p :: ps, text =>
    if p = '*' then (List.range (text.length + 1)).any fun n => matchesGlob fuel ps (text.drop n)
    else match text with
      | [] => false
      | c :: cs =>
        if p = '[' then
          match matchSet? c ps with
          | some (true, ps) => matchesGlob fuel ps cs
          | _ => false
        else (p = '?' || p = c) && matchesGlob fuel ps cs

end Sql
end ReportQuery
