/-
# Cutting lists

At the first, the last or every occurrence of a member, and at the first occurrence
of a phrase.
-/

namespace ReportQuery
namespace Text

variable {α : Type} [DecidableEq α]

/-- A list up to the first occurrence of a separator, and the list behind it. -/
def cut (separator : α) (xs : List α) : List α × List α :=
  (xs.takeWhile (· != separator), (xs.dropWhile (· != separator)).drop 1)

/-- A list up to the last occurrence of a separator, and the list behind it. -/
def cutAtLast? (separator : α) : List α → Option (List α × List α)
  | [] => none
  | x :: xs =>
    match cutAtLast? separator xs with
    | some (before, rest) => some (x :: before, rest)
    | none => if x = separator then some ([], xs) else none

/-- The parts of a list between the occurrences of a separator. -/
def parts (separator : α) : List α → List (List α)
  | [] => [[]]
  | x :: xs =>
    if x = separator then [] :: parts separator xs
    else match parts separator xs with
      | part :: more => (x :: part) :: more
      | [] => [[x]]

/-- A list up to the first occurrence of a phrase, and the list behind it. -/
def cutAtPhrase? (phrase : List α) : List α → Option (List α × List α)
  | [] => none
  | x :: xs =>
    if phrase.isPrefixOf (x :: xs) then some ([], (x :: xs).drop phrase.length)
    else (cutAtPhrase? phrase xs).map fun (before, rest) => (x :: before, rest)

example : parts ',' "a,,b".toList = [['a'], [], ['b']] := by decide +kernel

example : cutAtLast? '@' "a@b@c".toList = some (['a', '@', 'b'], ['c']) := by decide +kernel

example : cutAtPhrase? "::".toList "1::2::".toList = some (['1'], ['2', ':', ':']) := by
  decide +kernel

end Text
end ReportQuery
