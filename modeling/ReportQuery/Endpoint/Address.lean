/-
# Hosts and port numbers

A host in square brackets is an IPv6 address: eight groups of one to four
hexadecimal digits with colons between them.  Two colons in a row may stand once
for one or more groups of zeros, and the last two groups may be written as four
decimal numbers with points between them.  Any other host may hold all characters
but a few.
-/

import ReportQuery.Decimal.Reading
import ReportQuery.Error
import ReportQuery.Text.Cut
import ReportQuery.Text.Hex

namespace ReportQuery
namespace Endpoint

/-! ## Numeric addresses -/

/-- Whether a text is a number from 0 to 255 without leading zeros. -/
def isByte (cs : List Char) : Bool :=
  cs != [] && cs.all Char.isDigit && (cs.length == 1 || cs.head? != some '0') &&
    cs.length ≤ 3 && Decimal.ofDigits cs ≤ 255

/-- Whether a text is four decimal numbers with points between them. -/
def isDotted (cs : List Char) : Bool :=
  let numbers := Text.parts '.' cs
  numbers.length == 4 && numbers.all isByte

/-- Whether a text is a group of hexadecimal digits. -/
def isGroup (cs : List Char) : Bool :=
  cs != [] && cs.length ≤ 4 && cs.all fun c => (Text.hexValue? c).isSome

/-- How many groups some parts of an address are, if they are well formed.  The
flag says whether the last of them ends the address. -/
def groupCount? (ending : Bool) : List (List Char) → Option Nat
  | [] => some 0
  | [last] =>
    if isGroup last then some 1
    else if ending && isDotted last then some 2
    else none
  | part :: more => if isGroup part then (groupCount? ending more).map (· + 1) else none

/-- The groups in a text that may be empty. -/
def groups (cs : List Char) : List (List Char) := if cs.isEmpty then [] else Text.parts ':' cs

/-- Whether a text is an IPv6 address. -/
def isGrouped (cs : List Char) : Bool :=
  match Text.cutAtPhrase? [':', ':'] cs with
  | some (before, rest) =>
    match groupCount? false (groups before), groupCount? true (groups rest) with
    | some m, some n => m + n ≤ 7
    | _, _ => false
  | none => groupCount? true (Text.parts ':' cs) == some 8

/-- Whether a text is a numeric address, of either kind. -/
def isNumeric (cs : List Char) : Bool := isDotted cs || isGrouped cs

/-! ## Hosts and port numbers -/

/-- The characters that a host cannot hold. -/
def forbiddenInHosts : List Char :=
  ['\x00', ' ', '#', '/', ':', '<', '>', '?', '@', '[', '\\', ']', '^', '|']

/-- Checks a host. -/
def checkHost (host : List Char) : Except SettingsFault Unit :=
  if host.head? = some '[' then
    if host.getLast? = some ']' ∧ isGrouped (host.drop 1).dropLast then .ok ()
    else .error .invalidAddress
  else if host.any forbiddenInHosts.contains then .error .forbiddenCharacter
  else .ok ()

/-- Takes a host, which ends before a colon outside of brackets.  The flag says
whether the text begins inside of brackets. -/
def takeHost (bracketed : Bool) : List Char → List Char × List Char
  | [] => ([], [])
  | c :: cs =>
    if c = ':' ∧ !bracketed then ([], c :: cs)
    else
      let bracketed := if c = '[' then true else if c = ']' then false else bracketed
      let (host, rest) := takeHost bracketed cs
      (c :: host, rest)

/-- Reads a port number, which has 16 bits and may be left out, and gives what is
behind it.  Only a backslash ends it before the text does. -/
def takePortNumber (cs : List Char) : Except SettingsFault (Option Nat × List Char) :=
  let digits := cs.takeWhile Char.isDigit
  let rest := cs.dropWhile Char.isDigit
  let number := Decimal.ofDigits digits
  if 65535 < number ∨ (rest ≠ [] ∧ rest.head? ≠ some '\\') then .error .invalidPort
  else .ok (if digits.isEmpty then none else some number, rest)

end Endpoint
end ReportQuery
