/-
# The location of a server in a URL

Behind `//` stand in this order, and each may be left out:

| part | ends |
| --- | --- |
| a user, with a password behind the first colon | with the last `@` before the path |
| the host | before a colon outside of brackets |
| a port number behind a colon | before the path |
| the path | before `?` |
| parameters behind `?` | before `#` |

The path begins with the first slash.  Characters up to the blank at the end of a
URL, and tabs and line breaks anywhere in it, have no meaning.
-/

import ReportQuery.Endpoint.Address

namespace ReportQuery
namespace Endpoint

/-- The parts of a URL behind `//`.  All but the port number are in escaped form. -/
structure Location where
  user : List Char := []
  password : List Char := []
  host : List Char
  portNumber : Option Nat
  path : List Char
  parameters : List Char
deriving DecidableEq

/-- Characters that have no meaning in a URL. -/
def isIgnored (c : Char) : Bool := c == '\t' || c == '\n' || c == '\r'

/-- A URL without the characters that have no meaning. -/
def meaningful (cs : List Char) : List Char :=
  (cs.reverse.dropWhile fun c => c.toNat ≤ 0x20).reverse.filter (!isIgnored ·)

namespace Location

/-- Reads host and port number, and gives the location with what is behind them. -/
def ofHost (hostAndPort : List Char) : Except SettingsFault Location := do
  let (host, behind) := takeHost false hostAndPort
  checkHost host
  if host.isEmpty ∧ !behind.isEmpty then throw .emptyHost
  let (portNumber, path) ← takePortNumber (behind.drop 1)
  return { host, portNumber, path, parameters := [] }

/-- Reads the text behind `//`.  Behind a user there has to be a host, and behind an
`@` alone if anything else is there. -/
def ofText (cs : List Char) : Except SettingsFault Location := do
  let cs := meaningful cs
  let (before, parameters) := Text.cut '?' (cs.takeWhile (· != '#'))
  let authority := before.takeWhile (· != '/')
  let path := before.dropWhile (· != '/')
  let (userInfo, hostAndPort) := (Text.cutAtLast? '@' authority).getD ([], authority)
  let (user, password) := Text.cut ':' userInfo
  if authority = ['@'] ∧ cs ≠ authority then throw .emptyHost
  let location ← ofHost hostAndPort
  if location.host.isEmpty ∧ !(user.isEmpty ∧ password.isEmpty) then throw .emptyHost
  return { location with user, password, path := location.path ++ path, parameters }

end Location

end Endpoint
end ReportQuery
