/-
# Quoted texts in messages

A message shows a text between double quotes.  Quotes and backslashes are
escaped, line breaks, tabs and null have letters, and the other hidden
characters are shown by their numbers, as in `\u{200b}`.
-/

import ReportQuery.Text.Hidden

namespace ReportQuery
namespace Text

/-- The form of a character between the quotes. -/
def quotedForm (c : Char) : List Char :=
  match c with
  | '\x00' => ['\\', '0']
  | '\t' => ['\\', 't']
  | '\r' => ['\\', 'r']
  | '\n' => ['\\', 'n']
  | '"' => ['\\', '"']
  | '\\' => ['\\', '\\']
  | c =>
    if isHidden c then ['\\', 'u', '\x7b'] ++ Nat.toDigits 16 c.toNat ++ ['\x7d'] else [c]

/-- A text between double quotes. -/
def quoted (text : String) : String :=
  "\"" ++ String.ofList (text.toList.flatMap quotedForm) ++ "\""

example : quoted "a\t\"é\"\x7f" = "\"a\\t\\\"é\\\"\\u\x7b7f\x7d\"" := by decide +kernel

end Text
end ReportQuery
