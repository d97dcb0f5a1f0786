/-
# Reading UTF-8

Bytes are read piece by piece.  A piece is a character, or the longest run of bytes
that begins some character and does not go on as one; a byte that begins none is
such a run of its own.  Where the bytes end inside of a character, the last piece
is unfinished.

What is broken or unfinished is either read as U+FFFD (`readUtf8`), or it is a
fault (`readUtf8?`), which tells the place of the first such piece.
-/

namespace ReportQuery
namespace Text

/-- A piece of a list of bytes. -/
inductive Piece where
  | char (c : Char)
  /-- So many bytes that begin a character and do not go on as one. -/
  | broken (bytes : Nat)
  | unfinished
deriving DecidableEq, Repr

/-- A character begun: how many bytes of it are read, the value so far, the bounds
of the next byte, and how many bytes are to come after that one. -/
structure Begun where
  read : Nat
  value : Nat
  least : Nat
  largest : Nat
  more : Nat
deriving DecidableEq, Repr

/-- What a first byte begins, apart from a character of one byte. -/
def Begun.ofByte? (b : Nat) : Option Begun :=
  if b < 0xC2 then none
  else if b < 0xE0 then some ⟨1, b - 0xC0, 0x80, 0xBF, 0⟩
  else if b = 0xE0 then some ⟨1, 0, 0xA0, 0xBF, 1⟩
  else if b = 0xED then some ⟨1, 0xD, 0x80, 0x9F, 1⟩
  else if b < 0xF0 then some ⟨1, b - 0xE0, 0x80, 0xBF, 1⟩
  else if b = 0xF0 then some ⟨1, 0, 0x90, 0xBF, 2⟩
  else if b < 0xF4 then some ⟨1, b - 0xF0, 0x80, 0xBF, 2⟩
  else if b = 0xF4 then some ⟨1, 4, 0x80, 0x8F, 2⟩
  else none

/-- Reads a byte that begins a character: the pieces that it completes, and what it
leaves begun. -/
def readFirst (b : Nat) : List Piece × Option Begun :=
  if b < 0x80 then ([.char (Char.ofNat b)], none)
  else match Begun.ofByte? b with
    | some g => ([], some g)
    | none => ([.broken 1], none)

/-- Reads a byte behind what is begun. -/
def readNext (g : Begun) (b : Nat) : List Piece × Option Begun :=
  if g.least ≤ b ∧ b ≤ g.largest then
    let value := g.value * 64 + (b - 0x80)
    match g.more with
    | 0 => ([.char (Char.ofNat value)], none)
    | more + 1 => ([], some ⟨g.read + 1, value, 0x80, 0xBF, more⟩)
  else
    let (pieces, next) := readFirst b
    (.broken g.read :: pieces, next)

/-- The pieces of bytes behind what is begun, if anything is. -/
def piecesFrom : Option Begun → List UInt8 → List Piece
  | none, [] => []
  | some _, [] => [.unfinished]
  | begun, b :: bytes =>
    let (pieces, next) := match begun with
      | none => readFirst b.toNat
      | some g => readNext g b.toNat
    pieces ++ piecesFrom next bytes

/-- The pieces of bytes. -/
def pieces (bytes : List UInt8) : List Piece := piecesFrom none bytes

/-- The character of a piece, which is U+FFFD if the bytes encode none. -/
def Piece.toChar : Piece → Char
  | .char c => c
  | .broken _ | .unfinished => '\ufffd'

/-- The characters that bytes encode, with replacements. -/
def readUtf8 (bytes : List UInt8) : String := String.ofList ((pieces bytes).map Piece.toChar)

/-- Where bytes are no UTF-8: how many bytes are read before that place, and how many
are broken there, if the bytes do not just end. -/
structure Utf8Fault where
  index : Nat
  broken : Option Nat
deriving DecidableEq, Repr

/-- The wording of a fault in UTF-8. -/
def Utf8Fault.message : Utf8Fault → String
  | ⟨index, some bytes⟩ =>
    "invalid utf-8 sequence of " ++ toString bytes ++ " bytes from index " ++ toString index
  | ⟨index, none⟩ => "incomplete utf-8 byte sequence from index " ++ toString index

/-- The characters of pieces that begin at an index, if all are characters. -/
def charsFrom (index : Nat) : List Piece → Except Utf8Fault (List Char)
  | [] => .ok []
  | .char c :: ps => (charsFrom (index + c.utf8Size) ps).map fun cs => c :: cs
  | .broken bytes :: _ => .error ⟨index, some bytes⟩
  | .unfinished :: _ => .error ⟨index, none⟩

/-- The characters that bytes encode, if all of them do. -/
def readUtf8? (bytes : List UInt8) : Except Utf8Fault String :=
  (charsFrom 0 (pieces bytes)).map String.ofList

/-- The bytes of a text. -/
def bytes (cs : List Char) : List UInt8 := (String.ofList cs).toUTF8.data.toList

example : readUtf8 [0xE8, 0xA1, 0xA8, 0x41] = "表A" := by decide +kernel

example : readUtf8 [0xE8, 0xA1, 0x41, 0xFF, 0xF0] = "\ufffdA\ufffd\ufffd" := by decide +kernel

example : pieces [0x41, 0xE8, 0xA1, 0x41] = [.char 'A', .broken 2, .char 'A'] := by
  decide +kernel

example : pieces [0x41, 0xE8, 0xA1] = [.char 'A', .unfinished] := by decide +kernel

/-- The last character is read; an overlong form and a surrogate are broken byte by byte. -/
example :
    pieces [0xF4, 0x8F, 0xBF, 0xBF] = [.char (Char.ofNat 0x10FFFF)] ∧
      pieces [0xC0, 0x80] = [.broken 1, .broken 1] ∧
      pieces [0xED, 0xA0, 0x80] = [.broken 1, .broken 1, .broken 1] := by
  decide +kernel

end Text
end ReportQuery
