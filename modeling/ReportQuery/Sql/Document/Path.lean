/-
# Paths in documents

A path leads from a document to one of those within it, by the labels of members and the places
of elements, which are counted from the end behind `#`.

A path is looked at step by step, so that what is wrong with it is met only where the steps
before it lead somewhere.
-/

import ReportQuery.Sql.Document.Binary
import ReportQuery.Decimal.Shortest

namespace ReportQuery
namespace Sql

/-- A path. -/
inductive Path where
  | here
  | member (label : Wording) (rest : Path)
  | element (place : Nat) (rest : Path)
  | elementFromEnd (place : Nat) (rest : Path)
  | broken
  /-- A fault at an array that has a place from its end. -/
  | brokenElement (place : Nat)

/-- Why a path leads nowhere. -/
inductive PathFault where
  | nothing
  | broken
deriving DecidableEq, Repr

namespace Path

/-- The place that digits name. -/
def placeOf (digits : List Char) : Nat := Decimal.ofDigits digits % 4294967296

/-- Reads a path behind its first character; `fuel` is above the length of the text. -/
def read : Nat → List Char → Path
  | 0, _ => .broken
  | fuel + 1, cs =>
    match cs with
    | [] => .here
    | '.' :: '"' :: cs =>
      let label := cs.takeWhile (· != '"')
      match cs.dropWhile (· != '"') with
      | [] => .broken
      | _ :: rest => .member ⟨if label.contains '\\' then .extended else .raw, label⟩ (read fuel rest)
    | '.' :: cs =>
      let isLabel := fun c => c != '.' && c != '['
      let label := cs.takeWhile isLabel
      if label.isEmpty then .broken else .member ⟨.raw, label⟩ (read fuel (cs.dropWhile isLabel))
    | '[' :: '#' :: ']' :: rest => .elementFromEnd 0 (read fuel rest)
    | '[' :: '#' :: '-' :: cs =>
      let place := placeOf (cs.takeWhile Char.isDigit)
      match cs.takeWhile Char.isDigit, cs.dropWhile Char.isDigit with
      | _ :: _, ']' :: rest => .elementFromEnd place (read fuel rest)
      | _, _ => .brokenElement place
    | '[' :: cs =>
      match cs.takeWhile Char.isDigit, cs.dropWhile Char.isDigit with
      | c :: digits, ']' :: rest => .element (placeOf (c :: digits)) (read fuel rest)
      | _, _ => .brokenElement 0
    | _ => .broken

/-- The path that a text tells; none if it does not begin at a document. -/
def ofText? : List Char → Option Path
  | '$' :: cs => some (read (cs.length + 1) cs)
  | _ => none

end Path

/-! ## Finding -/

/-- A document within another one, and the place at which it is encoded; if it is a member, also
the place of its label, and the label. -/
structure Located where
  document : Document
  place : Nat
  label : Option (Nat × Wording) := none

/-- The first member of a label, in front of which so many bytes stand. -/
def findMember? (label : Wording) (place : Nat) : List Member → Option Located
  | [] => none
  | .mk own value :: members =>
    if label.same own then some ⟨value, place + own.size, some (place, own)⟩
    else findMember? label (place + own.size + value.size) members

/-- The element at a place, in front of which so many bytes stand. -/
def findElement? (place : Nat) : Nat → List Document → Option Located
  | _, [] => none
  | 0, d :: _ => some ⟨d, place, none⟩
  | index + 1, d :: ds => findElement? (place + d.size) index ds

/-- Where the content of a located document begins. -/
def Located.content (l : Located) : Nat := l.place + (l.document.size - l.document.length)

/-- Follows a path. -/
def Located.follow (l : Located) : Path → Except PathFault Located
  | .here => .ok l
  | .broken => .error .broken
  | .brokenElement place =>
    match l.document with
    | .array elements => .error (if elements.length < place then .nothing else .broken)
    | _ => .error .nothing
  | .member label rest =>
    match l.document with
    | .object members =>
      match findMember? label l.content members with
      | some found => found.follow rest
      | none => .error .nothing
    | _ => .error .nothing
  | .element place rest =>
    match l.document with
    | .array elements =>
      match findElement? l.content place elements with
      | some found => found.follow rest
      | none => .error .nothing
    | _ => .error .nothing
  | .elementFromEnd place rest =>
    match l.document with
    | .array elements =>
      if elements.length < place then .error .nothing
      else match findElement? l.content (elements.length - place) elements with
        | some found => found.follow rest
        | none => .error .nothing
    | _ => .error .nothing

/-- A document that is not within another one. -/
def Document.located (d : Document) : Located := ⟨d, 0, none⟩

/-! ## Editing -/

/-- What is done at the end of a path. -/
inductive Edit where
  | remove
  /-- A document is put where there is none. -/
  | insert (new : Document)
  /-- A document is put in place of another one. -/
  | replace (new : Document)
  /-- A document is put wherever the path leads. -/
  | set (new : Document)

namespace Edit

/-- What becomes of the document at the end of a path, if it stays. -/
def there? (e : Edit) (d : Document) : Option Document :=
  match e with
  | .remove => none
  | .insert _ => some d
  | .replace new | .set new => some new

/-- The document that is put where there is none. -/
def new? : Edit → Option Document
  | .remove | .replace _ => none
  | .insert new | .set new => some new

end Edit

/-- What becomes of a document that may be there. -/
abbrev Change := Option Document → Except PathFault (Option Document)

/-- Changes the first member of a label.  If there is none it may be added (`adds`). -/
def editMember (adds : Bool) (label : Wording) (change : Change) :
    List Member → Except PathFault (List Member)
  | [] =>
    if adds then do return ((← change none).map fun value => Member.mk label value).toList
    else .error .nothing
  | .mk own value :: members =>
    if label.same own then do
      return ((← change (some value)).map fun value => Member.mk own value).toList ++ members
    else do return .mk own value :: (← editMember adds label change members)

/-- Changes the element at a place.  It may be added at the end (`adds`). -/
def editElement (adds : Bool) (change : Change) :
    Nat → List Document → Except PathFault (List Document)
  | 0, [] => if adds then do return (← change none).toList else .error .nothing
  | _ + 1, [] => .error .nothing
  | 0, d :: ds => do return (← change (some d)).toList ++ ds
  | place + 1, d :: ds => do return d :: (← editElement adds change place ds)

/-- Edits what a path leads to; gives what is left of the document, if it is not removed.  A
document that is not there is made with those on the way to it. -/
def edit (e : Edit) : Path → Change
  | .here, d? =>
    .ok (match d? with
      | some d => e.there? d
      | none => e.new?)
  | .broken, _ => .error .broken
  | .brokenElement place, d? =>
    match d?.getD (.array []) with
    | .array elements => .error (if elements.length < place then .nothing else .broken)
    | _ => .error .nothing
  | .member label rest, d? =>
    match d?.getD (.object []) with
    | .object members => do
      return some (.object (← editMember e.new?.isSome label (edit e rest) members))
    | _ => .error .nothing
  | .element place rest, d? =>
    match d?.getD (.array []) with
    | .array elements => do
      return some (.array (← editElement e.new?.isSome (edit e rest) place elements))
    | _ => .error .nothing
  | .elementFromEnd place rest, d? =>
    match d?.getD (.array []) with
    | .array elements =>
      if elements.length < place then .error .nothing
      else do
        let place := elements.length - place
        return some (.array (← editElement e.new?.isSome (edit e rest) place elements))
    | _ => .error .nothing

/-! ## Merging -/

/-- Members without the first one of a label. -/
def removeMember (label : Wording) : List Member → List Member
  | [] => []
  | .mk own value :: members =>
    if label.same own then members else .mk own value :: removeMember label members

/-- Members with a change of the first one of a label, which is added if there is none. -/
def mergeMember (label : Wording) (change : Option Document → Document) :
    List Member → List Member
  | [] => [.mk label (change none)]
  | .mk own value :: members =>
    if label.same own then .mk own (change (some value)) :: members
    else .mk own value :: mergeMember label change members

mutual

/-- A document with a patch: the members of the patch take the place of those of the document, and
a null removes them. -/
def merge (patch : Document) (target : Option Document) : Document :=
  match patch with
  | .object members =>
    .object (mergeMembers members (match target with
      | some (.object members) => members
      | _ => []))
  | patch => patch

/-- Members with those of a patch. -/
def mergeMembers : List Member → List Member → List Member
  | [], target => target
  | .mk label value :: members, target =>
    let merged := match value with
      | .null => removeMember label target
      | value => mergeMember label (merge value) target
    mergeMembers members merged

end

end Sql
end ReportQuery
