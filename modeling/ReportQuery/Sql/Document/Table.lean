/-
# Documents as tables

A document is a table of the documents within it: of those right within it (`json_each`), or of
all, with itself (`json_tree`).  A path may lead to the document that is meant.

| column | holds |
| --- | --- |
| `key` | the label of a member or the place of an element |
| `value`, `type` | the document and its kind |
| `atom` | the document, if it holds no others |
| `id`, `parent` | where the document, and the one that it is in, are encoded |
| `fullkey`, `path` | the paths to the document, and to the one that it is in |
-/

import ReportQuery.Sql.Function.Document
import ReportQuery.Sql.Schema

namespace ReportQuery
namespace Sql

/-- The columns of a table of documents. -/
def documentColumns : List TableColumn :=
  ["key", "value", "type", "atom", "id", "parent", "fullkey", "path"].map fun name => { name }

/-- The arguments of a table of documents. -/
def documentArguments : List TableColumn := [{ name := "json" }, { name := "root" }]

/-- A row of a table of documents. -/
structure DocumentRow where
  key : Value
  document : Document
  id : Nat
  parent : Option Nat := none
  fullPath : List Char
  outerPath : List Char

namespace DocumentRow

/-- The values of a row. -/
def values (r : DocumentRow) : Except Fault (List Value) := do
  let value ← r.document.value
  return [r.key, value, .text r.document.kind, if r.document.isContainer then .null else value,
    .integer (Int64.ofNat r.id), (r.parent.map fun n => .integer (Int64.ofNat n)).getD .null,
    textValue r.fullPath, textValue r.outerPath]

end DocumentRow

/-- The step of a path to a member.  Only a word of letters and digits needs no quotes. -/
def Wording.pathStep (label : Wording) : List Char :=
  if label.written.head?.any Char.isAlpha && label.written.all isAlphanumeric then
    '.' :: label.written
  else '.' :: '"' :: label.written ++ ['"']

/-- The step of a path to an element. -/
def elementStep (index : Nat) : List Char := '[' :: (toString index).toList ++ [']']

/-- Where a document is encoded, with its label. -/
def Located.id (l : Located) : Nat := (l.label.map fun (place, _) => place).getD l.place

/-- The rows of the documents right within a document, each with that of its own documents. -/
def innerRows (parent : Option Nat) (path : List Char)
    (within : Nat → List Char → Document → Nat → List DocumentRow) (place : Nat) :
    Document → List DocumentRow
  | .array elements => ofElements place 0 elements
  | .object members => ofMembers place members
  | _ => []
where
  /-- The rows of elements. -/
  ofElements (place index : Nat) : List Document → List DocumentRow
    | [] => []
    | d :: ds =>
      let fullPath := path ++ elementStep index
      { key := .integer (Int64.ofNat index), document := d, id := place, parent, fullPath
        outerPath := path } ::
        within place fullPath d (place + (d.size - d.length)) ++
          ofElements (place + d.size) (index + 1) ds
  /-- The rows of members. -/
  ofMembers (place : Nat) : List Member → List DocumentRow
    | [] => []
    | .mk label d :: members =>
      let fullPath := path ++ label.pathStep
      let start := place + label.size
      { key := label.value, document := d, id := place, parent, fullPath, outerPath := path } ::
        within place fullPath d (start + (d.size - d.length)) ++
          ofMembers (start + d.size) members

/-- The rows of all documents within a document, which is told by its place and its path; `depth`
is not below that of the document. -/
def treeRows : Nat → Nat → List Char → Document → Nat → List DocumentRow
  | 0, _, _, _, _ => []
  | depth + 1, id, path, d, content => innerRows (some id) path (treeRows depth) content d

/-- How much of a path tells where the document that it leads to is: the longest beginning that
leads to a document whose content begins with it.  That of any other one ends with its first
character. -/
def outerLength (d : Document) (id : Nat) (path : List Char) : Nat → Nat
  | 0 => 1
  | 1 => 1
  | n + 1 =>
    let isStep := path[n]?.any fun c => c == '[' || c == '.'
    let found := (Path.ofText? (path.take n)).bind fun p => (d.located.follow p).toOption
    if isStep && found.any fun l => l.content == id then n
    else outerLength d id path n

/-- The key that the last step of a path tells. -/
def keyOfStep : List Char → Value
  | [] => .null
  | '[' :: cs => .integer (saturated (LeadingNumber.read cs).whole)
  | _ :: '"' :: cs => textValue cs.dropLast
  | _ :: cs => textValue cs

/-- The rows of a document that a path leads to, within a whole document. -/
def rowsAt (isTree : Bool) (whole : Document) (path : List Char) (l : Located) :
    List DocumentRow :=
  let d := l.document
  if d.isContainer && !isTree then innerRows none path (fun _ _ _ _ => []) l.content d
  else
    let n := if isTree then outerLength whole l.id path path.length else path.length
    let key := if path.length = 1 then .null else keyOfStep (path.drop n)
    { key, document := d, id := l.id, fullPath := path, outerPath := path.take n } ::
      if isTree then treeRows (deepestDocument + 1) l.id path d l.content else []

/-- The rows of a table of documents for its arguments. -/
def documentRows (isTree : Bool) (arguments : List Value) :
    Except Fault (List (List Value)) := do
  match arguments with
  | [] => return []
  | json :: root =>
    match ← documentOf? json with
    | none => return []
    | some d =>
      match (root.head?.map pathText?).getD (some ['$']) with
      | none => return []
      | some path =>
        match (Path.ofText? path).map d.located.follow with
        | none | some (.error .broken) => throw (pathFault path)
        | some (.error .nothing) => return []
        | some (.ok l) =>
          let json := match json with
            | .blob bytes => if looksEncoded bytes then json else textValue (upToNull json.chars)
            | json => textValue (upToNull json.chars)
          let rows := (rowsAt isTree d path l).zipIdx
          rows.mapM fun (row, index) => do
            return (← row.values) ++ [json, textValue path, .integer (Int64.ofNat index)]

/-- The tables of documents. -/
def documentTables : List Table :=
  [("json_each", false), ("json_tree", true)].map fun (name, isTree) =>
    { schema := "main"
      names := [name]
      columns := documentColumns
      hidden := documentArguments
      isCalled := true
      rows := documentRows isTree }

end Sql
end ReportQuery
