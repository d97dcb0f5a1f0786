/-
# Functions of documents

A function takes a document as a text or as its bytes, and gives a text or, if its name begins
with `jsonb`, bytes.  A text that is given is known to be a document by a function that takes it,
and goes into other documents as it is; any other text becomes a text there.
-/

import ReportQuery.Sql.Document.Path
import ReportQuery.Sql.Document.Reading
import ReportQuery.Sql.Function.Text

namespace ReportQuery
namespace Sql

/-! ## Documents of values -/

/-- The document that a text tells. -/
def documentOfText (cs : List Char) : Except Fault Document :=
  match (readDocument (upToNull cs)).document? with
  | some d => .ok d
  | none => .error .malformedDocument

/-- The document that a value holds; none if it is null. -/
def documentOf? (v : Value) : Except Fault (Option Document) :=
  match v with
  | .null => .ok none
  | .blob bytes =>
    if looksEncoded bytes then
      match decode? bytes with
      | some d => .ok (some d)
      | none => .error .malformedDocument
    else some <$> documentOfText v.chars
  | v => some <$> documentOfText v.chars

/-- The text of a real in a document. -/
def realInDocument (infinity : String) (x : Float) : String :=
  if x.isInf then (if x < 0.0 then "-" else "") ++ infinity else Value.realText x

/-- A value as a document within another one. -/
def documentOfValue (v : Value) : Except Fault Document :=
  match v with
  | .null => .ok .null
  | .integer n => .ok (.integer (Value.integerText n).toList)
  | .real x => .ok (.real false (realInDocument "9e999" x).toList)
  | .document s => documentOfText s.toList
  | .blob bytes =>
    if looksEncoded bytes then
      match decode? bytes with
      | some d => .ok d
      | none => .error .malformedDocument
    else .error .documentBytes
  | v => .ok (.text ⟨.raw, v.chars⟩)

/-- The text of a value within a document. -/
def writtenInDocument (v : Value) : Except Fault (List Char) :=
  match v with
  | .real x => .ok (realInDocument "9.0e+999" x).toList
  | .document s => .ok s.toList
  | v => Document.write <$> documentOfValue v

/-! ## Results -/

/-- How a function gives a document. -/
inductive DocumentForm where
  | text
  | bytes
deriving DecidableEq, Repr

namespace DocumentForm

/-- A document as it is given. -/
def give (form : DocumentForm) (d : Document) : Value :=
  match form with
  | .text => .document (String.ofList d.write)
  | .bytes => .blob d.encode

/-- A text of a document as it is given. -/
def giveText (form : DocumentForm) (cs : List Char) : Except Fault Value :=
  match form with
  | .text => .ok (.document (String.ofList cs))
  | .bytes => (fun d => .blob d.encode) <$> documentOfText cs

/-- A document that is found in another one: one that holds no others is a value. -/
def giveFound (form : DocumentForm) (d : Document) : Except Fault Value :=
  if form = .bytes ∧ d.isContainer then .ok (.blob d.encode) else d.value

end DocumentForm

/-! ## Paths -/

/-- The text of a path; none if it is null. -/
def pathText? (v : Value) : Option (List Char) := if v = .null then none else some (upToNull v.chars)

/-- The fault of a path. -/
def pathFault (text : List Char) : Fault := .documentPath (String.ofList text)

/-- What a path leads to in a document, if there is anything. -/
def findInDocument (d : Document) (text : List Char) : Option Path →
    Except Fault (Option Document)
  | none => .error (pathFault text)
  | some path =>
    match d.located.follow path with
    | .ok found => .ok (some found.document)
    | .error .nothing => .ok none
    | .error .broken => .error (pathFault text)

/-- A path that may be given in short, by a label or a place. -/
def shortPath? (v : Value) (text : List Char) : Option Path :=
  match text with
  | '$' :: _ => Path.ofText? text
  | _ =>
    let whole := match v with
      | .integer _ => '[' :: text ++ [']']
      | _ =>
        if text.all isAlphanumeric then '.' :: text
        else if text.head? = some '[' ∧ 3 ≤ text.length ∧ text.getLast? = some ']' then text
        else '.' :: '"' :: text ++ ['"']
    Path.ofText? ('$' :: whole)

/-! ## Functions -/

/-- What paths lead to: the only one to a value, several ones to the elements of an array; null if
one of them is null. -/
def extracted (form : DocumentForm) (d : Document) (paths : List Value) : Except Fault Value := do
  match paths with
  | [path] =>
    match pathText? path with
    | none => return .null
    | some text =>
      match ← findInDocument d text (Path.ofText? text) with
      | some found => form.giveFound found
      | none => return .null
  | paths =>
    match ← go paths with
    | some elements => form.giveText ('[' :: separated [','] elements ++ [']'])
    | none => return .null
where
  go : List Value → Except Fault (Option (List (List Char)))
    | [] => .ok (some [])
    | path :: paths => do
      match pathText? path with
      | none => return none
      | some text =>
        let found ← findInDocument d text (Path.ofText? text)
        return (← go paths).map fun elements => (found.getD .null).write :: elements

/-- What a short path leads to, as a document or as a value. -/
def arrow (asValue : Bool) (d : Document) (path : Value) : Except Fault Value := do
  match pathText? path with
  | none => return .null
  | some text =>
    match ← findInDocument d text (shortPath? path text) with
    | none => return .null
    | some found => if asValue then Value.plain <$> found.value else return DocumentForm.text.give found

/-- A document, at the end of each path put what stands behind it; where a path is null, nothing
is done. -/
def edited (edit? : Document → Edit) : Document → List Value → Except Fault Document
  | d, path :: new :: more => do
    match pathText? path with
    | none => edited edit? d more
    | some text =>
      match Path.ofText? text with
      | none => throw (pathFault text)
      | some path =>
        match edit (edit? (← documentOfValue new)) path (some d) with
        | .ok changed => edited edit? (changed.getD d) more
        | .error .nothing => edited edit? d more
        | .error .broken => throw (pathFault text)
  | d, _ => .ok d

/-- A document without what paths lead to; none if a path is null or leads to all of it. -/
def removed? : Document → List Value → Except Fault (Option Document)
  | d, [] => .ok (some d)
  | d, path :: paths => do
    match pathText? path with
    | none => return none
    | some text =>
      match Path.ofText? text with
      | none => throw (pathFault text)
      | some path =>
        match edit .remove path (some d) with
        | .ok none => return none
        | .ok (some d) => removed? d paths
        | .error .nothing => removed? d paths
        | .error .broken => throw (pathFault text)

/-- The members of an object, from labels and values in turn. -/
def writtenMembers : List Value → Except Fault (List (List Char))
  | [] => .ok []
  | label :: value :: more =>
    match label with
    | .text _ | .document _ | .garbled _ => do
      let rest := writtenMembers more
      match writtenInDocument value, rest with
      | .error _, .error .documentLabel => throw .documentLabel
      | .error fault, _ => throw fault
      | .ok text, rest =>
        return ((⟨.raw, label.chars⟩ : Wording).write ++ ':' :: text) :: (← rest)
    | _ => .error .documentLabel
  | [_] => .error .documentLabels

/-- The text of an object. -/
def writtenObject (members : List (List Char)) : List Char :=
  '\x7b' :: separated [','] members ++ ['\x7d']

/-- The text of an array. -/
def writtenArray (elements : List (List Char)) : List Char :=
  '[' :: separated [','] elements ++ [']']

/-- Whether a value is a document of some kinds: a text that is JSON (1) or read as if it were
(2), or bytes that look like a document (4) or are one (8). -/
def isValid (flags : Nat) (v : Value) : Bool :=
  let asText :=
    let read := readDocument (upToNull v.chars)
    read.document?.isSome && (flags / 2 % 2 = 1 || flags % 2 = 1 && !read.isLoose)
  match v with
  | .blob bytes =>
    if looksEncoded bytes then
      flags / 4 % 2 = 1 || flags / 8 % 2 = 1 && (decode? bytes).isSome
    else asText
  | _ => asText

/-- The place of the fault in a document; 0 if there is none. -/
def faultPlace (v : Value) : Nat :=
  let ofText := (readDocument (upToNull v.chars)).faultPlace
  match v with
  | .blob bytes =>
    if looksEncoded bytes then if (decode? bytes).isSome then 0 else 1 else ofText
  | _ => ofText

/-- How many elements a document has, or what a path leads to in it. -/
def arrayLength (d : Document) (path : List Value) : Except Fault Value := do
  match path with
  | [] => return count d
  | path :: _ =>
    match pathText? path with
    | none => return .null
    | some text => return ((← findInDocument d text (Path.ofText? text)).map count).getD .null
where
  count : Document → Value
    | .array elements => .integer (Int64.ofNat elements.length)
    | _ => .integer 0

/-- The kind of a document, or of what a path leads to in it. -/
def kindOf (d : Document) (path : List Value) : Except Fault Value := do
  match path with
  | [] => return .text d.kind
  | path :: _ =>
    match pathText? path with
    | none => return .null
    | some text =>
      return ((← findInDocument d text (Path.ofText? text)).map fun d => .text d.kind).getD .null

/-- What a function that is known by its name in lower case makes of a document and further
arguments. -/
def ofDocument (name : String) (form : DocumentForm) (d : Document) (values : List Value) :
    Except Fault Value := do
  match name, values with
  | "json", [] => return form.give d
  | "json_array_length", path => arrayLength d path
  | "json_extract", paths => if paths.isEmpty then return .null else extracted form d paths
  | "->", [path] => arrow false d path
  | "->>", [path] => arrow true d path
  | "json_insert", values => form.give <$> edited .insert d values
  | "json_replace", values => form.give <$> edited .replace d values
  | "json_set", values => form.give <$> edited .set d values
  | "json_remove", paths => return ((← removed? d paths).map form.give).getD .null
  | "json_patch", [patch] =>
    return ((← documentOf? patch).map fun patch => form.give (merge patch (some d))).getD .null
  | "json_pretty", indent =>
    let indent := ((indent.head?.bind pathText?)).getD "    ".toList
    return textValue (d.writePretty indent [])
  | "json_type", path => kindOf d path
  | _, _ => return .null

/-- The form of the results of a function, and its name for texts. -/
def formOf (name : String) : DocumentForm × String :=
  if "jsonb".toList.isPrefixOf name.toList then
    (.bytes, "json" ++ String.ofList (name.toList.drop 5))
  else (.text, name)

/-- Whether a function takes documents as what they are. -/
def takesDocuments (name : String) : Bool :=
  "json".toList.isPrefixOf name.toList ||
    ["->", "->>", "coalesce", "ifnull", "iif", "likelihood", "likely", "max", "min", "nullif",
      "subtype", "unlikely"].contains name

/-- What a function of documents, known by its name in lower case, makes of its arguments; none
if it is no such function. -/
def documentFunction? (name : String) (values : List Value) : Option (Except Fault Value) :=
  let (form, name) := formOf name
  match name, values with
  | "json_array", values => some do
    form.giveText (writtenArray (← values.mapM writtenInDocument))
  | "json_object", values => some do
    if values.length % 2 = 1 then throw .documentLabels
    form.giveText (writtenObject (← writtenMembers values))
  | "json_quote", [v] => some do form.giveText (← writtenInDocument v)
  | "json_valid", v :: flags => some do
    let flags := (flags.head?.map fun v => v.asInteger.toInt).getD 1
    if flags < 1 ∨ 15 < flags then throw .documentFlags
    return if v = .null then .null else .ofTruth (isValid flags.toNat v)
  | "json_error_position", [v] => some <| .ok <|
    if v = .null then .null else .integer (Int64.ofNat (faultPlace v))
  | "subtype", [v] => some <| .ok <| .integer (match v with
    | .document _ => 74
    | _ => 0)
  | name, values =>
    let isEditing := ["json_insert", "json_replace", "json_set"].contains name
    if !(takesDocuments name && (name.toList.head? == some '-' || "json".toList.isPrefixOf name.toList))
    then none
    else match values with
      | [] => some (.ok .null)
      | v :: more =>
        if isEditing && more.length % 2 = 1 then some (.error (.documentEdits name))
        else if name == "json_extract" && more.isEmpty then some (.ok .null)
        else some do
          match ← documentOf? v with
          | none => return .null
          | some d => ofDocument name form d more

/-! ## Aggregates -/

/-- Whether an aggregate, known by its name in lower case, is one of documents. -/
def groupsDocuments (name : String) : Bool :=
  ["json_group_array", "json_group_object"].contains (formOf name).2

/-- What an aggregate of documents, known by its name in lower case, makes of its rows. -/
def documentAggregate? (name : String) (rows : List (List Value)) : Option (Except Fault Value) :=
  let (form, name) := formOf name
  match name with
  | "json_group_array" => some do
    let elements ← rows.mapM fun row => writtenInDocument (row.headD .null)
    form.giveText (writtenArray elements)
  | "json_group_object" => some do
    let members ← rows.mapM fun row => do
      let label := match row.headD .null with
        | .null => []
        | v => (⟨.raw, upToNull v.chars⟩ : Wording).write
      return label ++ ':' :: (← writtenInDocument ((row[1]?).getD .null))
    form.giveText (writtenObject members)
  | _ => none

end Sql
end ReportQuery
