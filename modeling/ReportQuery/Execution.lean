/-
# Running a prepared query

A connection answers a statement with a stream of items, each a row or an error
of the database.  The stream is taken item by item, and a run tells how many
items it took.  Before that the values are bound one after the other, each as the
next argument (`PreparedQuery.bindAll`); where one cannot be encoded, nothing is sent,
and the error takes the place of the stream.

There are three ways to take a stream.

* `PreparedQuery.fetch` gives the items themselves.
* `PreparedQuery.forEach` drives a handler: `init` with the columns before the
  first row, or with none if the stream ends before any, and `handle` with each
  row.  It ends at the first failure, of the stream or of the handler.
* `PreparedQuery.scalar?` takes one item and reads the first value of the row.

An error of the database that comes out of a run carries the text of the
statement (`PreparedQuery.failure`); so does one that the handler gives back
(`PreparedQuery.wrap`).  The handler's other errors stay as they are.

The rows hold SQLite values, whatever database the statement is for.  `fetch` and
`forEach` pass them on as they are; `scalar?` reads one, and always by the rules of
SQLite, which are not those of MySQL and PostgreSQL.
-/

import ReportQuery.Query.Basic
import ReportQuery.Scalar.Decode

namespace ReportQuery

/-- An item of a stream. -/
abbrev Item := Except DatabaseError Row

/-- What a database answers to a statement. -/
abbrev Connection := PreparedQuery → List Item

/-- A consumer of rows, with a state of its own. -/
structure Handler (σ : Type) where
  /-- Gets the columns, once, before any row. -/
  init : List String → σ → Except Error Unit × σ
  /-- Gets each row. -/
  handle : Row → σ → Except Error Unit × σ

/-- The outcome of a run: its result, whether the statement was sent, and how many
items of the stream were taken. -/
structure Run (α : Type) where
  result : α
  sent : Bool
  pulled : Nat
deriving DecidableEq

namespace BoundValue

/-- The day of a value that MySQL has no encoding for: one outside the years 0 to 65535. -/
def unsendableDate? : BoundValue → Option Calendar.Date
  | .date d => if 0 ≤ d.year ∧ d.year ≤ 65535 then none else some d
  | .dateTime t => if 0 ≤ t.date.year ∧ t.date.year ≤ 65535 then none else some t.date
  | _ => none

end BoundValue

namespace Database

/-- Binds a value as the next argument, behind those that are bound. -/
def bindValue (d : Database) (bound : List BoundValue) (value : BoundValue) :
    Except DatabaseError (List BoundValue) :=
  match if d = .mysql then value.unsendableDate? else none with
  | some date => .error (.unsendableDate (bound.length + 1) date)
  | none => .ok (bound ++ [value])

end Database

namespace PreparedQuery

/-- The arguments of the statement: its values, bound in their order. -/
def bindAll (p : PreparedQuery) : Except DatabaseError (List BoundValue) :=
  p.binds.foldlM p.database.bindValue []

/-- The stream that answers the statement with its arguments. -/
def stream (p : PreparedQuery) (c : Connection) : List Item :=
  match p.bindAll with
  | .error e => [.error e]
  | .ok arguments => c { p with binds := arguments }

/-- A result after so many items of the stream. -/
def run {α : Type} (p : PreparedQuery) (result : α) (taken : Nat) : Run α :=
  match p.bindAll with
  | .error _ => ⟨result, false, 0⟩
  | .ok _ => ⟨result, true, taken⟩

/-- A failure of the database in running the statement. -/
def failure (p : PreparedQuery) (cause : DatabaseError) : Error := .query p.sql cause

/-- An error of a handler, as it comes out of the run. -/
def wrap (p : PreparedQuery) : Error → Error
  | .database cause => p.failure cause
  | e => e

/-! ## Items -/

/-- The rows and errors of the stream, `limit` of them at most. -/
def fetch (p : PreparedQuery) (c : Connection) (limit : Option Nat) :
    Run (List (Except Error Row)) :=
  let items := match limit with
    | some n => (p.stream c).take n
    | none => p.stream c
  p.run (items.map fun item => item.mapError p.failure) items.length

/-! ## Handlers -/

/-- Hands the rows of a stream to a handler, up to the first failure. -/
def handleRows {σ : Type} (p : PreparedQuery) (h : Handler σ) :
    List Item → σ → (Except Error Unit × σ) × Nat
  | [], s => ((.ok (), s), 0)
  | .error cause :: _, s => ((.error (p.failure cause), s), 1)
  | .ok row :: items, s =>
    match h.handle row s with
    | (.error e, s) => ((.error (p.wrap e), s), 1)
    | (.ok (), s) =>
      let (outcome, taken) := p.handleRows h items s
      (outcome, taken + 1)

/-- Hands a stream to a handler: its columns, and then its rows. -/
def handleStream {σ : Type} (p : PreparedQuery) (h : Handler σ) (items : List Item) (s : σ) :
    (Except Error Unit × σ) × Nat :=
  match items with
  | [] =>
    match h.init [] s with
    | (.error e, s) => ((.error (p.wrap e), s), 0)
    | (.ok (), s) => ((.ok (), s), 0)
  | .error cause :: _ => ((.error (p.failure cause), s), 1)
  | .ok row :: items =>
    match h.init row.columns s with
    | (.error e, s) => ((.error (p.wrap e), s), 1)
    | (.ok (), s) => p.handleRows h (.ok row :: items) s

/-- Runs the statement and drives a handler; the result and the handler's last state. -/
def forEach {σ : Type} (p : PreparedQuery) (c : Connection) (h : Handler σ) (s : σ) :
    Run (Except Error Unit × σ) :=
  let (outcome, taken) := p.handleStream h (p.stream c) s
  p.run outcome taken

/-! ## Scalars -/

/-- The first value of the first row; none if there is no row or the value is null. -/
def scalar? (p : PreparedQuery) (c : Connection) (t : ScalarType) :
    Run (Except Error (Option Scalar)) :=
  match p.stream c with
  | [] => p.run (.ok none) 0
  | .error cause :: _ => p.run (.error (p.failure cause)) 1
  | .ok row :: _ => p.run ((row.read t.decodeOptional 0).mapError p.failure) 1

end PreparedQuery

end ReportQuery
