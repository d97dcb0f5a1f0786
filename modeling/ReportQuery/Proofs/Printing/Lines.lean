/-
# What a run prints

A run that prints its rows puts down one line for each row that comes before the first
error, in their order, and nothing else (`forEach_prints`).  The line of the `k`-th row
is the number `k`, and for each column its name and the value at its own place; names
may be the same.

The columns, the labels and the count of rows go forward in different places.  They
agree behind every row, because each is told by the rows that were printed
(`columns_printAll`, `labels_printAll`, `rows_printAll`), and so are the lines
(`lines_printAll`).
-/

import ReportQuery.Proofs.Execution.Protocol
import ReportQuery.Proofs.Printing.Labels

namespace ReportQuery
namespace RowPrinter

/-! ## What is to be printed -/

/-- A line that has a number and, for each column in their order, its name and the value at its own
place. -/
def IsLine (number : Nat) (columns : List String) (cells : List Cell) (text : String) : Prop :=
  ∃ fields : List String, fields.length = columns.length ∧
    (∀ (i : Nat) (column : String) (c : Cell), columns[i]? = some column → cells[i]? = some c →
      fields[i]? = some (column ++ "=" ++ cellText c)) ∧
    text = toString number ++ ". " ++ ", ".intercalate fields

/-- A printer that has got its columns, and no row yet. -/
def begun (columns : List String) : RowPrinter := { columns := columns }

/-- What a printer holds that has printed some rows, and nothing before them. -/
structure Printed (columns : List String) (rows : List Row) (p : RowPrinter) : Prop where
  /-- The names are those of the columns, if there are rows. -/
  columns_eq : rows ≠ [] → p.columns = columns
  /-- There is a line for each row. -/
  length_lines : p.lines.length = rows.length
  /-- It is the line of the row with the number of its place. -/
  isLine : ∀ (k : Nat) (row : Row), rows[k]? = some row →
    ∃ text, p.lines[k]? = some text ∧ IsLine (k + 1) columns row.cells text
  /-- The lines are counted. -/
  rows_eq : p.rows = p.lines.length
  /-- The last label is the count. -/
  last : ∀ text, p.lines.getLast? = some text → ∃ fields, text = toString p.rows ++ ". " ++ fields
  /-- The number of the next label has room in 32 bits. -/
  counter : p.labels.number.toNat = p.rows + 1

/-! ## Lines -/

/-- A line is as it is to be, if there is a value for each column. -/
theorem isLine_line {columns : List String} {cells : List Cell} (h : cells.length = columns.length)
    (number : Nat) : IsLine number columns cells (line columns (toString number) cells) := by
  refine ⟨_, ?_, fun i column c hcolumn hc => ?_, rfl⟩
  · rw [List.length_map, List.length_zip, h, Nat.min_self]
  · have hpair : (columns.zip cells)[i]? = some (column, c) :=
      List.getElem?_zip_eq_some.2 ⟨hcolumn, hc⟩
    rw [List.getElem?_map, hpair]
    rfl

theorem lines_printAll (p : RowPrinter) (rows : List Row) :
    (p.printAll rows).lines = p.lines ++
      List.zipWith (fun label row => line p.columns label row.cells)
        (p.labels.take rows.length).1 rows := by
  induction rows generalizing p with
  | nil => exact (List.append_nil p.lines).symm
  | cons row rows ih =>
    rw [printAll_cons, ih, List.length_cons, LabelSequence.take_succ, List.zipWith_cons_cons]
    exact List.append_assoc _ _ _

theorem length_lines_printAll (p : RowPrinter) (rows : List Row) :
    (p.printAll rows).lines.length = p.lines.length + rows.length := by
  rw [lines_printAll, List.length_append, List.length_zipWith, LabelSequence.length_take,
    Nat.min_self]

section

variable {columns : List String} {rows : List Row}

/-- The line of a row has the label of its place. -/
theorem getElem?_lines_printAll {k : Nat} {row : Row} (h : rows[k]? = some row) :
    ((begun columns).printAll rows).lines[k]? =
      some (line columns (LabelSequence.numbered (k + 1)) row.cells) := by
  have hk : k < rows.length := (List.getElem?_eq_some_iff.1 h).1
  have hlabel : (LabelSequence.take {} rows.length).1[k]? =
      some (LabelSequence.numbered (k + 1)) := by
    rw [LabelSequence.at_first.take_eq, List.getElem?_map, List.getElem?_range' hk,
      Nat.one_mul, Nat.add_comm]
    rfl
  rw [lines_printAll, begun, List.nil_append, List.getElem?_zipWith, hlabel, h]

/-- **A printer has printed the rows that it was given**, while their numbers have room in
32 bits. -/
theorem printed_printAll (hcells : ∀ row ∈ rows, row.cells.length = columns.length)
    (hn : rows.length < UInt32.size - 1) :
    Printed columns rows ((begun columns).printAll rows) := by
  have hrows : ((begun columns).printAll rows).rows = rows.length := by
    rw [rows_printAll, begun, Nat.zero_add]
  have hlines : ((begun columns).printAll rows).lines.length = rows.length := by
    rw [length_lines_printAll, begun, List.length_nil, Nat.zero_add]
  have hline : ∀ (k : Nat) (row : Row), rows[k]? = some row →
      ((begun columns).printAll rows).lines[k]? =
        some (line columns (toString (k + 1)) row.cells) := by
    intro k row h
    have hk : k < rows.length := (List.getElem?_eq_some_iff.1 h).1
    rw [getElem?_lines_printAll h, LabelSequence.numbered_eq_toString_iff.2 (by omega)]
  refine ⟨fun _ => columns_printAll _ rows, hlines, fun k row h => ⟨_, hline k row h, ?_⟩,
    hrows.trans hlines.symm, fun text h => ?_, ?_⟩
  · exact isLine_line (hcells row (List.mem_of_getElem? h)) (k + 1)
  · rw [List.getLast?_eq_getElem?, hlines] at h
    have hlast : rows.length - 1 < rows.length := by
      have := (List.getElem?_eq_some_iff.1 h).1
      omega
    rw [hline _ _ (List.getElem?_eq_getElem hlast), Nat.sub_add_cancel (by omega)] at h
    rw [hrows, ← Option.some.inj h]
    exact ⟨_, rfl⟩
  · have hat : ((begun columns).printAll rows).labels.At (1 + rows.length) := by
      rw [labels_printAll]
      exact LabelSequence.at_first.take rows.length
    rw [hat, hrows, Nat.mod_eq_of_lt (by omega), Nat.add_comm]

end

theorem printed_nil (columns : List String) : Printed columns [] {} where
  columns_eq h := absurd rfl h
  length_lines := rfl
  isLine _ _ h := absurd h (by simp)
  rows_eq := rfl
  last _ h := absurd h (by simp)
  counter := rfl

end RowPrinter

/-! ## Runs -/

namespace PreparedQuery

/-- What comes of a stream behind its rows. -/
def ending (p : PreparedQuery) : List Item → Except Error Unit
  | .error cause :: _ => .error (p.failure cause)
  | _ => .ok ()

section

variable (p : PreparedQuery) {rest : List Item}

/-- What comes behind all the rows is nothing, or an error first. -/
theorem eq_nil_or_error (hr : ∀ row more, rest ≠ .ok row :: more) :
    rest = [] ∨ ∃ cause more, rest = .error cause :: more := by
  cases rest with
  | nil => exact .inl rfl
  | cons item more =>
    cases item with
    | error cause => exact .inr ⟨cause, more, rfl⟩
    | ok row => exact absurd rfl (hr row more)

theorem ending_eq_ok_iff (hr : ∀ row more, rest ≠ .ok row :: more) :
    p.ending rest = .ok () ↔ rest = [] := by
  rcases eq_nil_or_error hr with rfl | ⟨cause, more, rfl⟩
  · exact iff_of_true rfl rfl
  · exact iff_of_false (by simp [ending]) (List.cons_ne_nil _ _)

theorem handleRows_printer (rows : List Row) (hr : ∀ row more, rest ≠ .ok row :: more)
    (q : RowPrinter) :
    (p.handleRows RowPrinter.handler (rows.map .ok ++ rest) q).1 =
      (p.ending rest, q.printAll rows) := by
  induction rows generalizing q with
  | nil => rcases eq_nil_or_error hr with rfl | ⟨cause, more, rfl⟩ <;> rfl
  | cons row rows ih => exact ih (q.print row)

theorem handleStream_printer (rows : List Row) (hr : ∀ row more, rest ≠ .ok row :: more) :
    (p.handleStream RowPrinter.handler (rows.map .ok ++ rest) {}).1 =
      (p.ending rest, (RowPrinter.begun (firstColumns (rows.map .ok))).printAll rows) := by
  cases rows with
  | nil => rcases eq_nil_or_error hr with rfl | ⟨cause, more, rfl⟩ <;> rfl
  | cons row rows => exact p.handleRows_printer (row :: rows) hr _

theorem result_forEach_printer {c : Connection} {rows : List Row}
    (hs : p.stream c = rows.map .ok ++ rest) (hr : ∀ row more, rest ≠ .ok row :: more) :
    (p.forEach c RowPrinter.handler {}).result =
      (p.ending rest, (RowPrinter.begun (firstColumns (rows.map .ok))).printAll rows) := by
  rw [forEach, result_run, hs, p.handleStream_printer rows hr]

end

/-- **A run prints the rows that come before the first error**, each on a line of its own, and ends
with that error if there is one.  What is printed is the same as without the error. -/
theorem forEach_prints (p : PreparedQuery) (c : Connection) (columns : List String)
    (rows : List Row) (rest : List Item) (hs : p.stream c = rows.map .ok ++ rest)
    (hr : ∀ row more, rest ≠ .ok row :: more)
    (hrows : ∀ row ∈ rows, row.columns = columns ∧ row.cells.length = columns.length)
    (hn : rows.length < UInt32.size - 1) :
    let run := p.forEach c RowPrinter.handler {}
    RowPrinter.Printed columns rows run.result.2 ∧
      (run.result.1 = .ok () ↔ rest = []) ∧
      (∀ cause more, rest = .error cause :: more → run.result.1 = .error (p.failure cause)) ∧
      ∀ c', p.stream c' = rows.map .ok →
        (p.forEach c' RowPrinter.handler {}).result = (.ok (), run.result.2) := by
  intro run
  have hrun : run.result =
      (p.ending rest, (RowPrinter.begun (firstColumns (rows.map .ok))).printAll rows) :=
    p.result_forEach_printer hs hr
  rw [hrun]
  refine ⟨?_, p.ending_eq_ok_iff hr, ?_, fun c' hs' => ?_⟩
  · cases rows with
    | nil => exact RowPrinter.printed_nil columns
    | cons row rows =>
      have hfirst : firstColumns ((row :: rows).map .ok) = columns :=
        (hrows row List.mem_cons_self).1
      rw [hfirst]
      exact RowPrinter.printed_printAll (fun row h => (hrows row h).2) hn
  · rintro cause more rfl
    rfl
  · have halone : p.stream c' = rows.map .ok ++ [] := by rw [hs', List.append_nil]
    exact p.result_forEach_printer halone (by simp)

/-- Two sites whose columns have one name, and then a pool that is closed. -/
def twinSites : List Row :=
  [⟨["Id", "Id"], [.integer 1, .text "Ost"]⟩, ⟨["Id", "Id"], [.integer 2, .null]⟩]

theorem forEach_prints_twinSites :
    let p : PreparedQuery := ⟨.sqlite, "SELECT SiteId AS Id, Name AS Id FROM Site ", []⟩
    let run := p.forEach (fun _ => twinSites.map .ok ++ [.error .poolClosed]) RowPrinter.handler {}
    RowPrinter.Printed ["Id", "Id"] twinSites run.result.2 ∧
      run.result.1 = .error (p.failure .poolClosed) ∧
      run.result.2.lines = ["1. Id=1, Id=Ost", "2. Id=2, Id=NULL"] := by
  intro p run
  have h := forEach_prints p (fun _ => twinSites.map .ok ++ [.error .poolClosed]) ["Id", "Id"]
    twinSites [.error .poolClosed] rfl (by simp) (by decide) (by decide)
  exact ⟨h.1, h.2.2.1 _ _ rfl, by decide +kernel⟩

end PreparedQuery
end ReportQuery
