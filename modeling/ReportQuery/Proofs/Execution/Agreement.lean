/-
# The ways of running a statement agree

A statement can be run in three ways: for its items, for a handler, or for one
value.  They go through the stream apart from each other, and differ in how far
they go.

* `fetch` gives every item, and goes on behind an error.
* `forEach` stops at the first error, if not before.
* `scalar?` takes one item.

What they give of the same item is the same (`runs_agree`).  A handler that accepts
everything gets the rows that `fetch` gives before its first error, and the run
comes to that error; a scalar is read from the first item that `fetch` gives, and
hangs on no other one.  All of them hand the same statement to the connection, and
look at nothing else than its answer to it (`HandsOver`).
-/

import ReportQuery.Proofs.Execution.Protocol

namespace ReportQuery

/-- A way of running a statement hands it to a connection: the run hangs on what the connection
answers to this statement, text and values, and the statement is sent unless it has a value that
cannot be sent. -/
structure HandsOver {α : Type} (p : PreparedQuery) (run : Connection → Run α) : Prop where
  asks : ∀ c c', c p = c' p → run c = run c'
  sent : ∀ c, (run c).sent = p.unsendable?.isNone

/-- A handler that answers every call without a failure. -/
def Handler.Accepting {σ : Type} (h : Handler σ) : Prop := ∀ c s, (h.answer c s).1 = .ok ()

variable {σ : Type}

/-! ## A handler that accepts everything -/

theorem Handler.Accepting.eq_ok_of_mem_calls {h : Handler σ} (hh : h.Accepting)
    (actions : List Action) (s : σ) {entry : Call × Except Error Unit}
    (he : entry ∈ calls (carryOut h actions s).1) : entry.2 = .ok () := by
  induction actions generalizing s with
  | nil => exact absurd he List.not_mem_nil
  | cons a actions ih =>
    cases a with
    | pull item =>
      cases item with
      | error cause => exact absurd he List.not_mem_nil
      | ok row => exact ih s he
    | call c =>
      rcases ha : h.answer c s with ⟨_ | ⟨⟩, t⟩
      · exact nomatch (congrArg Prod.fst ha).symm.trans (hh c s)
      · rw [carryOut_call_of_ok ha, calls_call_cons] at he
        rcases List.mem_cons.1 he with rfl | he
        · rfl
        · exact ih t he

/-- If all calls are accepted, the rows are handled up to an error of the stream, or to its end. -/
theorem Course.of_accepted {items : List Item} {log : Log} {result : Except Error Unit}
    {pulled : Nat} (h : Course items log result pulled) (ha : ∀ entry ∈ log, entry.2 = .ok ()) :
    (items = (handled log).map .ok ∧ result = .ok ()) ∨
      ∃ cause rest, items = (handled log).map .ok ++ .error cause :: rest ∧
        result = .error (.database cause) := by
  cases h with
  | barred cause rest => exact .inr ⟨cause, rest, rfl, rfl⟩
  | refused items e hi => exact nomatch ha _ List.mem_cons_self
  | begun h hi =>
    cases h with
    | complete rows => exact .inl ⟨by simp, rfl⟩
    | broken rows cause rest => exact .inr ⟨cause, rest, by simp, rfl⟩
    | rejected rows row e rest => exact nomatch ha (.handle row, .error e) (by simp)

namespace PreparedQuery

/-! ## What each way makes of a stream -/

theorem stream_congr {p : PreparedQuery} {c c' : Connection} (h : c p = c' p) :
    p.stream c = p.stream c' := by
  cases hp : p.unsendable? with
  | some e => rw [stream_of_unsendable hp, stream_of_unsendable hp]
  | none => rw [stream_of_sendable hp, stream_of_sendable hp, h]

theorem handsOver_run {α : Type} (p : PreparedQuery) (result : List Item → α)
    (taken : List Item → Nat) :
    HandsOver p fun c => p.run (result (p.stream c)) (taken (p.stream c)) where
  asks c c' h := by rw [stream_congr h]
  sent c := by
    cases hp : p.unsendable? with
    | some e => rw [run_of_unsendable hp]; rfl
    | none => rw [run_of_sendable hp]; rfl

/-- The items that are taken with a limit. -/
def limited (limit : Option Nat) (items : List Item) : List Item :=
  limit.elim items fun n => items.take n

theorem fetch_eq_run (p : PreparedQuery) (c : Connection) (limit : Option Nat) :
    p.fetch c limit =
      p.run ((limited limit (p.stream c)).map fun item => item.mapError p.failure)
        (limited limit (p.stream c)).length := by
  cases limit <;> rfl

theorem result_fetch (p : PreparedQuery) (c : Connection) :
    (p.fetch c none).result = (p.stream c).map fun item => item.mapError p.failure := by
  rw [fetch_eq_run, result_run]
  rfl

theorem result_fetch_some (p : PreparedQuery) (c : Connection) (k : Nat) :
    (p.fetch c (some k)).result = (p.fetch c none).result.take k := by
  rw [result_fetch, ← List.map_take, fetch_eq_run, result_run]
  rfl

/-- What a scalar is made of: the first item, if there is one. -/
def scalarOf (p : PreparedQuery) (t : ScalarType) : Option Item → Except Error (Option Scalar)
  | none => .ok none
  | some (.error cause) => .error (p.failure cause)
  | some (.ok row) => (row.read t.decodeOptional 0).mapError p.failure

theorem scalar?_eq_run (p : PreparedQuery) (c : Connection) (t : ScalarType) :
    p.scalar? c t =
      p.run (p.scalarOf t (p.stream c).head?) (p.stream c).head?.toList.length := by
  rw [scalar?]
  split <;> simp_all [scalarOf]

/-- What holds between the ways of running a statement on one connection. -/
structure Agreement (p : PreparedQuery) (c : Connection) : Prop where
  /-- `fetch` gives as many items as there are. -/
  length_fetch : (p.fetch c none).result.length = (p.stream c).length
  /-- A row is given as it is. -/
  fetch_row : ∀ (i : Nat) row, (p.stream c)[i]? = some (.ok row) →
    (p.fetch c none).result[i]? = some (.ok row)
  /-- An error is given with the text of the statement. -/
  fetch_error : ∀ (i : Nat) cause, (p.stream c)[i]? = some (.error cause) →
    (p.fetch c none).result[i]? = some (.error (.query p.sql cause))
  /-- With a limit, the first items are given, and no other ones are taken. -/
  fetch_limit : ∀ k, (p.fetch c (some k)).result = (p.fetch c none).result.take k ∧
    (p.unsendable? = none → (p.fetch c (some k)).pulled = min k (c p).length)
  /-- A handler that accepts everything gets the rows before the first error. -/
  forEach_rows : ∀ (σ : Type) (h : Handler σ) (s : σ), h.Accepting →
    (handled (p.forEach c h.recording (s, [])).result.2.2).map .ok =
      (p.fetch c none).result.takeWhile (·.isOk)
  /-- The run for it succeeds if there is no error. -/
  forEach_ok : ∀ (σ : Type) (h : Handler σ) (s : σ), h.Accepting →
    ((p.forEach c h s).result.1 = .ok () ↔ ∀ item ∈ (p.fetch c none).result, item.isOk = true)
  /-- It comes to the first error otherwise. -/
  forEach_error : ∀ (σ : Type) (h : Handler σ) (s : σ), h.Accepting → ∀ e,
    ((p.forEach c h s).result.1 = .error e ↔
      (p.fetch c none).result.find? (!·.isOk) = some (.error e))
  /-- A scalar takes one item at most. -/
  scalar_pulled : ∀ t, (p.scalar? c t).pulled ≤ 1
  /-- Without any item there is no value. -/
  scalar_none : ∀ t, (p.fetch c none).result = [] → (p.scalar? c t).result = .ok none
  /-- An error that comes first is the error of the scalar. -/
  scalar_error : ∀ t e, (p.fetch c none).result.head? = some (.error e) →
    (p.scalar? c t).result = .error e
  /-- A null at the front of the row that comes first is no value. -/
  scalar_null : ∀ t row, (p.fetch c none).result.head? = some (.ok row) →
    row.cells.head? = some .null → (p.scalar? c t).result = .ok none
  /-- The first value of the row that comes first is decoded. -/
  scalar_value : ∀ t row cell value, (p.fetch c none).result.head? = some (.ok row) →
    row.cells.head? = some cell → t.decodeOptional cell = .ok value →
    (p.scalar? c t).result = .ok value
  /-- A value that cannot be decoded is an error with the text of the statement. -/
  scalar_fault : ∀ t row cell fault, (p.fetch c none).result.head? = some (.ok row) →
    row.cells.head? = some cell → t.decodeOptional cell = .error fault →
    (p.scalar? c t).result = .error (.query p.sql (.decoding 0 fault))
  /-- So is a row without any value. -/
  scalar_empty : ∀ t row, (p.fetch c none).result.head? = some (.ok row) → row.cells = [] →
    (p.scalar? c t).result = .error (.query p.sql (.columnOutOfBounds 0 0))
  /-- Streams that begin with the same item give the same scalar. -/
  scalar_congr : ∀ t c', (p.stream c').head? = (p.stream c).head? →
    p.scalar? c' t = p.scalar? c t

theorem head?_fetch (p : PreparedQuery) (c : Connection) :
    (p.fetch c none).result.head? = (p.stream c).head?.map fun item => item.mapError p.failure := by
  rw [result_fetch, List.head?_map]

theorem result_scalar (p : PreparedQuery) (c : Connection) (t : ScalarType) :
    (p.scalar? c t).result = p.scalarOf t (p.stream c).head? := by
  rw [scalar?_eq_run, result_run]

/-- A row that `fetch` gives first is the first item of the stream. -/
theorem head?_stream_of_fetch {p : PreparedQuery} {c : Connection} {row : Row}
    (h : (p.fetch c none).result.head? = some (.ok row)) : (p.stream c).head? = some (.ok row) := by
  rw [head?_fetch] at h
  obtain ⟨item, hi, hr⟩ := Option.map_eq_some_iff.1 h
  cases item with
  | error cause => cases hr
  | ok row' => rwa [← Except.ok.inj hr]

theorem scalar_of_cell {p : PreparedQuery} {c : Connection} {t : ScalarType} {row : Row}
    {cell : Cell} (h : (p.fetch c none).result.head? = some (.ok row))
    (hc : row.cells.head? = some cell) :
    (p.scalar? c t).result =
      ((t.decodeOptional cell).mapError (.decoding 0)).mapError p.failure := by
  rw [result_scalar, head?_stream_of_fetch h, scalarOf, Row.read, ← List.head?_eq_getElem?, hc]

/-- A handler that accepts everything gets the rows that `fetch` gives, up to an error that
`fetch` gives too. -/
theorem forEach_accepting (p : PreparedQuery) (c : Connection) {h : Handler σ} (hh : h.Accepting)
    (s : σ) : ∃ rows, handled (p.forEach c h.recording (s, [])).result.2.2 = rows ∧
      (((p.fetch c none).result = rows.map .ok ∧ (p.forEach c h s).result.1 = .ok ()) ∨
        ∃ e rest, (p.fetch c none).result = rows.map .ok ++ .error e :: rest ∧
          (p.forEach c h s).result.1 = .error e) := by
  have hrows : ∀ rows : List Row,
      (rows.map .ok : List Item).map (fun item => item.mapError p.failure) = rows.map .ok :=
    fun rows => List.map_map
  refine ⟨_, rfl, ?_⟩
  rw [forEach_recording_eq_run, forEach_eq_run, result_run, result_run, result_fetch]
  rcases (course_carryOut h (p.stream c) s).of_accepted
    (fun entry => hh.eq_ok_of_mem_calls _ s) with ⟨hi, hv⟩ | ⟨cause, rest, hi, hv⟩
  · exact .inl ⟨by rw [← hrows, ← hi], by rw [hv]; rfl⟩
  · refine .inr ⟨p.failure cause, rest.map fun item => item.mapError p.failure, ?_, by rw [hv]; rfl⟩
    rw [← hrows]
    exact (congrArg _ hi).trans List.map_append

@[simp] theorem isOk_ok {ε α : Type} (a : α) : (.ok a : Except ε α).isOk = true := rfl

@[simp] theorem isOk_error {ε α : Type} (e : ε) : (.error e : Except ε α).isOk = false := rfl

/-- Rows in front of a list stand before its first error. -/
theorem takeWhile_rows_append (rows : List Row) (items : List (Except Error Row)) :
    (rows.map Except.ok ++ items).takeWhile (·.isOk) =
      rows.map Except.ok ++ items.takeWhile (·.isOk) := by
  refine List.takeWhile_append_of_pos fun item hi => ?_
  obtain ⟨row, -, rfl⟩ := List.mem_map.1 hi
  rfl

theorem find?_rows_append (rows : List Row) (items : List (Except Error Row)) :
    (rows.map Except.ok ++ items).find? (!·.isOk) = items.find? (!·.isOk) := by
  rw [List.find?_append, List.find?_eq_none.2, Option.none_or]
  intro item hi
  obtain ⟨row, -, rfl⟩ := List.mem_map.1 hi
  simp

theorem agreement (p : PreparedQuery) (c : Connection) : p.Agreement c where
  length_fetch := by rw [result_fetch, List.length_map]
  fetch_row := fun i row hi => by
    rw [result_fetch, List.getElem?_map, hi]
    rfl
  fetch_error := fun i cause hi => by
    rw [result_fetch, List.getElem?_map, hi]
    rfl
  fetch_limit := fun k => by
    refine ⟨p.result_fetch_some c k, fun hp => ?_⟩
    rw [fetch_eq_run, run_of_sendable hp, stream_of_sendable hp]
    exact List.length_take
  forEach_rows := fun σ h s hh => by
    obtain ⟨rows, hrows, ⟨hf, -⟩ | ⟨e, rest, hf, -⟩⟩ := p.forEach_accepting c hh s
    · rw [hrows, hf, ← List.append_nil (rows.map _), takeWhile_rows_append]
      rfl
    · rw [hrows, hf, takeWhile_rows_append]
      simp
  forEach_ok := fun σ h s hh => by
    obtain ⟨rows, -, ⟨hf, hr⟩ | ⟨e, rest, hf, hr⟩⟩ := p.forEach_accepting c hh s
    · simp [hr, hf]
    · rw [hr, hf]
      exact iff_of_false nofun fun ha => nomatch ha (.error e) (by simp)
  forEach_error := fun σ h s hh e => by
    obtain ⟨rows, -, ⟨hf, hr⟩ | ⟨e', rest, hf, hr⟩⟩ := p.forEach_accepting c hh s
    · rw [hr, hf, ← List.append_nil (rows.map _), find?_rows_append]
      exact iff_of_false nofun nofun
    · rw [hr, hf, find?_rows_append]
      simp
  scalar_pulled := fun t => by
    rw [scalar?_eq_run, run]
    split
    · exact Nat.zero_le 1
    · exact Option.length_toList_le
  scalar_none := fun t h => by
    rw [result_fetch, List.map_eq_nil_iff] at h
    rw [result_scalar, h]
    rfl
  scalar_error := fun t e h => by
    rw [head?_fetch] at h
    obtain ⟨item, hi, he⟩ := Option.map_eq_some_iff.1 h
    cases item with
    | ok row => cases he
    | error cause => rw [result_scalar, hi, scalarOf, ← Except.error.inj he]
  scalar_null := fun t row h hc => by
    rw [scalar_of_cell h hc]
    rfl
  scalar_value := fun t row cell value h hc hd => by
    rw [scalar_of_cell h hc, hd]
    rfl
  scalar_fault := fun t row cell fault h hc hd => by
    rw [scalar_of_cell h hc, hd]
    rfl
  scalar_empty := fun t row h hc => by
    rw [result_scalar, head?_stream_of_fetch h, scalarOf, Row.read, hc]
    rfl
  scalar_congr := fun t c' h => by rw [scalar?_eq_run, scalar?_eq_run, h]

theorem handsOver_fetch (p : PreparedQuery) (limit : Option Nat) :
    HandsOver p fun c => p.fetch c limit := by
  simp only [fetch_eq_run]
  exact p.handsOver_run (fun items => (limited limit items).map fun item => item.mapError p.failure)
    fun items => (limited limit items).length

theorem handsOver_forEach (p : PreparedQuery) (h : Handler σ) (s : σ) :
    HandsOver p fun c => p.forEach c h s := by
  simp only [forEach_eq_run]
  exact p.handsOver_run
    (fun items => ((verdict (carryOut h (agenda items) s).1).mapError p.wrap,
      (carryOut h (agenda items) s).2))
    fun items => pulls (carryOut h (agenda items) s).1

theorem handsOver_scalar? (p : PreparedQuery) (t : ScalarType) :
    HandsOver p fun c => p.scalar? c t := by
  simp only [scalar?_eq_run]
  exact p.handsOver_run (fun items => p.scalarOf t items.head?)
    fun items => items.head?.toList.length

/-- **The ways of running a statement agree**, for every statement and whatever the connection
answers.  What `forEach` gives to a handler that accepts everything, and what it comes to, is told
by the items of `fetch`, and what `scalar?` reads by the first one of them.  All of them hand the
same statement, text and values, to the connection. -/
theorem runs_agree (p : PreparedQuery) (c : Connection) :
    p.Agreement c ∧ (∀ limit, HandsOver p fun c => p.fetch c limit) ∧
      (∀ (σ : Type) (h : Handler σ) (s : σ), HandsOver p fun c => p.forEach c h s) ∧
      ∀ t, HandsOver p fun c => p.scalar? c t :=
  ⟨p.agreement c, p.handsOver_fetch, fun _ => p.handsOver_forEach, p.handsOver_scalar?⟩

/-- A handler that counts the rows. -/
def countingRows : Handler Nat where
  init _ count := (.ok (), count)
  handle _ count := (.ok (), count + 1)

/-- A closed pool behind two sites: whoever counts the rows comes to the error, whoever asks for the
first value or for two items does not. -/
theorem runs_agree_sitesThenClosed :
    let p : PreparedQuery := ⟨.sqlite, "SELECT SiteId FROM Site ", []⟩
    let c : Connection := fun _ => sitesThenClosed
    countingRows.Accepting ∧ p.unsendable? = none ∧
      (p.forEach c countingRows 0).result.1 = .error (.query p.sql .poolClosed) ∧
      (p.fetch c (some 2)).pulled = 2 ∧
      (p.scalar? c .int32).result = .ok (some (.int32 1)) := by
  intro p c
  have ha : countingRows.Accepting := by
    intro call count
    cases call <;> rfl
  obtain ⟨agree, -⟩ := p.runs_agree c
  exact ⟨ha, rfl, (agree.forEach_error Nat countingRows 0 ha _).2 rfl, (agree.fetch_limit 2).2 rfl,
    agree.scalar_value .int32 _ (.integer 1) _ rfl rfl rfl⟩

end PreparedQuery
end ReportQuery
