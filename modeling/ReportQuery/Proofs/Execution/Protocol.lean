/-
# The protocol between a run and its handler

A run over a stream takes one of a few courses (`Course`).  An error may come
before any row, and then the handler is not called at all; or the handler may
refuse the columns; and if neither happens, the rows are handled one after the
other up to the end of the stream, an error in it, or a row that the handler
rejects (`RowCourse`).  Each course says which calls the handler got, what came of
the run, and how many items were taken.

What a run promises its handler is read off the courses (`Protocol`): `init` comes
first, once and with the right columns, rows are handled in the order of the
stream, and nothing happens after the first failure.  Every run keeps this promise,
for every stream and for a handler that may fail at any call
(`forEach_keeps_protocol`).
-/

import ReportQuery.Proofs.Execution.Agenda

namespace ReportQuery

/-! ## What a log shows -/

/-- The lists of columns with which `init` was called. -/
def inits (log : Log) : List (List String) :=
  log.filterMap fun
    | (.init columns, _) => some columns
    | (.handle _, _) => none

/-- The rows with which `handle` was called. -/
def handled (log : Log) : List Row :=
  log.filterMap fun
    | (.init _, _) => none
    | (.handle row, _) => some row

/-- The log of rows that the handler accepted. -/
def accepted (rows : List Row) : Log := rows.map fun row => (.handle row, .ok ())

section

variable {columns : List String} {row : Row} {answer : Except Error Unit} {log : Log}

@[simp] theorem inits_nil : inits [] = [] := rfl

@[simp] theorem inits_init_cons :
    inits ((.init columns, answer) :: log) = columns :: inits log := rfl

@[simp] theorem inits_handle_cons : inits ((.handle row, answer) :: log) = inits log := rfl

@[simp] theorem handled_nil : handled [] = [] := rfl

@[simp] theorem handled_init_cons : handled ((.init columns, answer) :: log) = handled log := rfl

@[simp] theorem handled_handle_cons :
    handled ((.handle row, answer) :: log) = row :: handled log := rfl

@[simp] theorem inits_append (log₁ log₂ : Log) :
    inits (log₁ ++ log₂) = inits log₁ ++ inits log₂ :=
  List.filterMap_append

@[simp] theorem handled_append (log₁ log₂ : Log) :
    handled (log₁ ++ log₂) = handled log₁ ++ handled log₂ :=
  List.filterMap_append

@[simp] theorem inits_accepted (rows : List Row) : inits (accepted rows) = [] := by
  induction rows with
  | nil => rfl
  | cons row rows ih => exact ih

@[simp] theorem handled_accepted (rows : List Row) : handled (accepted rows) = rows := by
  induction rows with
  | nil => rfl
  | cons row rows ih => exact congrArg (row :: ·) ih

@[simp] theorem accepted_cons (rows : List Row) :
    accepted (row :: rows) = (.handle row, .ok ()) :: accepted rows := rfl

end

/-! ## The courses of a run -/

/-- The columns that a handler is to get: those of the first row, if a row comes first. -/
def firstColumns : List Item → List String
  | .ok row :: _ => row.columns
  | _ => []

@[simp] theorem firstColumns_row_cons (row : Row) (rest : List Item) :
    firstColumns (.ok row :: rest) = row.columns := rfl

/-- How the rows of a stream may be handled: the items, the calls, what comes of them, and the
number of items taken. -/
inductive RowCourse : List Item → Log → Except Error Unit → Nat → Prop
  /-- All rows are accepted. -/
  | complete (rows : List Row) :
    RowCourse (rows.map .ok) (accepted rows) (.ok ()) rows.length
  /-- An error ends the stream. -/
  | broken (rows : List Row) (cause : DatabaseError) (rest : List Item) :
    RowCourse (rows.map .ok ++ .error cause :: rest) (accepted rows) (.error (.database cause))
      (rows.length + 1)
  /-- The handler rejects a row. -/
  | rejected (rows : List Row) (row : Row) (e : Error) (rest : List Item) :
    RowCourse (rows.map .ok ++ .ok row :: rest) (accepted rows ++ [(.handle row, .error e)])
      (.error e) (rows.length + 1)

/-- How a run over a stream may go. -/
inductive Course : List Item → Log → Except Error Unit → Nat → Prop
  /-- An error comes before any row. -/
  | barred (cause : DatabaseError) (rest : List Item) :
    Course (.error cause :: rest) [] (.error (.database cause)) 1
  /-- The handler refuses the columns. -/
  | refused (items : List Item) (e : Error) (hi : ∀ cause rest, items ≠ .error cause :: rest) :
    Course items [(.init (firstColumns items), .error e)] (.error e)
      (if items.isEmpty then 0 else 1)
  /-- The handler takes the columns, and the rows are handled. -/
  | begun {items : List Item} {log : Log} {result : Except Error Unit} {pulled : Nat}
    (h : RowCourse items log result pulled)
    (hi : ∀ cause rest, items ≠ .error cause :: rest) :
    Course items ((.init (firstColumns items), .ok ()) :: log) result pulled

/-- A row that is accepted comes before whatever happens next. -/
theorem RowCourse.cons {items : List Item} {log : Log} {result : Except Error Unit} {pulled : Nat}
    (h : RowCourse items log result pulled) (row : Row) :
    RowCourse (.ok row :: items) ((.handle row, .ok ()) :: log) result (pulled + 1) := by
  cases h with
  | complete rows => exact .complete (row :: rows)
  | broken rows cause rest => exact .broken (row :: rows) cause rest
  | rejected rows bad e rest => exact .rejected (row :: rows) bad e rest

variable {σ : Type}

theorem rowCourse_carryOut (h : Handler σ) (items : List Item) (s : σ) :
    RowCourse items (calls (carryOut h (rowAgenda items) s).1)
      (verdict (carryOut h (rowAgenda items) s).1) (pulls (carryOut h (rowAgenda items) s).1) := by
  induction items generalizing s with
  | nil => exact .complete []
  | cons item items ih =>
    cases item with
    | error cause => exact .broken [] cause items
    | ok row =>
      rw [rowAgenda, carryOut_pull_ok]
      rcases ha : h.answer (.handle row) s with ⟨e | ⟨⟩, t⟩
      · rw [carryOut_call_of_error ha]
        exact .rejected [] row e items
      · rw [carryOut_call_of_ok ha]
        simpa using (ih t).cons row

theorem course_carryOut (h : Handler σ) (items : List Item) (s : σ) :
    Course items (calls (carryOut h (agenda items) s).1) (verdict (carryOut h (agenda items) s).1)
      (pulls (carryOut h (agenda items) s).1) := by
  cases items with
  | nil =>
    rw [agenda]
    rcases ha : h.answer (.init []) s with ⟨e | ⟨⟩, t⟩
    · rw [carryOut_call_of_error ha]
      exact .refused [] e (by simp)
    · rw [carryOut_call_of_ok ha]
      exact .begun (.complete []) (by simp)
  | cons item items =>
    cases item with
    | error cause => exact .barred cause items
    | ok row =>
      rw [agenda, carryOut_pull_ok]
      rcases ha : h.answer (.init row.columns) s with ⟨e | ⟨⟩, t⟩
      · rw [carryOut_call_of_error ha]
        exact .refused (.ok row :: items) e (by simp)
      · rw [carryOut_call_of_ok ha]
        simpa [rowAgenda] using
          Course.begun (rowCourse_carryOut h (.ok row :: items) t) (by simp)

/-! ## The protocol -/

/-- What holds of the calls that a run makes to its handler, of its result and of the number of
items it takes, whatever the stream is and however the handler answers. -/
structure Protocol (p : PreparedQuery) (items : List Item) (log : Log)
    (result : Except Error Unit) (pulled : Nat) : Prop where
  /-- `init` is never called behind another call, be it `init` or `handle`. -/
  init_first : ∀ entry ∈ log.tail, ∃ row, entry.1 = .handle row
  /-- `init` is called once at most. -/
  length_inits_le : (inits log).length ≤ 1
  /-- If a row comes first, `init` is called with its columns. -/
  inits_of_row : ∀ row rest, items = .ok row :: rest → inits log = [row.columns]
  /-- If nothing comes, `init` is called without columns. -/
  inits_of_nil : items = [] → inits log = [[]]
  /-- If an error comes first, the handler is not called. -/
  log_of_error : ∀ cause rest, items = .error cause :: rest → log = []
  /-- The rows that are handled are the first items of the stream, in its order. -/
  handled_prefix : (handled log).map .ok <+: items
  /-- A call is made only if all calls before it were answered without a failure. -/
  ok_before : ∀ entry ∈ log.dropLast, entry.2 = .ok ()
  /-- If nothing fails, `init` was called once, the items are the rows that were handled, and all
  of them were taken. -/
  of_ok : result = .ok () → (inits log).length = 1 ∧ (handled log).map .ok = items ∧
    (∀ entry ∈ log, entry.2 = .ok ()) ∧ pulled = items.length
  /-- If something fails, it is an item behind the rows that were handled, or `init` as the only
  call, or `handle` as the last one.  The items are taken up to the one with which it fails. -/
  of_error : ∀ e, result = .error e →
    (∃ cause, items[(handled log).length]? = some (.error cause) ∧ e = p.failure cause ∧
      (∀ entry ∈ log, entry.2 = .ok ()) ∧ pulled = (handled log).length + 1) ∨
    (∃ columns e', log = [(.init columns, .error e')] ∧ e = p.wrap e' ∧
      pulled = if items.isEmpty then 0 else 1) ∨
    (∃ before row e', log = before ++ [(.handle row, .error e')] ∧
      items[(handled before).length]? = some (.ok row) ∧ e = p.wrap e' ∧
      pulled = (handled before).length + 1)

section

variable {items : List Item} {log : Log} {result : Except Error Unit} {pulled : Nat}

theorem eq_ok_of_mem_accepted {rows : List Row} {entry : Call × Except Error Unit}
    (h : entry ∈ accepted rows) : entry.2 = .ok () := by
  obtain ⟨row, -, rfl⟩ := List.mem_map.1 h
  rfl

theorem RowCourse.inits (h : RowCourse items log result pulled) : inits log = [] := by
  cases h <;> simp

theorem RowCourse.handle (h : RowCourse items log result pulled) :
    ∀ entry ∈ log, ∃ row, entry.1 = .handle row := by
  have ha : ∀ rows, ∀ entry ∈ accepted rows, ∃ row, entry.1 = .handle row := by
    intro rows entry he
    obtain ⟨row, -, rfl⟩ := List.mem_map.1 he
    exact ⟨row, rfl⟩
  cases h with
  | complete rows | broken rows => exact ha rows
  | rejected rows row e rest =>
    intro entry he
    rcases List.mem_append.1 he with he | he
    · exact ha rows entry he
    · obtain rfl := List.mem_singleton.1 he
      exact ⟨row, rfl⟩

theorem RowCourse.handled_prefix (h : RowCourse items log result pulled) :
    (handled log).map .ok <+: items := by
  cases h with
  | complete rows => simp
  | broken rows cause rest => simp
  | rejected rows row e rest => simp

theorem RowCourse.ok_before (h : RowCourse items log result pulled) :
    ∀ entry ∈ log.dropLast, entry.2 = .ok () := by
  intro entry he
  cases h with
  | complete rows | broken rows => exact eq_ok_of_mem_accepted (List.dropLast_subset _ he)
  | rejected rows row e rest =>
    rw [List.dropLast_concat] at he
    exact eq_ok_of_mem_accepted he

theorem RowCourse.of_ok (h : RowCourse items log result pulled) (hr : result = .ok ()) :
    (handled log).map .ok = items ∧ (∀ entry ∈ log, entry.2 = .ok ()) ∧
      pulled = items.length := by
  cases h with
  | complete rows => exact ⟨by simp, fun _ => eq_ok_of_mem_accepted, by simp⟩
  | broken | rejected => cases hr

theorem RowCourse.of_error (h : RowCourse items log result pulled) {e : Error}
    (hr : result = .error e) :
    (∃ cause, items[(handled log).length]? = some (.error cause) ∧ e = .database cause ∧
      (∀ entry ∈ log, entry.2 = .ok ()) ∧ pulled = (handled log).length + 1) ∨
    (∃ before row, log = before ++ [(.handle row, .error e)] ∧
      items[(handled before).length]? = some (.ok row) ∧
      pulled = (handled before).length + 1) := by
  cases h with
  | complete => cases hr
  | broken rows cause rest =>
    obtain rfl := Except.error.inj hr
    exact .inl ⟨cause, by simp, rfl, fun _ => eq_ok_of_mem_accepted, by simp⟩
  | rejected rows row e' rest =>
    obtain rfl := Except.error.inj hr
    exact .inr ⟨accepted rows, row, rfl, by simp, by simp⟩

theorem mapError_eq_error {f : Error → Error} {e : Error} (h : result.mapError f = .error e) :
    ∃ e', result = .error e' ∧ e = f e' := by
  cases result with
  | ok => cases h
  | error e' => exact ⟨e', rfl, (Except.error.inj h).symm⟩

/-- Every course keeps the protocol. -/
theorem Course.protocol (h : Course items log result pulled) (p : PreparedQuery) :
    Protocol p items log (result.mapError p.wrap) pulled := by
  cases h with
  | barred cause rest =>
    exact {
      init_first := by simp
      length_inits_le := by simp
      inits_of_row := by simp
      inits_of_nil := by simp
      log_of_error := by simp
      handled_prefix := by simp
      ok_before := by simp
      of_ok := nofun
      of_error := fun _ he => .inl ⟨cause, rfl, (Except.error.inj he).symm, by simp, rfl⟩ }
  | refused items e hi =>
    exact {
      init_first := by simp
      length_inits_le := by simp
      inits_of_row := by
        rintro row rest rfl
        rfl
      inits_of_nil := by
        rintro rfl
        rfl
      log_of_error := fun cause rest he => absurd he (hi cause rest)
      handled_prefix := by simp
      ok_before := by simp
      of_ok := nofun
      of_error := fun _ he => .inr (.inl ⟨_, e, rfl, (Except.error.inj he).symm, rfl⟩) }
  | @begun items log result pulled h hi =>
    exact {
      init_first := h.handle
      length_inits_le := by simp [h.inits]
      inits_of_row := by
        rintro row rest rfl
        simp [h.inits]
      inits_of_nil := by
        rintro rfl
        simp [h.inits, firstColumns]
      log_of_error := fun cause rest he => absurd he (hi cause rest)
      handled_prefix := h.handled_prefix
      ok_before := by
        intro entry he
        cases log with
        | nil => exact absurd he List.not_mem_nil
        | cons first log =>
          rw [List.dropLast_cons_cons] at he
          rcases List.mem_cons.1 he with rfl | he
          · rfl
          · exact h.ok_before entry he
      of_ok := by
        intro hr
        have hok : result = .ok () := by
          cases result with
          | ok => rfl
          | error => cases hr
        obtain ⟨hh, ha, hp⟩ := h.of_ok hok
        exact ⟨by simp [h.inits], hh, List.forall_mem_cons.2 ⟨rfl, ha⟩, hp⟩
      of_error := by
        intro e he
        obtain ⟨e', hr, rfl⟩ := mapError_eq_error he
        rcases h.of_error hr with ⟨cause, hi, rfl, ha, hp⟩ | ⟨before, row, rfl, hi, hp⟩
        · exact .inl ⟨cause, hi, rfl, List.forall_mem_cons.2 ⟨rfl, ha⟩, hp⟩
        · exact .inr (.inr ⟨(_, .ok ()) :: before, row, e', rfl, hi, rfl, hp⟩) }

end

/-! ## Items that are not taken do not matter -/

theorem carryOut_rowAgenda_take {h : Handler σ} {items : List Item} {s : σ} {e : Error}
    (he : verdict (carryOut h (rowAgenda items) s).1 = .error e) (rest : List Item) :
    carryOut h (rowAgenda (items.take (pulls (carryOut h (rowAgenda items) s).1) ++ rest)) s =
      carryOut h (rowAgenda items) s := by
  induction items generalizing s with
  | nil => cases he
  | cons item items ih =>
    cases item with
    | error cause => rfl
    | ok row =>
      rw [rowAgenda, carryOut_pull_ok] at he ⊢
      rcases ha : h.answer (.handle row) s with ⟨_ | ⟨⟩, t⟩
      · simp [carryOut_call_of_error ha, rowAgenda]
      · rw [carryOut_call_of_ok ha] at he ⊢
        simp [carryOut_call_of_ok ha, rowAgenda, ih he]

/-- If something fails, the items behind those that were taken have no part in it; but for the end
of the stream, which was seen if nothing came. -/
theorem carryOut_agenda_take {h : Handler σ} {items : List Item} {s : σ} {e : Error}
    (he : verdict (carryOut h (agenda items) s).1 = .error e) (hi : items ≠ []) (rest : List Item) :
    carryOut h (agenda (items.take (pulls (carryOut h (agenda items) s).1) ++ rest)) s =
      carryOut h (agenda items) s := by
  cases items with
  | nil => exact absurd rfl hi
  | cons item items =>
    cases item with
    | error cause => rfl
    | ok row =>
      rw [agenda, carryOut_pull_ok] at he ⊢
      rcases ha : h.answer (.init row.columns) s with ⟨_ | ⟨⟩, t⟩
      · simp [carryOut_call_of_error ha, agenda]
      · have hv : verdict (carryOut h (rowAgenda (.ok row :: items)) t).1 = .error e := by
          simpa [carryOut_call_of_ok ha, rowAgenda] using he
        simpa [carryOut_call_of_ok ha, agenda, rowAgenda] using carryOut_rowAgenda_take hv rest

namespace PreparedQuery

/-! ## Every run keeps the protocol -/

theorem forEach_eq_of_take {p : PreparedQuery} (hp : p.unsendable? = none) {c c' : Connection}
    {h : Handler σ} {s : σ} {rest : List Item} (hc : c p ≠ [])
    (hr : (p.forEach c h s).result.1 ≠ .ok ())
    (hc' : c' p = (c p).take (p.forEach c h s).pulled ++ rest) :
    p.forEach c' h s = p.forEach c h s := by
  rw [forEach_eq_run, run_of_sendable hp, stream_of_sendable hp] at hr hc'
  rw [forEach_eq_run, forEach_eq_run, stream_of_sendable hp, stream_of_sendable hp, hc']
  cases hv : verdict (carryOut h (agenda (c p)) s).1 with
  | ok => exact absurd (by rw [hv]; rfl) hr
  | error e => rw [carryOut_agenda_take hv hc rest, hv]

/-- **Every run keeps the protocol with its handler.**  The handler may fail at any call, and the
stream may be any list of rows and errors.  A handler that keeps a log of its calls goes through
the run like the one it is made of; the calls in the log are those of the agenda of the stream up
to the first action that fails, and so are the items taken; they keep the protocol; and if
something fails behind the first item, the run would have been the same with whatever items behind
those that it took.  If the statement cannot be sent, nothing is called, and nothing is taken. -/
theorem forEach_keeps_protocol (p : PreparedQuery) (c : Connection) (h : Handler σ) (s : σ) :
    let run := p.forEach c h.recording (s, [])
    let log := run.result.2.2
    let did := carryOut h (agenda (p.stream c)) s
    p.forEach c h s = ⟨(run.result.1, run.result.2.1), run.sent, run.pulled⟩ ∧
      (log = calls did.1 ∧ run.result.1 = (verdict did.1).mapError p.wrap ∧
        run.result.2.1 = did.2) ∧
      (p.unsendable? = none → run.sent = true ∧ run.pulled = pulls did.1 ∧
        Protocol p (c p) log run.result.1 run.pulled ∧
        ∀ c' rest, c p ≠ [] → run.result.1 ≠ .ok () → c' p = (c p).take run.pulled ++ rest →
          p.forEach c' h s = p.forEach c h s) ∧
      (∀ e, p.unsendable? = some e → run.sent = false ∧ run.pulled = 0 ∧ log = [] ∧
        run.result.1 = .error (p.failure e)) := by
  intro run log did
  have hrun : run = p.run ((verdict did.1).mapError p.wrap, did.2, calls did.1) (pulls did.1) :=
    p.forEach_recording_eq_run c h s
  have hresult : run.result = ((verdict did.1).mapError p.wrap, did.2, calls did.1) := by
    rw [hrun, result_run]
  have hplain : p.forEach c h s = ⟨(run.result.1, run.result.2.1), run.sent, run.pulled⟩ :=
    p.forEach_eq_forEach_recording c h s
  refine ⟨hplain, ⟨?_, ?_, ?_⟩, fun hp => ?_, fun e hp => ?_⟩
  · exact congrArg (·.2.2) hresult
  · exact congrArg (·.1) hresult
  · exact congrArg (·.2.1) hresult
  · have hpulled : run.pulled = pulls did.1 := by rw [hrun, run_of_sendable hp]
    refine ⟨by rw [hrun, run_of_sendable hp], hpulled, ?_, fun c' rest hc hr hc' => ?_⟩
    · rw [hpulled, ← stream_of_sendable hp c]
      simp only [log, hresult]
      exact (course_carryOut h (p.stream c) s).protocol p
    · rw [← congrArg Run.pulled hplain] at hc'
      exact forEach_eq_of_take hp hc (by rwa [hplain]) hc'
  · have hdid : did = ([(.pull (.error e), .error (.database e))], s) := by
      simp only [did, stream_of_unsendable hp]
      rfl
    refine ⟨by rw [hrun, run_of_unsendable hp], by rw [hrun, run_of_unsendable hp], ?_, ?_⟩
    · simp only [log, hresult, hdid]
      rfl
    · rw [hresult, hdid]
      rfl

/-- A handler that accepts as many rows as its state says, and rejects the next one. -/
def acceptingSome : Handler Nat where
  init _ left := (.ok (), left)
  handle _ left :=
    match left with
    | 0 => (.error (.handler "no more rows"), 0)
    | left + 1 => (.ok (), left)

/-- Two sites, and then a pool that is closed. -/
def sitesThenClosed : List Item :=
  [.ok ⟨["SiteId"], [.integer 1]⟩, .ok ⟨["SiteId"], [.integer 2]⟩, .error .poolClosed]

/-- The second site is rejected: the handler got its columns once and both sites, and the error
behind them was not taken. -/
theorem forEach_keeps_protocol_secondSiteRejected :
    let p : PreparedQuery := ⟨.sqlite, "SELECT SiteId FROM Site ", []⟩
    let run := p.forEach (fun _ => sitesThenClosed) acceptingSome.recording (1, [])
    p.unsendable? = none ∧ run.result.1 = .error (.handler "no more rows") ∧
      (handled run.result.2.2).length = 2 ∧
      Protocol p sitesThenClosed run.result.2.2 run.result.1 2 :=
  ⟨rfl, rfl, rfl, ((forEach_keeps_protocol ⟨.sqlite, "SELECT SiteId FROM Site ", []⟩
    (fun _ => sitesThenClosed) acceptingSome 1).2.2.1 rfl).2.2.1⟩

end PreparedQuery
end ReportQuery
