/-
# The agenda of a run

What a run is to do with a stream and a handler, if nothing fails, is known from
the stream alone.  This is its `agenda`, and it is a list of two kinds of action:
to take an item off the stream, and to call the handler.

| stream | agenda |
| --- | --- |
| no item | `init` without columns |
| an error first | take it |
| a row first | take it, `init` with its columns, `handle` it; then, for each item up to the first error, take it, and `handle` it if it is a row |

An item that is an error fails when it is taken, and a call fails when the handler
says so.  `carryOut` does the actions of a list one after the other, up to the
first one that fails, and tells what came of each.  A run does nothing else
(`forEach_eq_run`): its result is that of the last action it does, and the items
that it takes are those of the actions it does.

What a handler is called for is seen by a handler that keeps a `Log`
(`Handler.recording`); it answers as the handler does that it is made of
(`carryOut_recording`).
-/

import ReportQuery.Proofs.Execution.Binding

namespace ReportQuery

/-- A call to a handler. -/
inductive Call where
  | init (columns : List String)
  | handle (row : Row)
deriving DecidableEq

/-- Calls to a handler with its answers to them, in order. -/
abbrev Log := List (Call × Except Error Unit)

/-- What a run can do. -/
inductive Action where
  | pull (item : Item)
  | call (c : Call)

namespace Handler

variable {σ : Type}

/-- What a handler answers to a call, and its state afterwards. -/
def answer (h : Handler σ) : Call → σ → Except Error Unit × σ
  | .init columns, s => h.init columns s
  | .handle row, s => h.handle row s

/-- What a handler answers to a call, with a record of it behind those made before. -/
def record (h : Handler σ) (c : Call) (s : σ × Log) : Except Error Unit × (σ × Log) :=
  let (answer, state) := h.answer c s.1
  (answer, state, s.2 ++ [(c, answer)])

/-- The handler with a log of the calls to it. -/
def recording (h : Handler σ) : Handler (σ × Log) where
  init columns := h.record (.init columns)
  handle row := h.record (.handle row)

@[simp] theorem answer_recording (h : Handler σ) (c : Call) (s : σ × Log) :
    h.recording.answer c s = h.record c s := by
  cases c <;> rfl

end Handler

/-! ## What is to be done -/

/-- The agenda from an item on, when the handler has got its columns. -/
def rowAgenda : List Item → List Action
  | [] => []
  | .error cause :: _ => [.pull (.error cause)]
  | .ok row :: items => .pull (.ok row) :: .call (.handle row) :: rowAgenda items

/-- The agenda of a run over a stream. -/
def agenda : List Item → List Action
  | [] => [.call (.init [])]
  | .error cause :: _ => [.pull (.error cause)]
  | .ok row :: items =>
    .pull (.ok row) :: .call (.init row.columns) :: .call (.handle row) :: rowAgenda items

/-! ## What is done -/

/-- Does an action: its outcome, and the state of the handler afterwards. -/
def Action.perform {σ : Type} (h : Handler σ) : Action → σ → Except Error Unit × σ
  | .pull (.ok _), s => (.ok (), s)
  | .pull (.error cause), s => (.error (.database cause), s)
  | .call c, s => h.answer c s

/-- Does some actions up to the first one that fails: the actions that were done with
their outcomes, and the state of the handler afterwards. -/
def carryOut {σ : Type} (h : Handler σ) : List Action → σ → List (Action × Except Error Unit) × σ
  | [], s => ([], s)
  | a :: actions, s =>
    match a.perform h s with
    | (.error e, s) => ([(a, .error e)], s)
    | (.ok (), s) =>
      let (done, s) := carryOut h actions s
      ((a, .ok ()) :: done, s)

/-- What comes of some actions: the outcome of the first one that failed, if one did. -/
def verdict : List (Action × Except Error Unit) → Except Error Unit
  | [] => .ok ()
  | (_, .error e) :: _ => .error e
  | (_, .ok ()) :: done => verdict done

/-- The calls among some actions. -/
def calls (done : List (Action × Except Error Unit)) : Log :=
  done.filterMap fun
    | (.call c, answer) => some (c, answer)
    | (.pull _, _) => none

/-- How many items were taken by some actions. -/
def pulls (done : List (Action × Except Error Unit)) : Nat :=
  done.countP fun
    | (.pull _, _) => true
    | (.call _, _) => false

section

variable {a : Action} {c : Call} {item : Item} {outcome : Except Error Unit}
  {done : List (Action × Except Error Unit)}

@[simp] theorem verdict_nil : verdict [] = .ok () := rfl

@[simp] theorem verdict_cons_ok : verdict ((a, .ok ()) :: done) = verdict done := rfl

@[simp] theorem verdict_cons_error {e : Error} : verdict ((a, .error e) :: done) = .error e := rfl

@[simp] theorem calls_nil : calls [] = [] := rfl

@[simp] theorem calls_pull_cons : calls ((.pull item, outcome) :: done) = calls done := rfl

@[simp] theorem calls_call_cons :
    calls ((.call c, outcome) :: done) = (c, outcome) :: calls done := rfl

@[simp] theorem pulls_nil : pulls [] = 0 := rfl

@[simp] theorem pulls_pull_cons : pulls ((.pull item, outcome) :: done) = pulls done + 1 :=
  List.countP_cons_of_pos rfl

@[simp] theorem pulls_call_cons : pulls ((.call c, outcome) :: done) = pulls done :=
  List.countP_cons_of_neg Bool.false_ne_true

end

/-! ## A run carries out its agenda -/

variable {σ : Type}

@[simp] theorem carryOut_nil (h : Handler σ) (s : σ) : carryOut h [] s = ([], s) := rfl

@[simp] theorem carryOut_pull_ok (h : Handler σ) (row : Row) (actions : List Action) (s : σ) :
    carryOut h (.pull (.ok row) :: actions) s =
      ((.pull (.ok row), .ok ()) :: (carryOut h actions s).1, (carryOut h actions s).2) := rfl

@[simp] theorem carryOut_pull_error (h : Handler σ) (cause : DatabaseError)
    (actions : List Action) (s : σ) :
    carryOut h (.pull (.error cause) :: actions) s =
      ([(.pull (.error cause), .error (.database cause))], s) := rfl

theorem carryOut_call_of_error {h : Handler σ} {c : Call} {s t : σ} {e : Error}
    (hc : h.answer c s = (.error e, t)) (actions : List Action) :
    carryOut h (.call c :: actions) s = ([(.call c, .error e)], t) := by
  rw [carryOut, Action.perform, hc]

theorem carryOut_call_of_ok {h : Handler σ} {c : Call} {s t : σ}
    (hc : h.answer c s = (.ok (), t)) (actions : List Action) :
    carryOut h (.call c :: actions) s =
      ((.call c, .ok ()) :: (carryOut h actions t).1, (carryOut h actions t).2) := by
  rw [carryOut, Action.perform, hc]

namespace PreparedQuery

/-- What a run makes of the actions it did: their verdict with the text of the statement in
it, the state of the handler, and the number of items taken. -/
def outcome (p : PreparedQuery) (did : List (Action × Except Error Unit) × σ) :
    (Except Error Unit × σ) × Nat :=
  (((verdict did.1).mapError p.wrap, did.2), pulls did.1)

theorem handleRows_eq_outcome (p : PreparedQuery) (h : Handler σ) (items : List Item) (s : σ) :
    p.handleRows h items s = p.outcome (carryOut h (rowAgenda items) s) := by
  induction items generalizing s with
  | nil => rfl
  | cons item items ih =>
    cases item with
    | error cause => rfl
    | ok row =>
      rw [handleRows, rowAgenda, carryOut_pull_ok]
      rcases ha : h.handle row s with ⟨e | ⟨⟩, t⟩
      · rw [carryOut_call_of_error (c := .handle row) ha]
        rfl
      · rw [carryOut_call_of_ok (c := .handle row) ha]
        simp [ih t, outcome]

theorem handleStream_eq_outcome (p : PreparedQuery) (h : Handler σ) (items : List Item) (s : σ) :
    p.handleStream h items s = p.outcome (carryOut h (agenda items) s) := by
  cases items with
  | nil =>
    rw [handleStream, agenda]
    rcases ha : h.init [] s with ⟨e | ⟨⟩, t⟩
    · rw [carryOut_call_of_error (c := .init []) ha]
      rfl
    · rw [carryOut_call_of_ok (c := .init []) ha]
      rfl
  | cons item items =>
    cases item with
    | error cause => rfl
    | ok row =>
      rw [handleStream, agenda, carryOut_pull_ok]
      rcases ha : h.init row.columns s with ⟨e | ⟨⟩, t⟩
      · rw [carryOut_call_of_error (c := .init row.columns) ha]
        rfl
      · rw [carryOut_call_of_ok (c := .init row.columns) ha]
        simp [handleRows_eq_outcome, rowAgenda, outcome]

/-! ## What is sent

A statement with a value that its database cannot take is not sent.  The error stands for the
stream then, and as there is no stream, no item of one is taken. -/

variable {α β : Type} {p : PreparedQuery}

theorem stream_of_sendable (hp : p.unsendable? = none) (c : Connection) : p.stream c = c p := by
  rw [stream, bindAll_of_sendable hp]

theorem stream_of_unsendable {e : DatabaseError} (hp : p.unsendable? = some e) (c : Connection) :
    p.stream c = [.error e] := by
  rw [stream, bindAll_of_unsendable hp]

theorem run_of_sendable (hp : p.unsendable? = none) (result : α) (taken : Nat) :
    p.run result taken = ⟨result, true, taken⟩ := by
  rw [run, bindAll_of_sendable hp]

theorem run_of_unsendable {e : DatabaseError} (hp : p.unsendable? = some e) (result : α)
    (taken : Nat) : p.run result taken = ⟨result, false, 0⟩ := by
  rw [run, bindAll_of_unsendable hp]

theorem result_run (p : PreparedQuery) (result : α) (taken : Nat) :
    (p.run result taken).result = result := by
  rw [run]
  split <;> rfl

/-- Whether a statement is sent, and how many items are taken, does not depend on the result. -/
theorem run_map (p : PreparedQuery) (f : α → β) (result : α) (taken : Nat) :
    p.run (f result) taken =
      ⟨f (p.run result taken).result, (p.run result taken).sent, (p.run result taken).pulled⟩ := by
  rw [run, run]
  split <;> rfl

/-- **A run carries out the agenda of its stream**, up to the first action that fails. -/
theorem forEach_eq_run (p : PreparedQuery) (c : Connection) (h : Handler σ) (s : σ) :
    p.forEach c h s =
      p.run ((verdict (carryOut h (agenda (p.stream c)) s).1).mapError p.wrap,
        (carryOut h (agenda (p.stream c)) s).2) (pulls (carryOut h (agenda (p.stream c)) s).1) := by
  rw [forEach, handleStream_eq_outcome]
  rfl

end PreparedQuery

/-! ## Keeping a log changes nothing -/

/-- A handler that keeps a log does what the handler does, and logs the calls made to it. -/
theorem carryOut_recording (h : Handler σ) (actions : List Action) (s : σ) (log : Log) :
    carryOut h.recording actions (s, log) =
      ((carryOut h actions s).1, (carryOut h actions s).2,
        log ++ calls (carryOut h actions s).1) := by
  induction actions generalizing s log with
  | nil => simp
  | cons a actions ih =>
    cases a with
    | pull item =>
      cases item with
      | ok row => simp [ih]
      | error cause => simp
    | call c =>
      have hr := h.answer_recording c (s, log)
      rcases ha : h.answer c s with ⟨e | ⟨⟩, t⟩ <;> rw [Handler.record, ha] at hr
      · rw [carryOut_call_of_error hr, carryOut_call_of_error ha]
        simp
      · rw [carryOut_call_of_ok hr, ih, carryOut_call_of_ok ha]
        simp

namespace PreparedQuery

theorem forEach_recording_eq_run (p : PreparedQuery) (c : Connection) (h : Handler σ) (s : σ) :
    p.forEach c h.recording (s, []) =
      p.run ((verdict (carryOut h (agenda (p.stream c)) s).1).mapError p.wrap,
        (carryOut h (agenda (p.stream c)) s).2, calls (carryOut h (agenda (p.stream c)) s).1)
        (pulls (carryOut h (agenda (p.stream c)) s).1) := by
  rw [forEach_eq_run, carryOut_recording, List.nil_append]

/-- A run with a log comes to the same result and state as the run without it. -/
theorem forEach_eq_forEach_recording (p : PreparedQuery) (c : Connection) (h : Handler σ) (s : σ) :
    p.forEach c h s =
      ⟨((p.forEach c h.recording (s, [])).result.1, (p.forEach c h.recording (s, [])).result.2.1),
        (p.forEach c h.recording (s, [])).sent, (p.forEach c h.recording (s, [])).pulled⟩ := by
  rw [forEach_recording_eq_run, forEach_eq_run]
  exact p.run_map (fun r : Except Error Unit × σ × Log => (r.1, r.2.1)) (_, _, _) _

end PreparedQuery
end ReportQuery
