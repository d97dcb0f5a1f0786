/-
# The errors of a run

Three things can fail in a run (`Failure`): the database, at an item of its stream;
a value, when it is decoded; and the handler, at a call.

| what fails | what comes out of the run |
| --- | --- |
| the stream, a value | the error of the database, with the text of the statement |
| the handler, with an error of the database | this error, with the text of the statement |
| the handler, with any other error | its error as it is |

`Reported` says this of one failure.  For each way of running a statement, the
errors are the reports of what fails in it (`failures_reported`): each error reports
a failure, and each failure is reported.  The failures themselves are told by the
stream and the log of the handler, whichever call it may be, the first `init` or
`handle`, one in the midst, or the `init` of a stream without any item.
-/

import Mathlib.Data.List.Basic
import ReportQuery.Proofs.Execution.Agreement

namespace ReportQuery

/-- What can fail in a run. -/
inductive Failure where
  /-- The database, at an item of its stream. -/
  | item (cause : DatabaseError)
  /-- A value that cannot be decoded. -/
  | value (cause : DatabaseError)
  /-- The handler, at a call. -/
  | call (c : Call) (e : Error)

/-- The error that comes out of a run of a text, for each failure. -/
inductive Reported (text : String) : Failure → Error → Prop
  | item (cause : DatabaseError) : Reported text (.item cause) (.query text cause)
  | value (cause : DatabaseError) : Reported text (.value cause) (.query text cause)
  | wrapped (c : Call) (cause : DatabaseError) :
    Reported text (.call c (.database cause)) (.query text cause)
  | unchanged (c : Call) (e : Error) (he : ∀ cause, e ≠ .database cause) :
    Reported text (.call c e) e

/-- The errors that come out of a run of a text are the reports of what fails in it; none of them
is an error of the database without a text. -/
structure Reports (text : String) (fails : Failure → Prop) (yields : Error → Prop) : Prop where
  reported : ∀ e, yields e ↔ ∃ f, fails f ∧ Reported text f e
  not_database : ∀ cause, ¬ yields (.database cause)

/-- A run hands no other text than this one to the connection. -/
def AsksFor {α : Type} (text : String) (run : Connection → Run α) : Prop :=
  ∀ c c', (∀ p : PreparedQuery, p.sql = text → c p = c' p) → run c = run c'

/-! ## What fails -/

/-- What fails when an item of a stream is asked for, with a limit to how many are taken. -/
inductive ItemFails (items : List Item) (limit : Option Nat) (i : Nat) : Failure → Prop
  | item (cause : DatabaseError) (hl : ∀ n ∈ limit, i < n) (hi : items[i]? = some (.error cause)) :
    ItemFails items limit i (.item cause)

/-- What fails when a scalar is read from the first item of a stream. -/
inductive ScalarFails (t : ScalarType) (items : List Item) : Failure → Prop
  | item (cause : DatabaseError) (hi : items.head? = some (.error cause)) :
    ScalarFails t items (.item cause)
  | value (row : Row) (cause : DatabaseError) (hi : items.head? = some (.ok row))
    (hr : row.read t.decodeOptional 0 = .error cause) : ScalarFails t items (.value cause)

/-- What fails when the handler gets the rows of a stream: a call of its log, or if none of them
does, the item behind the rows that it got. -/
inductive CallFails (items : List Item) (log : Log) : Failure → Prop
  | item (cause : DatabaseError) (hi : items[(handled log).length]? = some (.error cause))
    (ha : ∀ entry ∈ log, entry.2 = .ok ()) : CallFails items log (.item cause)
  | call (c : Call) (e : Error) (hc : (c, .error e) ∈ log) : CallFails items log (.call c e)

/-! ## How it is reported -/

/-- The error of a failure, before it is reported. -/
def Failure.error : Failure → Error
  | .item cause | .value cause => .database cause
  | .call _ e => e

theorem PreparedQuery.wrap_eq_self (p : PreparedQuery) {e : Error}
    (he : ∀ cause, e ≠ .database cause) : p.wrap e = e := by
  cases e with
  | database cause => exact absurd rfl (he cause)
  | _ => rfl

theorem PreparedQuery.wrap_ne_database (p : PreparedQuery) (e : Error) (cause : DatabaseError) :
    p.wrap e ≠ .database cause := by
  cases e <;> nofun

/-- A run reports its failures by wrapping them. -/
theorem reported_iff {p : PreparedQuery} {f : Failure} {e : Error} :
    Reported p.sql f e ↔ p.wrap f.error = e := by
  constructor
  · rintro (cause | cause | ⟨c, cause⟩ | ⟨c, e, he⟩)
    · rfl
    · rfl
    · rfl
    · exact p.wrap_eq_self he
  · rintro rfl
    cases f with
    | item cause => exact .item cause
    | value cause => exact .value cause
    | call c e =>
      by_cases he : ∀ cause, e ≠ .database cause
      · rw [Failure.error, p.wrap_eq_self he]
        exact .unchanged c e he
      · obtain ⟨cause, rfl⟩ := not_forall_not.1 he
        exact .wrapped c cause

/-- If the errors of a run are the wrapped errors of what fails, they are its reports. -/
theorem Reports.of_wrap {p : PreparedQuery} {fails : Failure → Prop} {yields : Error → Prop}
    (h : ∀ e, yields e ↔ ∃ f, fails f ∧ p.wrap f.error = e) : Reports p.sql fails yields where
  reported e := by simp only [h, reported_iff]
  not_database cause hc := by
    obtain ⟨f, -, hf⟩ := (h _).1 hc
    exact p.wrap_ne_database _ _ hf

section

variable {p : PreparedQuery} {items : List Item} {log : Log} {result : Except Error Unit}
  {pulled : Nat}

/-! ## What fails when the protocol is kept -/

/-- A call that failed is the last one. -/
theorem Protocol.getLast?_of_error (h : Protocol p items log result pulled) {c : Call} {e : Error}
    (hc : (c, .error e) ∈ log) : log.getLast? = some (c, .error e) := by
  by_contra hl
  exact nomatch h.ok_before _ (List.mem_dropLast_of_mem_of_ne_getLast? hc (Ne.symm hl))

/-- One thing fails at most. -/
theorem Protocol.fails_unique (h : Protocol p items log result pulled) {f g : Failure}
    (hf : CallFails items log f) (hg : CallFails items log g) : f = g := by
  cases hf with
  | item cause hi ha =>
    cases hg with
    | item cause' hi' => rw [Except.error.inj (Option.some.inj (hi.symm.trans hi'))]
    | call c e hc => exact nomatch ha _ hc
  | call c e hc =>
    cases hg with
    | item cause hi ha => exact nomatch ha _ hc
    | call c' e' hc' =>
      have he := (h.getLast?_of_error hc).symm.trans (h.getLast?_of_error hc')
      cases he
      rfl

theorem Protocol.exists_fails (h : Protocol p items log result pulled) {e : Error}
    (he : result = .error e) : ∃ f, CallFails items log f ∧ p.wrap f.error = e := by
  rcases h.of_error e he with ⟨cause, hi, rfl, ha, -⟩ | ⟨columns, e', rfl, rfl, -⟩ |
    ⟨before, row, e', rfl, -, rfl, -⟩
  · exact ⟨_, .item cause hi ha, rfl⟩
  · exact ⟨_, .call _ e' List.mem_cons_self, rfl⟩
  · exact ⟨_, .call _ e' List.mem_concat_self, rfl⟩

/-- If nothing fails in the end, nothing has failed. -/
theorem Protocol.not_fails (h : Protocol p items log result pulled) (hr : result = .ok ())
    (f : Failure) : ¬ CallFails items log f := by
  obtain ⟨-, hi, ha, -⟩ := h.of_ok hr
  rintro (⟨cause, hc, -⟩ | ⟨c, e, hc⟩)
  · rw [← hi, List.getElem?_eq_none (by simp)] at hc
    cases hc
  · exact nomatch ha _ hc

/-- The result of a run that keeps the protocol is the wrapped error of what fails in it. -/
theorem Protocol.error_iff (h : Protocol p items log result pulled) (e : Error) :
    result = .error e ↔ ∃ f, CallFails items log f ∧ p.wrap f.error = e := by
  refine ⟨h.exists_fails, ?_⟩
  rintro ⟨f, hf, rfl⟩
  cases hr : result with
  | ok => exact absurd hf (h.not_fails hr f)
  | error e =>
    obtain ⟨g, hg, rfl⟩ := h.exists_fails hr
    rw [h.fails_unique hf hg]

end

namespace PreparedQuery

/-! ## What comes out of each run -/

variable (p : PreparedQuery) (c : Connection)

theorem error_fetch_iff (i : Nat) (e : Error) :
    (p.fetch c none).result[i]? = some (.error e) ↔
      ∃ cause, (p.stream c)[i]? = some (.error cause) ∧ p.failure cause = e := by
  rw [result_fetch, List.getElem?_map, Option.map_eq_some_iff]
  constructor
  · rintro ⟨row | cause, hi, he⟩
    · exact ⟨_, hi, Except.error.inj he⟩
    · cases he
  · rintro ⟨cause, hi, rfl⟩
    exact ⟨_, hi, rfl⟩

theorem reports_fetch (limit : Option Nat) (i : Nat) :
    Reports p.sql (ItemFails (p.stream c) limit i)
      fun e => (p.fetch c limit).result[i]? = some (.error e) := by
  refine .of_wrap fun e => ?_
  have hl : (p.fetch c limit).result[i]? = some (.error e) ↔
      (∀ n ∈ limit, i < n) ∧ (p.fetch c none).result[i]? = some (.error e) := by
    cases limit with
    | none => simp
    | some n =>
      rw [result_fetch_some, List.getElem?_take]
      by_cases hn : i < n <;> simp [hn]
  rw [hl, error_fetch_iff]
  constructor
  · rintro ⟨hn, cause, hi, he⟩
    exact ⟨_, .item cause hn hi, he⟩
  · rintro ⟨_, ⟨cause, hn, hi⟩, he⟩
    exact ⟨hn, cause, hi, he⟩

theorem reports_scalar? (t : ScalarType) :
    Reports p.sql (ScalarFails t (p.stream c)) fun e => (p.scalar? c t).result = .error e := by
  refine .of_wrap fun e => ?_
  rw [result_scalar]
  constructor
  · intro he
    rcases hi : (p.stream c).head? with _ | cause | row <;> rw [hi] at he
    · cases he
    · exact ⟨_, .item cause hi, Except.error.inj he⟩
    · rcases hr : row.read t.decodeOptional 0 with cause | value <;> rw [scalarOf, hr] at he
      · exact ⟨_, .value row cause hi hr, Except.error.inj he⟩
      · cases he
  · rintro ⟨_, ⟨cause, hi⟩ | ⟨row, cause, hi, hr⟩, rfl⟩
    · rw [hi]
      rfl
    · rw [hi, scalarOf, hr]
      rfl

theorem reports_forEach {σ : Type} (h : Handler σ) (s : σ) :
    Reports p.sql (CallFails (p.stream c) (p.forEach c h.recording (s, [])).result.2.2)
      fun e => (p.forEach c h s).result.1 = .error e := by
  refine .of_wrap fun e => ?_
  rw [forEach_recording_eq_run, forEach_eq_run, result_run, result_run]
  exact ((course_carryOut h (p.stream c) s).protocol p).error_iff e

end PreparedQuery

theorem HandsOver.asksFor {α : Type} {p : PreparedQuery} {run : Connection → Run α}
    (h : HandsOver p run) : AsksFor p.sql run :=
  fun c c' hc => h.asks c c' (hc p rfl)

/-- **The errors of a run are the reports of what fails in it**, for every query, kind of database,
stream and handler, and for each way of running the statement.  None of them is an error of the
database without a text, and the text of those with one is the text that the connection got. -/
theorem Query.failures_reported (q : Query) (d : Database) (c : Connection) :
    let p := q.prepare d
    let text := d.numberPlaceholders q.sql
    (∀ limit, AsksFor text (fun c => p.fetch c limit) ∧
      ∀ i, Reports text (ItemFails (p.stream c) limit i)
        fun e => (p.fetch c limit).result[i]? = some (.error e)) ∧
    (∀ t, AsksFor text (fun c => p.scalar? c t) ∧
      Reports text (ScalarFails t (p.stream c)) fun e => (p.scalar? c t).result = .error e) ∧
    ∀ (σ : Type) (h : Handler σ) (s : σ), AsksFor text (fun c => p.forEach c h s) ∧
      Reports text (CallFails (p.stream c) (p.forEach c h.recording (s, [])).result.2.2)
        fun e => (p.forEach c h s).result.1 = .error e := by
  intro p text
  exact ⟨fun limit => ⟨(p.handsOver_fetch limit).asksFor, p.reports_fetch c limit⟩,
    fun t => ⟨(p.handsOver_scalar? t).asksFor, p.reports_scalar? c t⟩,
    fun σ h s => ⟨(p.handsOver_forEach h s).asksFor, p.reports_forEach c h s⟩⟩

/-- A handler that fails with an error after so many calls. -/
def failingWith (e : Error) : Handler Nat where
  init _ left := if left = 0 then (.error e, 0) else (.ok (), left - 1)
  handle _ left := if left = 0 then (.error e, 0) else (.ok (), left - 1)

/-- The sites of a partner. -/
def sitesOfPartner : Query :=
  (((Query.select ["SiteId"]).addTables "Site").predicate "PartnerId").equalTo (.int32 7)

/-- A failure of another statement. -/
def otherTimedOut : Error := .query "SELECT 1" .poolTimedOut

/-- An error of the database from the `init` of an empty stream gets the text, with the placeholder
of the database; a failure of another statement, from the second row, stays as it is. -/
theorem Query.failures_reported_sitesOfPartner :
    let p := sitesOfPartner.prepare .postgres
    p.sql = "SELECT SiteId FROM Site WHERE PartnerId = $1  " ∧
      (p.forEach (fun _ => []) (failingWith (.database .rowNotFound)) 0).result.1 =
        .error (.query p.sql .rowNotFound) ∧
      (p.forEach (fun _ => PreparedQuery.sitesThenClosed) (failingWith otherTimedOut) 2).result.1 =
        .error otherTimedOut := by
  intro p
  refine ⟨by decide, ?_, ?_⟩
  · obtain ⟨-, -, failures⟩ := failures_reported sitesOfPartner .postgres fun _ => []
    exact ((failures Nat (failingWith (.database .rowNotFound)) 0).2.reported _).2
      ⟨.call (.init []) _, .call _ _ List.mem_cons_self, .wrapped _ _⟩
  · obtain ⟨-, -, failures⟩ := failures_reported sitesOfPartner .postgres
      fun _ => PreparedQuery.sitesThenClosed
    have hlog : (p.forEach (fun _ => PreparedQuery.sitesThenClosed)
        (failingWith otherTimedOut).recording (2, [])).result.2.2 =
        [(.init ["SiteId"], .ok ()), (.handle ⟨["SiteId"], [.integer 1]⟩, .ok ()),
          (.handle ⟨["SiteId"], [.integer 2]⟩, .error otherTimedOut)] := rfl
    have hcall := List.mem_of_getLast? (congrArg List.getLast? hlog)
    have hother : ∀ cause, otherTimedOut ≠ .database cause := by simp [otherTimedOut]
    exact ((failures Nat (failingWith otherTimedOut) 2).2.reported _).2
      ⟨_, .call _ _ hcall, .unchanged _ _ hother⟩

end ReportQuery
