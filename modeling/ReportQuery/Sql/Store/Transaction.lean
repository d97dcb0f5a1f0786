/-
# Transactions

A transaction goes back to the schemas as they were when it began, and a savepoint to those that
there were when it was set.  A savepoint outside a transaction begins one, which ends when that
savepoint is released.  Of several savepoints of one name the last one is meant.
-/

import ReportQuery.Sql.Store.Basic

namespace ReportQuery
namespace Sql
namespace Store

/-- Begins a transaction. -/
def begin (s : Store) : Except Fault Store :=
  if s.transaction.isSome then .error (.store .nestedTransaction)
  else .ok { s with transaction := some s.schemas, endsWithSavepoint := false }

/-- A store outside of any transaction. -/
def settled (s : Store) : Store := { s with transaction := none, savepoints := [] }

/-- Ends a transaction, and keeps what it did. -/
def commit (s : Store) : Except Fault Store :=
  if s.transaction.isSome then .ok s.settled else .error (.store (.noTransaction "commit"))

/-- Ends a transaction, and undoes what it did. -/
def rollback (s : Store) : Except Fault Store :=
  match s.transaction with
  | some schemas => .ok { s.settled with schemas }
  | none => .error (.store (.noTransaction "rollback"))

/-- Sets a savepoint. -/
def setSavepoint (s : Store) (name : String) : Store :=
  let s := if s.transaction.isSome then s
    else { s with transaction := some s.schemas, endsWithSavepoint := true }
  { s with savepoints := ⟨name, s.schemas⟩ :: s.savepoints }

/-- The savepoints from one of some name on, which comes first. -/
def savepointsFrom (s : Store) (name : String) : Except Fault (Savepoint × List Savepoint) :=
  match s.savepoints.dropWhile fun p => !sameName p.name name with
  | p :: outer => .ok (p, outer)
  | [] => .error (.store (.unknownSavepoint name))

/-- Takes a savepoint back, with those within it. -/
def release (s : Store) (name : String) : Except Fault Store := do
  let (_, outer) ← s.savepointsFrom name
  if outer.isEmpty && s.endsWithSavepoint then return s.settled
  return { s with savepoints := outer }

/-- Goes back to a savepoint, which stays. -/
def rollbackTo (s : Store) (name : String) : Except Fault Store := do
  let (p, outer) ← s.savepointsFrom name
  return { s with schemas := p.schemas, savepoints := p :: outer }

end Store
end Sql
end ReportQuery
