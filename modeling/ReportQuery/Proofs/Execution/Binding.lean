/-
# Binding the values of a statement

A statement goes to its connection with one argument for each value, and the arguments
are the values in their order (`bindAll_of_sendable`).  Only a date can stand against
it, and only with one database: then the first such date stops the binding, with its
place among the values, and nothing is sent (`bindAll_of_unsendable`).
-/

import ReportQuery.Execution

namespace ReportQuery

/-- Why a value with its index among the values cannot be encoded. -/
def unsendableAt? (entry : BoundValue × Nat) : Option DatabaseError :=
  entry.1.unsendableDate?.map fun date => .unsendableDate (entry.2 + 1) date

/-- Why the statement cannot be sent: the first bound value that cannot be encoded. -/
def PreparedQuery.unsendable? (p : PreparedQuery) : Option DatabaseError :=
  if p.database = .mysql then p.binds.zipIdx.findSome? unsendableAt? else none

namespace Database

variable (bound values : List BoundValue)

theorem foldlM_bindValue_of_ne {d : Database} (hd : d ≠ .mysql) :
    values.foldlM d.bindValue bound = .ok (bound ++ values) := by
  induction values generalizing bound with
  | nil => rw [List.append_nil]; rfl
  | cons value values ih =>
    have hstep : d.bindValue bound value = .ok (bound ++ [value]) := by rw [bindValue, if_neg hd]
    rw [List.foldlM_cons, hstep]
    exact (ih _).trans (by rw [List.append_assoc, List.singleton_append])

/-- Behind the values that are bound, the next ones are bound up to the first that cannot be. -/
theorem foldlM_bindValue_mysql :
    values.foldlM Database.mysql.bindValue bound =
      ((values.zipIdx bound.length).findSome? unsendableAt?).elim (.ok (bound ++ values)) .error := by
  induction values generalizing bound with
  | nil => rw [List.append_nil]; rfl
  | cons value values ih =>
    rw [List.foldlM_cons, List.zipIdx_cons, List.findSome?_cons]
    cases hdate : value.unsendableDate? with
    | some date =>
      have hstep : Database.mysql.bindValue bound value =
          .error (.unsendableDate (bound.length + 1) date) := by rw [bindValue, if_pos rfl, hdate]
      rw [hstep, unsendableAt?, hdate]
      rfl
    | none =>
      have hstep : Database.mysql.bindValue bound value = .ok (bound ++ [value]) := by
        rw [bindValue, if_pos rfl, hdate]
      have hrest := ih (bound ++ [value])
      rw [List.length_append, List.append_assoc, List.singleton_append] at hrest
      rw [hstep, unsendableAt?, hdate]
      exact hrest

end Database

namespace PreparedQuery

variable {p : PreparedQuery}

theorem bindAll_eq (p : PreparedQuery) : p.bindAll = p.unsendable?.elim (.ok p.binds) .error := by
  by_cases h : p.database = .mysql
  · rw [bindAll, unsendable?, if_pos h, h, Database.foldlM_bindValue_mysql]
    rfl
  · rw [bindAll, unsendable?, if_neg h, Database.foldlM_bindValue_of_ne _ _ h]
    rfl

/-- **One argument for each value, in their order**, if all of them can be encoded. -/
theorem bindAll_of_sendable (hp : p.unsendable? = none) : p.bindAll = .ok p.binds := by
  rw [bindAll_eq, hp]
  rfl

/-- **The first value that cannot be encoded stops the binding.** -/
theorem bindAll_of_unsendable {e : DatabaseError} (hp : p.unsendable? = some e) :
    p.bindAll = .error e := by
  rw [bindAll_eq, hp]
  rfl

end PreparedQuery
end ReportQuery
