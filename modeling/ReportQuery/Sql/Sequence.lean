/-
# Members one after the other

A sequence has its members computed one after the other, when they are asked for, up to an
end or to a fault.  So what comes behind the last member that is asked for is not computed,
and a fault ends a sequence behind the members before it.
-/

import ReportQuery.Sql.Fault

namespace ReportQuery
namespace Sql

/-- Members that come one after the other, up to an end or a fault. -/
inductive Sequence (α : Type) where
  | done
  | failed (fault : Fault)
  | next (member : α) (rest : Unit → Sequence α)

namespace Sequence

variable {α β : Type}

/-- The members of a list. -/
def ofList : List α → Sequence α
  | [] => done
  | x :: xs => next x fun _ => ofList xs

/-- A sequence that is known once something is computed. -/
def ofExcept : Except Fault (Sequence α) → Sequence α
  | .ok s => s
  | .error fault => failed fault

/-- The members of a sequence, and then those of another one. -/
def append (s : Sequence α) (more : Unit → Sequence α) : Sequence α :=
  match s with
  | done => more ()
  | failed fault => failed fault
  | next x rest => next x fun _ => (rest ()).append more

/-- A function of each member. -/
def map (f : α → β) : Sequence α → Sequence β
  | done => done
  | failed fault => failed fault
  | next x rest => next (f x) fun _ => (rest ()).map f

/-- A function of each member, whose fault ends the sequence. -/
def mapM (f : α → Except Fault β) : Sequence α → Sequence β
  | done => done
  | failed fault => failed fault
  | next x rest =>
    match f x with
    | .ok y => next y fun _ => (rest ()).mapM f
    | .error fault => failed fault

/-- The members that a test keeps. -/
def filterM (test : α → Except Fault Bool) : Sequence α → Sequence α
  | done => done
  | failed fault => failed fault
  | next x rest =>
    match test x with
    | .ok true => next x fun _ => (rest ()).filterM test
    | .ok false => (rest ()).filterM test
    | .error fault => failed fault

/-- The members of a sequence for each member. -/
def flatMap (f : α → Sequence β) : Sequence α → Sequence β
  | done => done
  | failed fault => failed fault
  | next x rest => (f x).append fun _ => (rest ()).flatMap f

/-- The first members, so many at most; nothing behind them is computed. -/
def take : Nat → Sequence α → Sequence α
  | 0, _ => done
  | _, done => done
  | _, failed fault => failed fault
  | count + 1, next x rest => next x fun _ => if count = 0 then done else (rest ()).take count

/-- The members behind the first ones. -/
def drop : Nat → Sequence α → Sequence α
  | 0, s => s
  | _, done => done
  | _, failed fault => failed fault
  | count + 1, next _ rest => (rest ()).drop count

/-- What the members make of a value, one after the other. -/
def foldM (f : β → α → Except Fault β) (y : β) : Sequence α → Except Fault β
  | done => .ok y
  | failed fault => .error fault
  | next x rest =>
    match f y x with
    | .ok y => (rest ()).foldM f y
    | .error fault => .error fault

/-- All members. -/
def toList (s : Sequence α) : Except Fault (List α) :=
  (s.foldM (fun xs x => .ok (x :: xs)) []).map List.reverse

/-- All members up to the end or the fault, which stands behind them, and behind some others
that are given in reverse. -/
def itemsBehind (known : List (Except Fault α)) : Sequence α → List (Except Fault α)
  | done => known.reverse
  | failed fault => (.error fault :: known).reverse
  | next x rest => (rest ()).itemsBehind (.ok x :: known)

/-- All members up to the end or the fault, which stands behind them. -/
def items (s : Sequence α) : List (Except Fault α) := s.itemsBehind []

/-- The first member, if there is one. -/
def head? : Sequence α → Except Fault (Option α)
  | done => .ok none
  | failed fault => .error fault
  | next x _ => .ok (some x)

/-- The members that are different from all before them. -/
def distinct (same : α → α → Bool) (known : List α) : Sequence α → Sequence α
  | done => done
  | failed fault => failed fault
  | next x rest =>
    if known.any (same x) then (rest ()).distinct same known
    else next x fun _ => (rest ()).distinct same (x :: known)

end Sequence

end Sql
end ReportQuery
