/-
# Running labels

A sequence of labels 1, 2, 3, …  The number of the next label takes 32 bits, and how
the program is built decides what comes of it at the largest one, 4294967295:

| additions | the label 4294967295 | then |
| --- | --- | --- |
| unchecked (`next`) | is given | the sequence goes on with 0 |
| checked (`nextChecked?`) | is not given | the program has stopped |

Printers take their labels by `next`.
-/

namespace ReportQuery

/-- A sequence of labels: the number of the next one. -/
structure LabelSequence where
  number : UInt32 := 1
deriving DecidableEq, Repr

namespace LabelSequence

/-- The next label, and the sequence after it. -/
def next (l : LabelSequence) : String × LabelSequence := (toString l.number.toNat, ⟨l.number + 1⟩)

/-- The next `n` labels, and the sequence after them. -/
def take (l : LabelSequence) : Nat → List String × LabelSequence
  | 0 => ([], l)
  | n + 1 =>
    let (label, l) := l.next
    let (labels, l) := l.take n
    (label :: labels, l)

/-- The next label where additions are checked; none if the number after it has no room. -/
def nextChecked? (l : LabelSequence) : Option (String × LabelSequence) :=
  if l.number.toNat + 1 < UInt32.size then some (toString l.number.toNat, ⟨l.number + 1⟩) else none

/-- The next `n` labels where additions are checked. -/
def takeChecked? (l : LabelSequence) : Nat → Option (List String × LabelSequence)
  | 0 => some ([], l)
  | n + 1 => do
    let (label, l) ← l.nextChecked?
    let (labels, l) ← l.takeChecked? n
    return (label :: labels, l)

end LabelSequence

end ReportQuery
