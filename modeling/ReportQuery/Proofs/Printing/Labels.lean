/-
# How far labels count

The labels of a sequence are the numbers from 1 on, as long as 32 bits hold the number
of the next one; behind 4294967295 come 0 and then 1 once more (`At.take_eq`).

| labels | they are |
| --- | --- |
| fewer than 4294967296 | 1, 2, 3, …, distinct and increasing |
| 4294967296 | distinct, but the last one is 0 |
| more | the first ones once more |

A printer counts its rows without a bound, so the number of its rows and its labels part
at the same place (`labels_exact`).

Where additions are checked the labels are the same as long as there are any, which a
fresh sequence has 4294967294 of (`takeChecked?_eq`).
-/

import Mathlib.Data.List.Nodup
import ReportQuery.Decimal.Reading
import ReportQuery.RowPrinter

namespace ReportQuery
namespace LabelSequence

/-- The label with which a sequence comes to a number: the number, cut down to 32 bits. -/
def numbered (k : Nat) : String := toString (k % UInt32.size)

/-- The number that a label is read as. -/
def value (label : String) : Nat := Decimal.ofDigits label.toList

/-- The first labels of a fresh sequence. -/
def firstLabels (n : Nat) : List String := (({} : LabelSequence).take n).1

/-! ## One label -/

/-- A sequence that is at a number: its next label has this number, cut down to 32 bits. -/
def At (l : LabelSequence) (k : Nat) : Prop := l.number.toNat = k % UInt32.size

theorem at_first : At {} 1 := rfl

theorem at_number (l : LabelSequence) : l.At l.number.toNat :=
  (Nat.mod_eq_of_lt l.number.toNat_lt).symm

theorem At.label {l : LabelSequence} {k : Nat} (h : l.At k) : l.next.1 = numbered k := by
  rw [LabelSequence.next, h, numbered]

theorem At.next {l : LabelSequence} {k : Nat} (h : l.At k) : l.next.2.At (k + 1) := by
  have hnext : l.next.2.number.toNat = (l.number.toNat + 1) % UInt32.size :=
    UInt32.toNat_add l.number 1
  rw [At, hnext, h, Nat.mod_add_mod]

theorem value_toString (k : Nat) : value (toString k) = k := by
  rw [value, Nat.toString_eq_repr, Nat.toList_repr, Decimal.ofDigits_toDigits]

theorem value_numbered (k : Nat) : value (numbered k) = k % UInt32.size := value_toString _

theorem numbered_inj {j k : Nat} : numbered j = numbered k ↔ j % UInt32.size = k % UInt32.size := by
  refine ⟨fun h => ?_, fun h => by rw [numbered, numbered, h]⟩
  rw [← value_numbered, h, value_numbered]

/-! ## A run of labels -/

theorem take_succ (l : LabelSequence) (n : Nat) :
    l.take (n + 1) = (l.next.1 :: (l.next.2.take n).1, (l.next.2.take n).2) := rfl

/-- **The labels of a run**, from where the sequence is. -/
theorem At.take_eq {l : LabelSequence} {k : Nat} (h : l.At k) (n : Nat) :
    (l.take n).1 = (List.range' k n).map numbered := by
  induction n generalizing l k with
  | zero => rfl
  | succ n ih => rw [take_succ, List.range'_succ, List.map_cons, h.label, ih h.next]

theorem At.take {l : LabelSequence} {k : Nat} (h : l.At k) (n : Nat) : (l.take n).2.At (k + n) := by
  induction n generalizing l k with
  | zero => exact h
  | succ n ih =>
    have hrest := ih h.next
    rw [Nat.add_assoc, Nat.add_comm 1] at hrest
    exact hrest

theorem length_take (l : LabelSequence) (n : Nat) : (l.take n).1.length = n := by
  rw [l.at_number.take_eq, List.length_map, List.length_range']

theorem number_next {l : LabelSequence} (h : l.number.toNat + 1 < UInt32.size) :
    l.next.2.number.toNat = l.number.toNat + 1 :=
  l.at_number.next.trans (Nat.mod_eq_of_lt h)

/-- **Labels with checked additions** are those without, up to where the number of the next one has
no room. -/
theorem takeChecked?_eq (l : LabelSequence) (n : Nat) :
    l.takeChecked? n = if l.number.toNat + n < UInt32.size then some (l.take n) else none := by
  induction n generalizing l with
  | zero => exact (if_pos l.number.toNat_lt).symm
  | succ n ih =>
    by_cases h : l.number.toNat + 1 < UInt32.size
    · have hnext : l.nextChecked? = some l.next := if_pos h
      have hrest := ih l.next.2
      rw [number_next h, Nat.add_assoc, Nat.add_comm 1] at hrest
      simp only [takeChecked?, hnext, hrest, take_succ, Option.bind_eq_bind, Option.bind_some]
      split <;> rfl
    · have hnext : l.nextChecked? = none := if_neg h
      rw [takeChecked?, hnext, if_neg (by omega)]
      rfl

theorem firstLabels_eq (n : Nat) : firstLabels n = (List.range' 1 n).map numbered :=
  at_first.take_eq n

/-! ## Where labels and numbers part -/

theorem numbered_eq_toString_iff {k : Nat} : numbered k = toString k ↔ k < UInt32.size := by
  refine ⟨fun h => ?_, fun h => by rw [numbered, Nat.mod_eq_of_lt h]⟩
  have hk := congrArg value h
  rw [value_numbered, value_toString] at hk
  exact hk ▸ Nat.mod_lt k (by decide)

theorem firstLabels_eq_numbers_iff (n : Nat) :
    firstLabels n = (List.range' 1 n).map (fun k => toString k) ↔ n < UInt32.size := by
  rw [firstLabels_eq, List.map_inj_left]
  simp only [numbered_eq_toString_iff, List.mem_range'_1]
  constructor
  · intro h
    by_contra hn
    exact absurd (h UInt32.size ⟨by decide, by omega⟩) (Nat.lt_irrefl _)
  · intro h k hk
    omega

theorem nodup_firstLabels_iff (n : Nat) : (firstLabels n).Nodup ↔ n ≤ UInt32.size := by
  have hsize : 0 < UInt32.size := by decide
  rw [firstLabels_eq, List.nodup_map_iff_inj_on List.nodup_range']
  simp only [numbered_inj, List.mem_range'_1]
  constructor
  · intro h
    by_contra hn
    -- The number that comes a whole turn behind the first one has its label.
    have hturn := h 1 ⟨Nat.le_refl 1, by omega⟩ (1 + UInt32.size) ⟨by omega, by omega⟩
      (Nat.add_mod_right 1 UInt32.size).symm
    omega
  · intro h j hj k hk hjk
    simp only [show UInt32.size = 4294967296 from rfl] at h hjk
    omega

theorem increasing_firstLabels_iff (n : Nat) :
    ((firstLabels n).map value).Pairwise (· < ·) ↔ n < UInt32.size := by
  simp only [firstLabels_eq, List.pairwise_map, value_numbered,
    show UInt32.size = 4294967296 from rfl]
  constructor
  · intro h
    by_contra hn
    -- The label of the largest number that has room is followed by 0.
    have hlast := List.pairwise_iff_getElem.1 h 4294967294 4294967295
      (by rw [List.length_range']; omega) (by rw [List.length_range']; omega) (by omega)
    simp only [List.getElem_range'] at hlast
    omega
  · intro h
    refine List.Pairwise.imp_of_mem ?_ (List.pairwise_lt_range' (s := 1) (n := n))
    intro j k hj hk hjk
    rw [List.mem_range'_1] at hj hk
    omega

end LabelSequence

/-! ## The labels of a printer -/

namespace RowPrinter

/-- A printer after it has printed some rows. -/
def printAll (p : RowPrinter) (rows : List Row) : RowPrinter := rows.foldl print p

theorem printAll_cons (p : RowPrinter) (row : Row) (rows : List Row) :
    p.printAll (row :: rows) = (p.print row).printAll rows := rfl

theorem columns_printAll (p : RowPrinter) (rows : List Row) :
    (p.printAll rows).columns = p.columns := by
  induction rows generalizing p with
  | nil => rfl
  | cons row rows ih => exact ih (p.print row)

theorem rows_printAll (p : RowPrinter) (rows : List Row) :
    (p.printAll rows).rows = p.rows + rows.length := by
  induction rows generalizing p with
  | nil => rfl
  | cons row rows ih =>
    rw [printAll_cons, ih, List.length_cons, Nat.add_comm rows.length, ← Nat.add_assoc]
    rfl

/-- Each row takes one label. -/
theorem labels_printAll (p : RowPrinter) (rows : List Row) :
    (p.printAll rows).labels = (p.labels.take rows.length).2 := by
  induction rows generalizing p with
  | nil => rfl
  | cons row rows ih => exact ih (p.print row)

theorem next_label_printAll (rows : List Row) :
    ((({} : RowPrinter).printAll rows).labels.next).1 =
      LabelSequence.numbered (rows.length + 1) := by
  rw [labels_printAll, Nat.add_comm]
  exact (LabelSequence.at_first.take rows.length).label

end RowPrinter

namespace LabelSequence

/-- **What the labels of a fresh sequence are, and how far they are the numbers from 1 on.**  They
are these numbers, and increase, just if there are fewer than 4294967296; they are distinct as long
as there are no more.  The next label of a printer has the number that its count of rows gives to
the next row just up to there. -/
theorem labels_exact (n : Nat) (rows : List Row) :
    firstLabels n = (List.range' 1 n).map numbered ∧
      (firstLabels n = (List.range' 1 n).map (fun k => toString k) ↔ n < UInt32.size) ∧
      ((firstLabels n).Nodup ↔ n ≤ UInt32.size) ∧
      (((firstLabels n).map value).Pairwise (· < ·) ↔ n < UInt32.size) ∧
      (({} : RowPrinter).printAll rows).rows = rows.length ∧
      ((({} : RowPrinter).printAll rows).labels.next.1 = toString (rows.length + 1) ↔
        rows.length + 1 < UInt32.size) := by
  refine ⟨firstLabels_eq n, firstLabels_eq_numbers_iff n, nodup_firstLabels_iff n,
    increasing_firstLabels_iff n, ?_, ?_⟩
  · rw [RowPrinter.rows_printAll, Nat.zero_add]
  · rw [RowPrinter.next_label_printAll, numbered_eq_toString_iff]

/-- The label that comes behind 4294967295 is 0, and the one behind that is no new one. -/
theorem label_behind_largest :
    (firstLabels UInt32.size)[UInt32.size - 1]? = some "0" ∧
      toString UInt32.size = "4294967296" ∧ ¬ (firstLabels (UInt32.size + 1)).Nodup := by
  refine ⟨?_, by decide +kernel, fun h => ?_⟩
  · rw [firstLabels_eq, List.getElem?_map, List.getElem?_range' (by decide)]
    rfl
  · exact absurd ((nodup_firstLabels_iff _).1 h) (Nat.not_succ_le_self _)

end LabelSequence
end ReportQuery
