/-
# How a stored text is printed

A stored text that reads as a date or as a date-time is printed in the normal form of
that moment, and every other text as it is stored (`cellText_of_text`).  So a text is
printed as it is stored just if it reads as no moment or is in normal form already, and
two texts are printed alike just if they are the same or read as the same moment
(`cellText_eq_stored_iff`).

| stored | printed |
| --- | --- |
| `Ost`, `2024-13-01` | as it is stored |
| `2024-01-05`, `2024-01-10 10:00:00` | as it is stored |
| `2024-1-5`, a blank and `2024-01-05` | `2024-01-05` |
| `2024-01-10T10:00`, `2024-01-10 10:00+05:00` | `2024-01-10 10:00:00` |

A text whose bytes encode no characters is printed as a question mark.
-/

import ReportQuery.Proofs.Calendar.ReadBack
import ReportQuery.RowPrinter

namespace ReportQuery

/-! ## Moments -/

/-- What a text may be read as before it is read as a string. -/
inductive Moment where
  | date (d : Calendar.Date)
  | dateTime (t : Calendar.DateTime)
deriving DecidableEq

namespace Moment

/-- The normal form of a moment. -/
def text : Moment → String
  | .date d => d.text
  | .dateTime t => t.text " "

/-- The moment of a text: a date if it is one, or else a date-time. -/
def read? (s : String) : Option Moment :=
  ((Calendar.readDate s).toOption.map .date).or ((Calendar.readDateTime? s).map .dateTime)

theorem readDateTime?_of_read? {s : String} {t : Calendar.DateTime}
    (h : read? s = some (.dateTime t)) : Calendar.readDateTime? s = some t := by
  rw [read?, Option.or_eq_some_iff] at h
  rcases h with h | ⟨-, h⟩ <;> obtain ⟨_, hread, he⟩ := Option.map_eq_some_iff.1 h
  · cases he
  · obtain rfl := dateTime.inj he
    exact hread

/-- The normal form of what is read is read as the same moment. -/
theorem read?_text {s : String} {m : Moment} (h : read? s = some m) : read? m.text = some m := by
  cases m with
  | date d => rw [text, read?, Calendar.readDate_text]; rfl
  | dateTime t =>
    rw [text, read?, Calendar.readDate_dateTime, Calendar.readDateTime?_blank,
      Calendar.DateTime.asRead_of_readDateTime? (readDateTime?_of_read? h)]
    rfl

theorem text_inj {s s' : String} {m m' : Moment} (h : read? s = some m) (h' : read? s' = some m') :
    m.text = m'.text ↔ m = m' := by
  refine ⟨fun ht => ?_, fun ht => ht ▸ rfl⟩
  have hread := read?_text h
  rw [ht, read?_text h'] at hread
  exact (Option.some.inj hread).symm

/-- A text, in the normal form of its moment if it has one. -/
def normal (s : String) : String := ((read? s).map text).getD s

theorem normal_of_some {s : String} {m : Moment} (h : read? s = some m) : normal s = m.text := by
  rw [normal, h]
  rfl

theorem normal_of_none {s : String} (h : read? s = none) : normal s = s := by
  rw [normal, h]
  rfl

theorem normal_eq_self_iff {s : String} :
    normal s = s ↔ ∀ m, read? s = some m → s = m.text := by
  cases h : read? s with
  | none => exact iff_of_true (normal_of_none h) (by simp)
  | some m =>
    rw [normal_of_some h]
    simp [eq_comm]

/-- Normal forms tell apart what does not read as the same moment. -/
theorem normal_eq_iff {s s' : String} :
    normal s' = normal s ↔ s' = s ∨ ∃ m, read? s = some m ∧ read? s' = some m := by
  refine ⟨fun h => ?_, ?_⟩
  · cases hs : read? s with
    | none =>
      rw [normal_of_none hs] at h
      cases hs' : read? s' with
      | none => exact .inl ((normal_of_none hs').symm.trans h)
      | some m =>
        rw [← h, normal_of_some hs', read?_text hs'] at hs
        cases hs
    | some m =>
      rw [normal_of_some hs] at h
      cases hs' : read? s' with
      | none =>
        rw [← normal_of_none hs', h, read?_text hs] at hs'
        cases hs'
      | some m' =>
        rw [normal_of_some hs', text_inj hs' hs] at h
        exact .inr ⟨m, rfl, by rw [h]⟩
  · rintro (rfl | ⟨m, hs, hs'⟩)
    · rfl
    · rw [normal_of_some hs, normal_of_some hs']

end Moment

/-! ## Cells -/

/-- The text that is stored, if its bytes encode one. -/
def Cell.storedText? : Cell → Option String
  | .text s => some s
  | .garbled bytes => (Text.readUtf8? bytes).toOption
  | _ => none

/-- Only types that accept the class of a value can read it. -/
theorem findSome?_decodeOptional {c : Cell} (hc : c ≠ .null) (types : List ScalarType) :
    (types.findSome? fun t => (t.decodeOptional c).toOption) =
      (types.filter (·.accepts c.storageClass)).findSome? fun t =>
        (t.convert c).toOption.map some := by
  induction types with
  | nil => rfl
  | cons t types ih =>
    by_cases ht : t.accepts c.storageClass = true
    · have htry : (t.decodeOptional c).toOption = (t.convert c).toOption.map some := by
        rw [ScalarType.decodeOptional, if_neg hc, if_pos ht]
        cases t.convert c <;> rfl
      rw [List.filter_cons, if_pos ht, List.findSome?_cons, List.findSome?_cons, htry, ih]
    · have hskip : (t.decodeOptional c).toOption = none := by
        rw [ScalarType.decodeOptional, if_neg hc, if_neg ht]
        rfl
      rw [List.filter_cons, if_neg ht, List.findSome?_cons, hskip, ih]

theorem filter_cellTypes_text :
    cellTypes.filter (·.accepts .text) = [.date, .dateTime, .string] := rfl

/-- A string takes every text, and a moment comes before it. -/
theorem findSome?_convertReadable (s : String) :
    ([ScalarType.date, .dateTime, .string].findSome? fun t =>
      (t.convertReadable (.text s)).toOption.map some).map scalarText =
        some (Moment.normal s) := by
  simp only [List.findSome?_cons, ScalarType.convertReadable, Cell.toDateTime?, Cell.toText,
    Moment.normal, Moment.read?]
  cases Calendar.readDate s with
  | ok d => rfl
  | error =>
    cases Calendar.readDateTime? s with
    | some t => rfl
    | none => rfl

/-- **A text is printed in the normal form of its moment**, or as it is stored if it has none. -/
theorem cellText_of_text {c : Cell} (h : c.storageClass = .text) :
    cellText c = (c.storedText?.map Moment.normal).getD "?" := by
  have hnull : c ≠ .null := by
    rintro rfl
    cases h
  rw [cellText, findSome?_decodeOptional hnull, h, filter_cellTypes_text]
  cases c with
  | text s =>
    have hconvert (t : ScalarType) : t.convert (.text s) = t.convertReadable (.text s) := rfl
    simp only [hconvert, findSome?_convertReadable]
    rfl
  | garbled bytes =>
    simp only [ScalarType.convert, Cell.storedText?]
    cases Text.readUtf8? bytes with
    | ok s =>
      simp only [findSome?_convertReadable]
      rfl
    | error => rfl
  | null | integer | real | blob => cases h

/-- **When a text is printed as it is stored, and when two texts are printed alike.**  A text that
encodes no characters is a question mark.  Any other one is printed as it is stored unless it reads
as a moment and is not in normal form, and like another one only if the two are the same or read as
the same moment. -/
theorem cellText_eq_stored_iff (c : Cell) (h : c.storageClass = .text) :
    (c.storedText? = none → cellText c = "?") ∧
      ∀ s, c.storedText? = some s →
        (cellText c = s ↔ ∀ m, Moment.read? s = some m → s = m.text) ∧
        ∀ c' s', c'.storageClass = .text → c'.storedText? = some s' →
          (cellText c' = cellText c ↔
            s' = s ∨ ∃ m, Moment.read? s = some m ∧ Moment.read? s' = some m) := by
  rw [cellText_of_text h]
  refine ⟨fun hs => by rw [hs]; rfl, fun s hs => ?_⟩
  rw [hs, Option.map_some, Option.getD_some]
  refine ⟨Moment.normal_eq_self_iff, fun c' s' h' hs' => ?_⟩
  rw [cellText_of_text h', hs', Option.map_some, Option.getD_some]
  exact Moment.normal_eq_iff

theorem cellText_eq_stored_iff_fifthOfJanuary :
    Cell.storageClass (.text "2024-1-5") = .text ∧
      (cellText (.text "2024-1-5") = "2024-1-5" ↔
        ∀ m, Moment.read? "2024-1-5" = some m → "2024-1-5" = m.text) ∧
      cellText (.text " 2024-01-05") = cellText (.text "2024-1-5") :=
  have h := (cellText_eq_stored_iff (.text "2024-1-5") rfl).2 "2024-1-5" rfl
  ⟨rfl, h.1, (h.2 (.text " 2024-01-05") " 2024-01-05" rfl rfl).2
    (.inr ⟨.date ⟨2024, 1, 5, by decide⟩, by decide +kernel, by decide +kernel⟩)⟩

/-- Zeros, a blank, a `T` and an offset are lost. -/
theorem cellText_normalForms :
    cellText (.text "2024-1-5") = "2024-01-05" ∧ cellText (.text " 2024-01-05") = "2024-01-05" ∧
      cellText (.text "2024-01-10T10:00") = "2024-01-10 10:00:00" ∧
      cellText (.text "2024-01-10 10:00+05:00") = "2024-01-10 10:00:00" := by
  decide +kernel

end ReportQuery
