/-
# Texts with marks

A text in which some places are marked: a mark stands there instead of
characters.  Bound values are marks in the text of a query, and atoms are marks
in the text of a condition.

`spell f` writes every mark as `f` says and so gives a plain text; `marks` reads
the marks from left to right.  Both go through `++`, so what a text spells and
which marks it holds follow from its pieces (`spell_append`, `marks_append`).
A text that spells nothing is empty if no mark is spelled by the empty text
(`spell_eq_empty_iff`): only then may a text be left out when what it spells is
empty.
-/

import ReportQuery.Query.Basic

namespace ReportQuery

/-- A character of a text, or a mark in it. -/
inductive Symbol (α : Type) where
  | char (c : Char)
  | mark (a : α)
deriving DecidableEq

/-- A text with marks in it. -/
abbrev MarkedText (α : Type) := List (Symbol α)

namespace MarkedText

variable {α β : Type}

/-- A text without marks. -/
def plain (s : String) : MarkedText α := s.toList.map .char

/-- The text with every mark written out. -/
def spell (f : α → String) : MarkedText α → String
  | [] => ""
  | .char c :: t => String.singleton c ++ spell f t
  | .mark a :: t => f a ++ spell f t

/-- The marks of a text, from left to right. -/
def marks (t : MarkedText α) : List α := t.filterMap fun
  | .char _ => none
  | .mark a => some a

/-! ## Plain texts and texts one behind the other -/

@[simp] theorem plain_empty : (plain "" : MarkedText α) = [] := by
  rw [plain, String.toList_empty]
  rfl

@[simp] theorem plain_append (s₁ s₂ : String) :
    (plain (s₁ ++ s₂) : MarkedText α) = plain s₁ ++ plain s₂ := by
  simp [plain]

@[simp] theorem plain_eq_nil_iff {s : String} : (plain s : MarkedText α) = [] ↔ s = "" := by
  simp [plain]

@[simp] theorem spell_nil (f : α → String) : spell f [] = "" := rfl

@[simp] theorem spell_char_cons (f : α → String) (c : Char) (t : MarkedText α) :
    spell f (.char c :: t) = String.singleton c ++ spell f t := rfl

@[simp] theorem spell_mark_cons (f : α → String) (a : α) (t : MarkedText α) :
    spell f (.mark a :: t) = f a ++ spell f t := rfl

@[simp] theorem spell_append (f : α → String) (t₁ t₂ : MarkedText α) :
    spell f (t₁ ++ t₂) = spell f t₁ ++ spell f t₂ := by
  induction t₁ with
  | nil => simp
  | cons s t₁ ih => cases s <;> simp [ih, String.append_assoc]

@[simp] theorem spell_plain (f : α → String) (s : String) : spell f (plain s) = s := by
  rw [← String.toList_inj]
  have h : ∀ cs : List Char, (spell f (cs.map .char)).toList = cs := by
    intro cs
    induction cs with
    | nil => rfl
    | cons c cs ih => simp [ih]
  exact h s.toList

@[simp] theorem marks_nil : marks ([] : MarkedText α) = [] := rfl

@[simp] theorem marks_char_cons (c : Char) (t : MarkedText α) :
    marks (.char c :: t) = marks t := rfl

@[simp] theorem marks_mark_cons (a : α) (t : MarkedText α) :
    marks (.mark a :: t) = a :: marks t := rfl

@[simp] theorem marks_append (t₁ t₂ : MarkedText α) : marks (t₁ ++ t₂) = marks t₁ ++ marks t₂ :=
  List.filterMap_append

@[simp] theorem marks_plain (s : String) : marks (plain s : MarkedText α) = [] := by
  simp [marks, plain, List.filterMap_map]

/-- A text spells nothing only if it is empty, when every mark is spelled by some character. -/
theorem spell_eq_empty_iff {f : α → String} (hf : ∀ a, f a ≠ "") {t : MarkedText α} :
    spell f t = "" ↔ t = [] := by
  cases t with
  | nil => simp
  | cons s t => cases s <;> simp [hf]

/-! ## Separators -/

/-- The text behind another one, with a separator between them unless the first is empty. -/
def behind (separator : String) (t piece : MarkedText α) : MarkedText α :=
  if t.isEmpty then piece else t ++ plain separator ++ piece

/-- A text behind a keyword; the keyword is left out if the text is empty. -/
def optional (keyword : String) (t : MarkedText α) : MarkedText α :=
  if t.isEmpty then [] else plain keyword ++ t

/-- Texts with a separator between any two of them. -/
def separated (separator : String) (ts : List (MarkedText α)) : MarkedText α :=
  (plain separator).intercalate ts

/-- Texts behind a keyword, with a separator between any two of them; the keyword is
left out if there are no texts. -/
def headed (keyword separator : String) (ts : List (MarkedText α)) : MarkedText α :=
  if ts.isEmpty then [] else plain keyword ++ separated separator ts

theorem spell_behind {f : α → String} (hf : ∀ a, f a ≠ "") (separator : String)
    (t piece : MarkedText α) :
    spell f (behind separator t piece) = appendPiece separator (spell f t) (spell f piece) := by
  by_cases h : t = []
  · simp [behind, appendPiece, h]
  · have hs : spell f t ≠ "" := fun he => h ((spell_eq_empty_iff hf).1 he)
    simp [behind, appendPiece, h, hs, String.append_assoc]

theorem marks_behind (separator : String) (t piece : MarkedText α) :
    marks (behind separator t piece) = marks t ++ marks piece := by
  by_cases h : t = [] <;> simp [behind, h]

theorem spell_optional {f : α → String} (hf : ∀ a, f a ≠ "") (keyword : String)
    (t : MarkedText α) : spell f (optional keyword t) = optionalClause keyword (spell f t) := by
  by_cases h : t = []
  · simp [optional, optionalClause, h]
  · have hs : spell f t ≠ "" := fun he => h ((spell_eq_empty_iff hf).1 he)
    simp [optional, optionalClause, h, hs]

theorem marks_optional (keyword : String) (t : MarkedText α) :
    marks (optional keyword t) = marks t := by
  by_cases h : t = [] <;> simp [optional, h]

theorem spell_separated (f : α → String) (separator : String) (ts : List (MarkedText α)) :
    spell f (separated separator ts) = separator.intercalate (ts.map (spell f)) := by
  rw [← String.toList_inj, String.toList_intercalate]
  induction ts with
  | nil => rfl
  | cons t ts ih =>
    cases ts with
    | nil => simp [separated]
    | cons u us => simp_all [separated, List.intercalate_cons_cons]

theorem marks_separated (separator : String) (ts : List (MarkedText α)) :
    marks (separated separator ts) = ts.flatMap marks := by
  induction ts with
  | nil => rfl
  | cons t ts ih =>
    cases ts with
    | nil => simp [separated]
    | cons u us => simp_all [separated, List.intercalate_cons_cons]

theorem marks_headed (keyword separator : String) (ts : List (MarkedText α)) :
    marks (headed keyword separator ts) = ts.flatMap marks := by
  cases ts with
  | nil => rfl
  | cons t ts =>
    rw [headed, if_neg (by simp), marks_append, marks_plain, List.nil_append, marks_separated]

theorem separated_append_cons (separator : String) (t piece : MarkedText α)
    (ts : List (MarkedText α)) :
    separated separator ((t ++ piece) :: ts) = t ++ separated separator (piece :: ts) := by
  cases ts with
  | nil => simp [separated]
  | cons u us => simp [separated, List.intercalate_cons_cons]

/-- Texts that are put behind each other are separated from a text on that is not empty. -/
theorem foldl_behind_of_ne_nil (separator : String) {t : MarkedText α} (ht : t ≠ [])
    (ts : List (MarkedText α)) :
    ts.foldl (behind separator) t = separated separator (t :: ts) := by
  induction ts generalizing t with
  | nil => simp [separated]
  | cons u us ih =>
    have hb : behind separator t u = t ++ plain separator ++ u := by simp [behind, ht]
    rw [List.foldl_cons, ih (by simp [hb, ht]), hb, separated_append_cons, separated, separated,
      List.intercalate_cons_cons]

theorem foldl_behind {ts : List (MarkedText α)} (h : ∀ t ∈ ts, t ≠ []) (separator : String) :
    ts.foldl (behind separator) [] = separated separator ts := by
  cases ts with
  | nil => rfl
  | cons t ts => exact foldl_behind_of_ne_nil separator (h t List.mem_cons_self) ts

/-- A text made of others is empty only without them, if none of these is empty. -/
theorem optional_foldl_behind {ts : List (MarkedText α)} (h : ∀ t ∈ ts, t ≠ [])
    (keyword separator : String) :
    optional keyword (ts.foldl (behind separator) []) = headed keyword separator ts := by
  cases ts with
  | nil => rfl
  | cons t ts =>
    have ht : t ≠ [] := h t List.mem_cons_self
    have hs : separated separator (t :: ts) ≠ [] := by cases ts <;> simp [separated, ht]
    rw [foldl_behind h, optional, headed, if_neg (by simpa using hs), if_neg (by simp)]

end MarkedText

end ReportQuery
