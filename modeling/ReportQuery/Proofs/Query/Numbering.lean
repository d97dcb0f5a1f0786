/-
# Numbered statements

PostgreSQL statements have `$1`, `$2`, … where a query has `?`.  A statement is
read here as such a database reads it: single quotes enclose literals, a quote
that is written twice in a literal closes and opens it again, and outside of
literals a `$` with digits behind it is a placeholder, as many digits as there
are (`readNumbers`).

A text with marks is `Settled` when it closes its literals, has its marks
outside of them, and has no `?` or `$` of its own there; it is `Spaced` when no
digit follows a mark.  Numbering the placeholders of what a settled text spells
spells its marks as `$1`, `$2`, … (`numberFrom_spell`), and if the text is spaced
too, reading the outcome gives the text with its marks numbered
(`readNumbers_spell`).
-/

import ReportQuery.Database
import ReportQuery.Proofs.Query.MarkedText
import Mathlib.Data.List.Chain

namespace ReportQuery

open MarkedText

/-! ## Literals -/

/-- The characters of a text that stand outside of single quotes.  The flag says
whether the text begins inside of them. -/
def unquoted : Bool → List Char → List Char
  | _, [] => []
  | quoted, c :: cs =>
    if c = '\'' then unquoted (!quoted) cs
    else if quoted then unquoted quoted cs
    else c :: unquoted quoted cs

theorem mem_of_mem_unquoted {quoted : Bool} {cs : List Char} {c : Char}
    (h : c ∈ unquoted quoted cs) : c ∈ cs := by
  induction cs generalizing quoted with
  | nil => exact h
  | cons d cs ih =>
    rw [unquoted] at h
    split at h
    · exact List.mem_cons_of_mem _ (ih h)
    · split at h
      · exact List.mem_cons_of_mem _ (ih h)
      · rcases List.mem_cons.1 h with rfl | h
        · exact List.mem_cons_self
        · exact List.mem_cons_of_mem _ (ih h)

/-- A text that closes its literals and has neither `?` nor `$` outside of them. -/
def Closed (s : String) : Prop :=
  s.toList.count '\'' % 2 = 0 ∧ '?' ∉ unquoted false s.toList ∧ '$' ∉ unquoted false s.toList

instance (s : String) : Decidable (Closed s) :=
  inferInstanceAs (Decidable (_ ∧ _ ∧ _))

/-! ## Reading a numbered statement -/

/-- A statement with its placeholders as marks: outside of literals, `$` and the
digits behind it, if there are any. -/
def readNumbers (quoted : Bool) (cs : List Char) : MarkedText String :=
  match cs with
  | [] => []
  | c :: cs =>
    if c = '\'' then .char c :: readNumbers (!quoted) cs
    else if c = '$' ∧ quoted = false ∧ cs.takeWhile Char.isDigit ≠ [] then
      .mark (String.ofList (cs.takeWhile Char.isDigit)) ::
        readNumbers quoted (cs.dropWhile Char.isDigit)
    else .char c :: readNumbers quoted cs
termination_by cs.length
decreasing_by
  · simp
  · exact Nat.lt_succ_of_le (List.dropWhile_suffix _).length_le
  · simp

/-- How a numbered placeholder is written. -/
def dollar (digits : String) : String := "$" ++ digits

/-- Reading loses nothing: the placeholders and the characters make up the statement. -/
theorem spell_readNumbers (quoted : Bool) (cs : List Char) :
    (spell dollar (readNumbers quoted cs)).toList = cs := by
  fun_induction readNumbers quoted cs with
  | case1 => rfl
  | case2 quoted cs ih => simp [ih]
  | case3 quoted c cs hc hd ih => simp [dollar, hd.1, ih]
  | case4 quoted c cs hc hd ih => simp [ih]

variable {α : Type}

/-- A text with its marks numbered, counting on from a number. -/
def numbered (n : Nat) : MarkedText α → MarkedText String
  | [] => []
  | .char c :: t => .char c :: numbered n t
  | .mark _ :: t => .mark (toString (n + 1)) :: numbered (n + 1) t

theorem marks_numbered (n : Nat) (t : MarkedText α) :
    marks (numbered n t) = (List.range' (n + 1) (marks t).length).map toString := by
  induction t generalizing n with
  | nil => rfl
  | cons s t ih => cases s <;> simp [numbered, ih, List.range'_succ]

/-- A mark is numbered where it stands, by the number of its place among the marks. -/
theorem exists_getElem?_numbered {t : MarkedText α} {k : Nat} {a : α} (h : (marks t)[k]? = some a)
    (n : Nat) :
    ∃ place : Nat, t[place]? = some (.mark a) ∧
      (numbered n t)[place]? = some (.mark (toString (n + k + 1))) := by
  induction t generalizing n k with
  | nil => simp at h
  | cons s t ih =>
    cases s with
    | char c =>
      obtain ⟨place, ht, hn⟩ := ih h n
      exact ⟨place + 1, ht, hn⟩
    | mark b =>
      cases k with
      | zero =>
        obtain rfl : b = a := by simpa using h
        exact ⟨0, rfl, rfl⟩
      | succ k =>
        obtain ⟨place, ht, hn⟩ := ih (by simpa using h) (n + 1)
        have hk : n + (k + 1) = n + 1 + k := by omega
        exact ⟨place + 1, ht, by rw [numbered, List.getElem?_cons_succ, hn, hk]⟩

theorem spell_const_numbered (w : String) (n : Nat) (t : MarkedText α) :
    spell (fun _ => w) (numbered n t) = spell (fun _ => w) t := by
  induction t generalizing n with
  | nil => rfl
  | cons s t ih => cases s <;> simp [numbered, ih]

/-! ## Settled texts -/

/-- A text that ends outside of literals and has its marks there, where it has
neither `?` nor `$`.  The flag says whether the text begins inside of a literal. -/
def Settled : Bool → MarkedText α → Prop
  | quoted, [] => quoted = false
  | quoted, .char c :: t =>
    if c = '\'' then Settled (!quoted) t
    else (quoted = false → c ≠ '?' ∧ c ≠ '$') ∧ Settled quoted t
  | quoted, .mark _ :: t => quoted = false ∧ Settled quoted t

theorem Settled.append {quoted : Bool} {t₁ t₂ : MarkedText α} (h₁ : Settled quoted t₁)
    (h₂ : Settled false t₂) : Settled quoted (t₁ ++ t₂) := by
  induction t₁ generalizing quoted with
  | nil =>
    obtain rfl : quoted = false := h₁
    exact h₂
  | cons s t₁ ih =>
    cases s with
    | mark a => exact ⟨h₁.1, ih h₁.2⟩
    | char c =>
      rw [List.cons_append, Settled]
      rw [Settled] at h₁
      split
      · next hc =>
        rw [if_pos hc] at h₁
        exact ih h₁
      · next hc =>
        rw [if_neg hc] at h₁
        exact ⟨h₁.1, ih h₁.2⟩

/-- A text without marks is settled if its quotes come in pairs, one of them
missing if it begins inside of a literal, and it has no `?` or `$` outside. -/
theorem settled_map_char {quoted : Bool} {cs : List Char}
    (hq : cs.count '\'' % 2 = if quoted then 1 else 0) (hm : '?' ∉ unquoted quoted cs)
    (hd : '$' ∉ unquoted quoted cs) : Settled quoted (cs.map (.char (α := α))) := by
  induction cs generalizing quoted with
  | nil => cases quoted <;> simp_all [Settled]
  | cons c cs ih =>
    rw [List.map_cons, Settled]
    split
    · next hc =>
      subst hc
      rw [unquoted, if_pos rfl] at hm hd
      refine ih ?_ hm hd
      rw [List.count_cons_self] at hq
      cases quoted <;> simp_all <;> omega
    · next hc =>
      rw [List.count_cons_of_ne hc] at hq
      rw [unquoted, if_neg hc] at hm hd
      cases quoted with
      | true => exact ⟨nofun, ih hq hm hd⟩
      | false =>
        simp only [Bool.false_eq_true, if_false, List.mem_cons, not_or] at hm hd
        exact ⟨fun _ => ⟨Ne.symm hm.1, Ne.symm hd.1⟩, ih hq hm.2 hd.2⟩

theorem Closed.settled {s : String} (h : Closed s) : Settled false (plain s : MarkedText α) :=
  settled_map_char h.1 h.2.1 h.2.2

/-- **Numbering the placeholders numbers the marks,** in a settled text. -/
theorem numberFrom_spell {quoted : Bool} {t : MarkedText α} (h : Settled quoted t) (n : Nat) :
    Database.numberFrom n quoted (spell (fun _ => "?") t).toList =
      (spell dollar (numbered n t)).toList := by
  induction t generalizing quoted n with
  | nil => rfl
  | cons s t ih =>
    cases s with
    | mark a =>
      obtain ⟨rfl, ht⟩ := h
      simp [numbered, dollar, Database.numberFrom, Database.placeholder, ih ht]
    | char c =>
      rw [Settled] at h
      simp only [numbered, spell_char_cons, String.toList_append, String.toList_singleton,
        List.singleton_append, Database.numberFrom]
      by_cases hc : c = '\''
      · rw [if_pos hc] at h
        rw [if_pos hc, ih h]
      · rw [if_neg hc] at h
        rw [if_neg hc, if_neg, ih h.2]
        intro hm
        cases quoted <;> simp_all

/-! ## Digits behind a placeholder -/

/-- Whether a symbol may stand behind another one: no digit and no mark behind a mark. -/
def Symbol.MayPrecede : Symbol α → Symbol α → Prop
  | .char _, _ => True
  | .mark _, .char c => c.isDigit = false
  | .mark _, .mark _ => False

/-- A text in which no digit follows a mark. -/
def Spaced (t : MarkedText α) : Prop := t.IsChain Symbol.MayPrecede

theorem isDigit_of_mem_toString {n : Nat} {c : Char} (h : c ∈ (toString n).toList) : c.isDigit := by
  rw [show toString n = n.repr from rfl, Nat.toList_repr] at h
  exact Nat.isDigit_of_mem_toDigits (by decide) (by decide) h

theorem not_mem_toString {c : Char} (h : c.isDigit = false) (n : Nat) : c ∉ (toString n).toList :=
  fun hm => absurd (isDigit_of_mem_toString hm) (by simp [h])

theorem toList_toString_ne_nil (n : Nat) : (toString n).toList ≠ [] := by
  rw [show toString n = n.repr from rfl, Nat.toList_repr]
  exact Nat.toDigits_ne_nil

/-- What follows a mark in a spaced text begins with no digit. -/
theorem Spaced.isDigit_head? {a : α} {t : MarkedText α} (h : Spaced (.mark a :: t)) (n : Nat) :
    ∀ c ∈ (spell dollar (numbered n t)).toList.head?, c.isDigit = false := by
  cases t with
  | nil => exact fun c hc => absurd hc (by simp [numbered])
  | cons s t =>
    have hs := (List.isChain_cons_cons.1 h).1
    cases s with
    | mark b => exact absurd hs id
    | char d =>
      intro c hc
      simp only [numbered, spell_char_cons, String.toList_append, String.toList_singleton,
        List.singleton_append, List.head?_cons, Option.mem_some_iff] at hc
      exact hc ▸ hs

theorem takeWhile_append_of_head? {p : Char → Bool} {ds cs : List Char} (hd : ∀ c ∈ ds, p c)
    (hc : ∀ c ∈ cs.head?, p c = false) :
    (ds ++ cs).takeWhile p = ds ∧ (ds ++ cs).dropWhile p = cs := by
  rw [List.takeWhile_append_of_pos hd, List.dropWhile_append_of_pos hd]
  cases cs with
  | nil => simp
  | cons c cs => simp [hc c rfl]

/-- **A numbered text is read as it is,** if it is settled and no digit follows its marks. -/
theorem readNumbers_spell {quoted : Bool} {t : MarkedText α} (hs : Settled quoted t)
    (hd : Spaced t) (n : Nat) :
    readNumbers quoted (spell dollar (numbered n t)).toList = numbered n t := by
  induction t generalizing quoted n with
  | nil => simp [numbered, readNumbers]
  | cons s t ih =>
    have ht : Spaced t := hd.tail
    cases s with
    | mark a =>
      obtain ⟨rfl, hs⟩ := hs
      have hw := takeWhile_append_of_head? (p := Char.isDigit)
        (fun c hc => isDigit_of_mem_toString (n := n + 1) hc) (hd.isDigit_head? (n + 1))
      have hcs : (spell dollar (numbered n (.mark a :: t))).toList = '$' ::
          ((toString (n + 1)).toList ++ (spell dollar (numbered (n + 1) t)).toList) := by
        simp [numbered, dollar]
      rw [hcs, readNumbers, if_neg (by decide), if_pos, hw.1, hw.2, ih hs ht, String.ofList_toList]
      · rfl
      · refine ⟨rfl, rfl, ?_⟩
        rw [hw.1]
        exact toList_toString_ne_nil (n + 1)
    | char c =>
      rw [Settled] at hs
      simp only [numbered, spell_char_cons, String.toList_append, String.toList_singleton,
        List.singleton_append, readNumbers]
      by_cases hc : c = '\''
      · rw [if_pos hc] at hs
        rw [if_pos hc, ih hs ht]
      · rw [if_neg hc] at hs
        rw [if_neg hc, if_neg, ih hs.2 ht]
        exact fun h => (hs.1 h.2.1).2 h.1

/-! ## Reading a part of a statement -/

theorem takeWhile_append_of_head?_right {p : Char → Bool} (cs : List Char) {ds : List Char}
    (hd : ∀ c ∈ ds.head?, p c = false) :
    (cs ++ ds).takeWhile p = cs.takeWhile p ∧ (cs ++ ds).dropWhile p = cs.dropWhile p ++ ds := by
  have hw : ∀ c ∈ cs.takeWhile p, p c := fun c hc => List.all_eq_true.1 List.all_takeWhile c hc
  have hh : ∀ c ∈ (cs.dropWhile p ++ ds).head?, p c = false := by
    intro c hc
    rw [List.head?_append, Option.mem_def, Option.or_eq_some_iff] at hc
    rcases hc with hc | ⟨-, hc⟩
    · have hn := List.head?_dropWhile_not p cs
      rwa [hc] at hn
    · exact hd c hc
  have h := takeWhile_append_of_head? hw hh
  rwa [← List.append_assoc, List.takeWhile_append_dropWhile] at h

/-- **What comes behind a statement does not change how it is read,** if it has no
digits, quotes or dollar signs; and it is read as it is. -/
theorem readNumbers_append {ds : List Char}
    (hd : ∀ c ∈ ds, c.isDigit = false ∧ c ≠ '\'' ∧ c ≠ '$') (quoted : Bool) (cs : List Char) :
    readNumbers quoted (cs ++ ds) = readNumbers quoted cs ++ ds.map .char := by
  have hw := fun cs => takeWhile_append_of_head?_right (p := Char.isDigit) cs fun c hc =>
    (hd c (List.mem_of_mem_head? hc)).1
  fun_induction readNumbers quoted cs with
  | case1 quoted =>
    clear hw
    induction ds with
    | nil => simp [readNumbers]
    | cons d ds ih =>
      obtain ⟨hd₁, hd⟩ := List.forall_mem_cons.1 hd
      rw [List.nil_append, readNumbers, if_neg hd₁.2.1, if_neg fun h => hd₁.2.2 h.1]
      exact congrArg _ (ih hd)
  | case2 quoted cs ih => rw [List.cons_append, readNumbers, if_pos rfl, ih, List.cons_append]
  | case3 quoted c cs hc hn ih =>
    rw [List.cons_append, readNumbers, if_neg hc, (hw cs).1, if_pos hn, (hw cs).2, ih,
      List.cons_append]
  | case4 quoted c cs hc hn ih =>
    rw [List.cons_append, readNumbers, if_neg hc, (hw cs).1, if_neg hn, ih, List.cons_append]

theorem unquoted_append_of_not_mem {ds : List Char} (h : '\'' ∉ ds) (cs : List Char) :
    unquoted false (ds ++ cs) = ds ++ unquoted false cs := by
  induction ds with
  | nil => rfl
  | cons d ds ih =>
    have hd : d ≠ '\'' := fun he => h (he ▸ List.mem_cons_self)
    rw [List.cons_append, unquoted, if_neg hd, ih fun hm => h (List.mem_cons_of_mem _ hm)]
    rfl

/-- A numbered text has no `?` outside of its literals. -/
theorem questionMark_not_mem_unquoted {quoted : Bool} {t : MarkedText α} (h : Settled quoted t)
    (n : Nat) : '?' ∉ unquoted quoted (spell dollar (numbered n t)).toList := by
  induction t generalizing quoted n with
  | nil => simp [numbered, unquoted]
  | cons s t ih =>
    cases s with
    | mark a =>
      obtain ⟨rfl, ht⟩ := h
      have hcs : (spell dollar (numbered n (.mark a :: t))).toList = ('$' ::
          (toString (n + 1)).toList) ++ (spell dollar (numbered (n + 1) t)).toList := by
        simp [numbered, dollar]
      rw [hcs, unquoted_append_of_not_mem, List.mem_append, List.mem_cons, not_or, not_or]
      · exact ⟨⟨by decide, not_mem_toString (by decide) _⟩, ih ht (n + 1)⟩
      · rw [List.mem_cons, not_or]
        exact ⟨by decide, not_mem_toString (by decide) _⟩
    | char c =>
      rw [Settled] at h
      simp only [numbered, spell_char_cons, String.toList_append, String.toList_singleton,
        List.singleton_append, unquoted]
      by_cases hc : c = '\''
      · rw [if_pos hc] at h
        rw [if_pos hc]
        exact ih h n
      · rw [if_neg hc] at h
        rw [if_neg hc]
        have ht := ih h.2 n
        cases quoted with
        | true => exact ht
        | false => simpa using ⟨Ne.symm (h.1 rfl).1, ht⟩

end ReportQuery
