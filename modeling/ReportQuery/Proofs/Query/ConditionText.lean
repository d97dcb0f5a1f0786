/-
# Texts of conditions

A condition is read from a text in which its atoms are marks.  Between the atoms
stand `AND`, `OR` and parentheses, with blanks around the words.  A text is cut
into lexemes (`Condition.lexemesFrom`), and these are read from left to right with
a stack of the parentheses that are open (`Condition.read?`).

The reader accepts the lexemes of a condition and nothing else (`read?_eq_some_iff`),
so a text means what it says, and in one way only.  Texts with `AND` between them
are therefore read as their conditions with `AND` between them
(`ofText?_foldl_behind`).
-/

import ReportQuery.Proofs.Query.Condition
import ReportQuery.Proofs.Query.MarkedText
import ReportQuery.Sql.Token

namespace ReportQuery

open MarkedText

variable {α : Type}

namespace Condition

/-! ## Lexemes -/

/-- What a condition is written with; `junk` is a word that has no place in it. -/
inductive Lexeme (α : Type) where
  | atom (a : α)
  | and
  | or
  | opening
  | closing
  | junk
deriving DecidableEq

end Condition

open Condition (Lexeme)

mutual

/-- How a condition is written. -/
def Condition.lexemes : Condition α → List (Lexeme α)
  | .one c => c.lexemes
  | .or d c => d.lexemes ++ .or :: c.lexemes

/-- How a conjunction is written. -/
def Conjunction.lexemes : Conjunction α → List (Lexeme α)
  | .one f => f.lexemes
  | .and c f => c.lexemes ++ .and :: f.lexemes

/-- How a factor is written. -/
def Factor.lexemes : Factor α → List (Lexeme α)
  | .atom a => [.atom a]
  | .group d => .opening :: d.lexemes ++ [.closing]

end

theorem Conjunction.lexemes_append (c c' : Conjunction α) :
    (c.append c').lexemes = c.lexemes ++ .and :: c'.lexemes := by
  cases c' with
  | one f => rfl
  | and c' f =>
    rw [append, lexemes, lexemes_append c c', lexemes, List.append_assoc, List.cons_append]

namespace Condition

theorem lexemes_extend (d : Condition α) (c : Conjunction α) :
    (d.extend c).lexemes = d.lexemes ++ .and :: c.lexemes := by
  cases d with
  | one c' => exact c'.lexemes_append c
  | or d c' =>
    rw [extend, lexemes, c'.lexemes_append, lexemes, List.append_assoc, List.cons_append]

theorem lexemes_andThen (d e : Condition α) :
    (d.andThen e).lexemes = d.lexemes ++ .and :: e.lexemes := by
  cases e with
  | one c => exact lexemes_extend d c
  | or e c =>
    rw [andThen, lexemes, lexemes_andThen d e, lexemes, List.append_assoc, List.cons_append]

theorem lexemes_orElse (d e : Condition α) :
    (d.orElse e).lexemes = d.lexemes ++ .or :: e.lexemes := by
  cases e with
  | one c => rfl
  | or e c =>
    rw [orElse, lexemes, lexemes_orElse d e, lexemes, List.append_assoc, List.cons_append]

/-! ## Reading lexemes -/

/-- A condition that lacks its end: nothing is there yet, or one with `OR` or
`AND` behind it. -/
inductive Hole (α : Type) where
  | start
  | behindOr (d : Condition α)
  | behindAnd (d : Condition α)

/-- The condition with its end. -/
def Hole.fill : Hole α → Condition α → Condition α
  | .start, e => e
  | .behindOr d, e => d.orElse e
  | .behindAnd d, e => d.andThen e

/-- How far a condition is read: up to where a factor has to follow, or up to the
end of a factor.  The holes are those of the parentheses that are open. -/
inductive Progress (α : Type) where
  | hole (h : Hole α) (outer : List (Hole α))
  | full (d : Condition α) (outer : List (Hole α))

/-- Reading one lexeme. -/
def Progress.step : Progress α → Lexeme α → Option (Progress α)
  | .hole h outer, .atom a => some (.full (h.fill (.atom a)) outer)
  | .hole h outer, .opening => some (.hole .start (h :: outer))
  | .full d outer, .and => some (.hole (.behindAnd d) outer)
  | .full d outer, .or => some (.hole (.behindOr d) outer)
  | .full d (h :: outer), .closing => some (.full (h.fill d.grouped) outer)
  | _, _ => none

/-- The condition that is read, if it is complete. -/
def Progress.result? : Progress α → Option (Condition α)
  | .full d [] => some d
  | _ => none

/-- The condition that some lexemes are. -/
def read? (ls : List (Lexeme α)) : Option (Condition α) :=
  (ls.foldlM Progress.step (.hole .start [])).bind Progress.result?

/-! ## The reader accepts conditions -/

/-- An end that has `OR` in it is filled in conjunction by conjunction. -/
theorem Hole.fill_or (h : Hole α) (d : Condition α) (c : Conjunction α) :
    h.fill (.or d c) = .or (h.fill d) c := by
  cases h <;> rfl

/-- An end that is a conjunction is filled in factor by factor. -/
theorem Hole.fill_and (h : Hole α) (c : Conjunction α) (f : Factor α) :
    h.fill (.one (.and c f)) = (h.fill (.one c)).extend (.one f) := by
  cases h with
  | start | behindOr d => rfl
  | behindAnd d => cases d <;> rfl

end Condition

open Condition (Hole Progress)

mutual

/-- Reading a condition fills the hole that it begins in. -/
theorem Condition.foldlM_lexemes (d : Condition α) (h : Hole α) (outer : List (Hole α)) :
    d.lexemes.foldlM Progress.step (.hole h outer) = some (.full (h.fill d) outer) := by
  cases d with
  | one c => exact c.foldlM_lexemes h outer
  | or d c =>
    rw [Condition.lexemes, List.foldlM_append, d.foldlM_lexemes h outer, Hole.fill_or]
    exact c.foldlM_lexemes (.behindOr (h.fill d)) outer

theorem Conjunction.foldlM_lexemes (c : Conjunction α) (h : Hole α) (outer : List (Hole α)) :
    c.lexemes.foldlM Progress.step (.hole h outer) = some (.full (h.fill (.one c)) outer) := by
  cases c with
  | one f => exact f.foldlM_lexemes h outer
  | and c f =>
    rw [Conjunction.lexemes, List.foldlM_append, c.foldlM_lexemes h outer, Hole.fill_and]
    exact f.foldlM_lexemes (.behindAnd (h.fill (.one c))) outer

theorem Factor.foldlM_lexemes (f : Factor α) (h : Hole α) (outer : List (Hole α)) :
    f.lexemes.foldlM Progress.step (.hole h outer) =
      some (.full (h.fill (.one (.one f))) outer) := by
  cases f with
  | atom a => rfl
  | group d =>
    have hd := d.foldlM_lexemes .start (h :: outer)
    rw [Factor.lexemes, List.cons_append, List.foldlM_cons]
    show (d.lexemes ++ [Lexeme.closing]).foldlM Progress.step (.hole .start (h :: outer)) = _
    rw [List.foldlM_append, hd]
    rfl

end

namespace Condition

/-! ## The reader accepts nothing else -/

/-- What is written before a hole. -/
def Hole.lexemes : Hole α → List (Lexeme α)
  | .start => []
  | .behindOr d => d.lexemes ++ [.or]
  | .behindAnd d => d.lexemes ++ [.and]

/-- What is written up to the innermost parenthesis that is open. -/
def outerLexemes : List (Hole α) → List (Lexeme α)
  | [] => []
  | h :: outer => outerLexemes outer ++ h.lexemes ++ [.opening]

/-- What has been read. -/
def Progress.lexemes : Progress α → List (Lexeme α)
  | .hole h outer => outerLexemes outer ++ h.lexemes
  | .full d outer => outerLexemes outer ++ d.lexemes

theorem Hole.lexemes_fill (h : Hole α) (d : Condition α) :
    (h.fill d).lexemes = h.lexemes ++ d.lexemes := by
  cases h with
  | start => rfl
  | behindOr e => rw [fill, lexemes_orElse, lexemes, List.append_assoc, List.singleton_append]
  | behindAnd e => rw [fill, lexemes_andThen, lexemes, List.append_assoc, List.singleton_append]

/-- No lexeme is lost, and none is made up. -/
theorem Progress.lexemes_step {p p' : Progress α} {l : Lexeme α} (h : p.step l = some p') :
    p'.lexemes = p.lexemes ++ [l] := by
  cases p with
  | hole hole outer =>
    cases l with
    | atom a =>
      obtain rfl := Option.some.inj h
      rw [lexemes, lexemes, Hole.lexemes_fill, List.append_assoc]
      rfl
    | opening =>
      obtain rfl := Option.some.inj h
      exact List.append_nil _
    | _ => exact nomatch h
  | full d outer =>
    cases l with
    | and | or =>
      obtain rfl := Option.some.inj h
      exact (List.append_assoc ..).symm
    | closing =>
      cases outer with
      | nil => exact nomatch h
      | cons hole outer =>
        obtain rfl := Option.some.inj h
        rw [lexemes, lexemes, Hole.lexemes_fill, outerLexemes]
        simp [grouped, Condition.lexemes, Conjunction.lexemes, Factor.lexemes]
    | _ => exact nomatch h

theorem Progress.lexemes_foldlM {p p' : Progress α} {ls : List (Lexeme α)}
    (h : ls.foldlM step p = some p') : p'.lexemes = p.lexemes ++ ls := by
  induction ls generalizing p with
  | nil =>
    obtain rfl := Option.some.inj h
    exact (List.append_nil _).symm
  | cons l ls ih =>
    rw [List.foldlM_cons] at h
    obtain ⟨q, hq, h⟩ := Option.bind_eq_some_iff.1 h
    rw [ih h, lexemes_step hq, List.append_assoc, List.singleton_append]

/-- **The reader accepts how conditions are written and nothing else.** -/
theorem read?_eq_some_iff {ls : List (Lexeme α)} {d : Condition α} :
    read? ls = some d ↔ d.lexemes = ls := by
  constructor
  · intro h
    obtain ⟨p, hp, hr⟩ := Option.bind_eq_some_iff.1 h
    cases p with
    | hole hole outer => exact nomatch hr
    | full e outer =>
      cases outer with
      | nil =>
        obtain rfl := Option.some.inj hr
        exact Progress.lexemes_foldlM hp
      | cons hole outer => exact nomatch hr
  · rintro rfl
    rw [read?, d.foldlM_lexemes .start []]
    rfl

/-! ## Reading a text -/

/-- What a word is: an atom, or a keyword in capital or small letters. -/
def Lexeme.ofWord : MarkedText α → Lexeme α
  | [.mark a] => .atom a
  | [.char a, .char n, .char d] =>
    if [a, n, d].map Char.toUpper = ['A', 'N', 'D'] then .and else .junk
  | [.char o, .char r] => if [o, r].map Char.toUpper = ['O', 'R'] then .or else .junk
  | _ => .junk

/-- What ends a word, with the lexeme that it is: blanks are none. -/
def cut? : Symbol α → Option (List (Lexeme α))
  | .char c =>
    if c = '(' then some [.opening]
    else if c = ')' then some [.closing]
    else if Sql.isSpace c then some []
    else none
  | .mark _ => none

/-- A word as a list of lexemes: the empty one is none. -/
def wordLexemes (word : MarkedText α) : List (Lexeme α) :=
  if word.isEmpty then [] else [.ofWord word]

/-- The lexemes of a text behind the beginning of a word. -/
def lexemesFrom (word : MarkedText α) : MarkedText α → List (Lexeme α)
  | [] => wordLexemes word
  | s :: t =>
    match cut? s with
    | some ls => wordLexemes word ++ ls ++ lexemesFrom [] t
    | none => lexemesFrom (word ++ [s]) t

/-- The condition that a text is. -/
def ofText? (t : MarkedText α) : Option (Condition α) := read? (lexemesFrom [] t)

/-- A text is cut where a word ends. -/
theorem lexemesFrom_append {s : Symbol α} {ls : List (Lexeme α)} (hs : cut? s = some ls)
    (word t₁ t₂ : MarkedText α) :
    lexemesFrom word (t₁ ++ s :: t₂) = lexemesFrom word t₁ ++ ls ++ lexemesFrom [] t₂ := by
  induction t₁ generalizing word with
  | nil => simp only [List.nil_append, lexemesFrom, hs]
  | cons s' t₁ ih =>
    rw [List.cons_append, lexemesFrom, lexemesFrom]
    split
    · simp only [ih, List.append_assoc]
    · exact ih _

theorem ofText?_mark (a : α) : ofText? [.mark a] = some (atom a) := rfl

theorem ne_nil_of_ofText? {t : MarkedText α} {d : Condition α} (h : ofText? t = some d) :
    t ≠ [] := by
  rintro rfl
  exact Option.some_ne_none d h.symm

/-- A text in parentheses is the condition in parentheses. -/
theorem ofText?_grouped {t : MarkedText α} {d : Condition α} (h : ofText? t = some d) :
    ofText? (plain "(" ++ t ++ plain ") ") = some d.grouped := by
  rw [ofText?, read?_eq_some_iff] at h ⊢
  have ht : (plain "(" ++ t ++ plain ") " : MarkedText α) =
      [] ++ .char '(' :: (t ++ .char ')' :: plain " ") := by
    simp [plain]
  have hb : lexemesFrom ([] : MarkedText α) (plain " ") = [] := rfl
  rw [ht, lexemesFrom_append rfl, lexemesFrom_append rfl, ← h, hb, List.append_nil]
  rfl

/-- **`AND` between two texts takes hold of what stands next to it.** -/
theorem ofText?_and {t₁ t₂ : MarkedText α} {d₁ d₂ : Condition α} (h₁ : ofText? t₁ = some d₁)
    (h₂ : ofText? t₂ = some d₂) :
    ofText? (t₁ ++ plain " AND " ++ t₂) = some (d₁.andThen d₂) := by
  rw [ofText?, read?_eq_some_iff] at h₁ h₂ ⊢
  have ht : t₁ ++ plain " AND " ++ t₂ = t₁ ++ .char ' ' :: (plain "AND" ++ .char ' ' :: t₂) := by
    simp [plain]
  rw [lexemes_andThen, ht, lexemesFrom_append rfl, lexemesFrom_append rfl, ← h₁, ← h₂]
  simp [show lexemesFrom ([] : MarkedText α) (plain "AND") = [.and] from rfl]

example : ofText? ([.mark 1] ++ plain "or" ++ [.mark 2] : MarkedText Nat) = none := rfl

example : ofText? ([.mark 1] ++ plain " or " ++ [.mark 2] ++ plain " AND(" ++ [.mark 3] ++
    plain ")") = some ((atom 1).orElse ((atom 2).andThen (atom 3).grouped)) := rfl

/-! ## Texts with `AND` between them -/

/-- More texts with `AND` before them extend the condition that a text is. -/
theorem ofText?_foldl_behind_of_eq_some {ts : List (MarkedText α)} {t : MarkedText α}
    {d : Condition α} (ht : ofText? t = some d) (hts : ∀ t ∈ ts, (ofText? t).isSome) :
    ofText? (ts.foldl (behind " AND ") t) = some ((ts.filterMap ofText?).foldl andThen d) := by
  induction ts generalizing t d with
  | nil => exact ht
  | cons t' ts ih =>
    obtain ⟨d', ht'⟩ := Option.isSome_iff_exists.1 (hts t' List.mem_cons_self)
    rw [List.foldl_cons, List.filterMap_cons_some ht', List.foldl_cons]
    refine ih ?_ fun t ht => hts t (List.mem_cons_of_mem _ ht)
    rw [behind, if_neg fun he => ne_nil_of_ofText? ht (List.isEmpty_iff.1 he)]
    exact ofText?_and ht ht'

/-- Texts with `AND` between them are read as their conditions with `AND` between them. -/
theorem ofText?_foldl_behind {ts : List (MarkedText α)} (h : ∀ t ∈ ts, (ofText? t).isSome) :
    ofText? (ts.foldl (behind " AND ") []) = joined? (ts.filterMap ofText?) := by
  cases ts with
  | nil => rfl
  | cons t ts =>
    obtain ⟨d, hd⟩ := Option.isSome_iff_exists.1 (h t List.mem_cons_self)
    rw [List.filterMap_cons_some hd, joined?]
    exact ofText?_foldl_behind_of_eq_some hd fun t ht => h t (List.mem_cons_of_mem _ ht)

/-- Whether a text with atoms that hold or do not is accepted, if it can be read.
A text that is missing accepts everything. -/
def accepts? (σ : α → Bool) (t : MarkedText α) : Option Bool :=
  if t.isEmpty then some true else (ofText? t).map fun d => d.holds σ

theorem accepts?_foldl_behind {ts : List (MarkedText α)} (h : ∀ t ∈ ts, (ofText? t).isSome)
    (σ : α → Bool) : accepts? σ (ts.foldl (behind " AND ") []) =
      some ((joined? (ts.filterMap ofText?)).all fun d => d.holds σ) := by
  have ht := ofText?_foldl_behind h
  cases hj : joined? (ts.filterMap ofText?) with
  | none =>
    cases ts with
    | nil => rfl
    | cons t ts =>
      obtain ⟨d, hd⟩ := Option.isSome_iff_exists.1 (h t List.mem_cons_self)
      rw [List.filterMap_cons_some hd] at hj
      exact absurd hj (Option.some_ne_none _)
  | some d =>
    rw [hj] at ht
    rw [accepts?, ht, if_neg fun he => ne_nil_of_ofText? ht (List.isEmpty_iff.1 he)]
    rfl

end Condition
end ReportQuery
