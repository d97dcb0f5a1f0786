/-
# Conditions

A condition is made of atoms with `AND`, `OR` and parentheses between them, and
`AND` binds tighter than `OR`.  What an atom is made of is not looked at.

| part | made of |
| --- | --- |
| condition | conjunctions with `OR` between them |
| conjunction | factors with `AND` between them |
| factor | an atom, or a condition in parentheses |

If `AND` is written between two conditions that are not put in parentheses, it
takes hold of what stands next to it only: the last conjunction of the first one
and the first conjunction of the second one become one (`Condition.andThen`).
What comes of it accepts whatever both accept (`holds_andThen`).  It is their
conjunction if neither has an `OR` outside of parentheses
(`holds_joined_of_isSingle`), and else it accepts too much
(`exists_holds_joined`).
-/

import Mathlib.Data.List.Basic

namespace ReportQuery

mutual

/-- Conjunctions with `OR` between them. -/
inductive Condition (α : Type) where
  | one (c : Conjunction α)
  | or (d : Condition α) (c : Conjunction α)

/-- Factors with `AND` between them. -/
inductive Conjunction (α : Type) where
  | one (f : Factor α)
  | and (c : Conjunction α) (f : Factor α)

/-- An atom, or a condition in parentheses. -/
inductive Factor (α : Type) where
  | atom (a : α)
  | group (d : Condition α)

end

variable {α : Type}

/-! ## What a condition means -/

mutual

/-- Whether a condition holds, if it is known which atoms do. -/
def Condition.holds (σ : α → Bool) : Condition α → Bool
  | .one c => c.holds σ
  | .or d c => d.holds σ || c.holds σ

/-- Whether all factors of a conjunction hold. -/
def Conjunction.holds (σ : α → Bool) : Conjunction α → Bool
  | .one f => f.holds σ
  | .and c f => c.holds σ && f.holds σ

/-- Whether a factor holds. -/
def Factor.holds (σ : α → Bool) : Factor α → Bool
  | .atom a => σ a
  | .group d => d.holds σ

end

mutual

/-- The atoms of a condition, from left to right. -/
def Condition.atoms : Condition α → List α
  | .one c => c.atoms
  | .or d c => d.atoms ++ c.atoms

/-- The atoms of a conjunction, from left to right. -/
def Conjunction.atoms : Conjunction α → List α
  | .one f => f.atoms
  | .and c f => c.atoms ++ f.atoms

/-- The atoms of a factor, from left to right. -/
def Factor.atoms : Factor α → List α
  | .atom a => [a]
  | .group d => d.atoms

end

mutual

/-- A condition whose atoms all say the same says so too. -/
theorem Condition.holds_eq_of_atoms {σ : α → Bool} {b : Bool} :
    ∀ d : Condition α, (∀ a ∈ d.atoms, σ a = b) → d.holds σ = b
  | .one c, h => c.holds_eq_of_atoms h
  | .or d c, h => by
    rw [Condition.holds, d.holds_eq_of_atoms fun a ha => h a (List.mem_append_left _ ha),
      c.holds_eq_of_atoms fun a ha => h a (List.mem_append_right _ ha), Bool.or_self]

theorem Conjunction.holds_eq_of_atoms {σ : α → Bool} {b : Bool} :
    ∀ c : Conjunction α, (∀ a ∈ c.atoms, σ a = b) → c.holds σ = b
  | .one f, h => f.holds_eq_of_atoms h
  | .and c f, h => by
    rw [Conjunction.holds, c.holds_eq_of_atoms fun a ha => h a (List.mem_append_left _ ha),
      f.holds_eq_of_atoms fun a ha => h a (List.mem_append_right _ ha), Bool.and_self]

theorem Factor.holds_eq_of_atoms {σ : α → Bool} {b : Bool} :
    ∀ f : Factor α, (∀ a ∈ f.atoms, σ a = b) → f.holds σ = b
  | .atom a, h => h a List.mem_cons_self
  | .group d, h => d.holds_eq_of_atoms h

end

/-! ## One condition behind another

`AND` between two texts takes hold of what stands next to it only: the last
conjunction of the first text and the first one of the second become one. -/

/-- The factors of two conjunctions, with `AND` between them. -/
def Conjunction.append (c : Conjunction α) : Conjunction α → Conjunction α
  | .one f => .and c f
  | .and c' f => .and (c.append c') f

namespace Condition

/-- A condition with `AND` and a conjunction behind it. -/
def extend : Condition α → Conjunction α → Condition α
  | .one c', c => .one (c'.append c)
  | .or d c', c => .or d (c'.append c)

/-- A condition with `AND` and another one behind it, without parentheses. -/
def andThen (d : Condition α) : Condition α → Condition α
  | .one c => d.extend c
  | .or e c => .or (d.andThen e) c

/-- A condition with `OR` and another one behind it. -/
def orElse (d : Condition α) : Condition α → Condition α
  | .one c => .or d c
  | .or e c => .or (d.orElse e) c

/-- Whether a condition has no `OR` outside of parentheses. -/
def isSingle : Condition α → Bool
  | .one _ => true
  | .or _ _ => false

/-- An atom as a condition. -/
def atom (a : α) : Condition α := .one (.one (.atom a))

/-- A condition in parentheses. -/
def grouped (d : Condition α) : Condition α := .one (.one (.group d))

end Condition

variable {σ : α → Bool}

theorem Conjunction.holds_append (c : Conjunction α) :
    ∀ c' : Conjunction α, (c.append c').holds σ = (c.holds σ && c'.holds σ)
  | .one f => rfl
  | .and c' f => by rw [append, holds, holds_append c c', holds, Bool.and_assoc]

theorem Conjunction.atoms_append (c : Conjunction α) :
    ∀ c' : Conjunction α, (c.append c').atoms = c.atoms ++ c'.atoms
  | .one f => rfl
  | .and c' f => by rw [append, atoms, atoms_append c c', atoms, List.append_assoc]

namespace Condition

theorem holds_extend {d : Condition α} {c : Conjunction α} (hd : d.holds σ = true)
    (hc : c.holds σ = true) : (d.extend c).holds σ = true := by
  cases d with
  | one c' =>
    rw [extend, holds, c'.holds_append, hc, Bool.and_true]
    exact hd
  | or d c' =>
    rw [extend, holds, c'.holds_append, hc, Bool.and_true]
    exact hd

theorem holds_andThen {d : Condition α} (hd : d.holds σ = true) :
    ∀ e : Condition α, e.holds σ = true → (d.andThen e).holds σ = true
  | .one c, he => holds_extend hd he
  | .or e c, he => by
    rw [andThen, holds, Bool.or_eq_true]
    rw [holds, Bool.or_eq_true] at he
    exact he.imp_left (holds_andThen hd e)

theorem holds_orElse (d : Condition α) :
    ∀ e : Condition α, (d.orElse e).holds σ = (d.holds σ || e.holds σ)
  | .one c => rfl
  | .or e c => by rw [orElse, holds, holds_orElse d e, holds, Bool.or_assoc]

theorem atoms_extend (d : Condition α) (c : Conjunction α) :
    (d.extend c).atoms = d.atoms ++ c.atoms := by
  cases d with
  | one c' => exact c'.atoms_append c
  | or d c' => rw [extend, atoms, c'.atoms_append, atoms, List.append_assoc]

theorem atoms_andThen (d : Condition α) :
    ∀ e : Condition α, (d.andThen e).atoms = d.atoms ++ e.atoms
  | .one c => d.atoms_extend c
  | .or e c => by rw [andThen, atoms, atoms_andThen d e, atoms, List.append_assoc]

/-- What stands behind an `OR` is extended without regard to what stands before it. -/
theorem orElse_extend (d e : Condition α) (c : Conjunction α) :
    (d.orElse e).extend c = d.orElse (e.extend c) := by
  cases e <;> rfl

theorem orElse_andThen (d e₁ : Condition α) :
    ∀ e₂ : Condition α, (d.orElse e₁).andThen e₂ = d.orElse (e₁.andThen e₂)
  | .one c => orElse_extend d e₁ c
  | .or e₂ c => by rw [andThen, orElse_andThen d e₁ e₂, andThen, orElse]

/-! ## Conditions with `AND` between them -/

theorem orElse_foldl_andThen (d e : Condition α) (ds : List (Condition α)) :
    ds.foldl andThen (d.orElse e) = d.orElse (ds.foldl andThen e) := by
  induction ds generalizing e with
  | nil => rfl
  | cons d' ds ih => rw [List.foldl_cons, orElse_andThen, ih, List.foldl_cons]

theorem atoms_foldl_andThen (d : Condition α) (ds : List (Condition α)) :
    (ds.foldl andThen d).atoms = d.atoms ++ ds.flatMap atoms := by
  induction ds generalizing d with
  | nil => simp
  | cons d' ds ih => rw [List.foldl_cons, ih, atoms_andThen, List.flatMap_cons, List.append_assoc]

/-- Some conditions with `AND` between them. -/
def joined? : List (Condition α) → Option (Condition α)
  | [] => none
  | d :: ds => some (ds.foldl andThen d)

theorem holds_foldl_andThen {d : Condition α} {ds : List (Condition α)} (hd : d.holds σ = true)
    (hds : ∀ e ∈ ds, e.holds σ = true) : (ds.foldl andThen d).holds σ = true := by
  induction ds generalizing d with
  | nil => exact hd
  | cons e ds ih =>
    rw [List.forall_mem_cons] at hds
    exact ih (holds_andThen hd e hds.1) hds.2

/-- What all conditions accept, is accepted when `AND` stands between them. -/
theorem holds_joined {ds : List (Condition α)} {e : Condition α} (h : joined? ds = some e)
    (hds : ∀ d ∈ ds, d.holds σ = true) : e.holds σ = true := by
  cases ds with
  | nil => exact nomatch h
  | cons d ds =>
    obtain rfl := Option.some.inj h
    rw [List.forall_mem_cons] at hds
    exact holds_foldl_andThen hds.1 hds.2

theorem holds_foldl_andThen_one (c : Conjunction α) {ds : List (Condition α)}
    (hds : ∀ d ∈ ds, d.isSingle = true) :
    (ds.foldl andThen (.one c)).holds σ = (c.holds σ && ds.all fun d => d.holds σ) := by
  induction ds generalizing c with
  | nil => exact (Bool.and_true _).symm
  | cons d ds ih =>
    rw [List.forall_mem_cons] at hds
    cases d with
    | one c' =>
      rw [List.foldl_cons, andThen, extend, ih _ hds.2, c.holds_append, List.all_cons,
        Bool.and_assoc]
      rfl
    | or d c' => exact nomatch hds.1

/-- `AND` between conditions without `OR` is their conjunction. -/
theorem holds_joined_of_isSingle {ds : List (Condition α)} {e : Condition α}
    (h : joined? ds = some e) (hds : ∀ d ∈ ds, d.isSingle = true) :
    e.holds σ = ds.all fun d => d.holds σ := by
  cases ds with
  | nil => exact nomatch h
  | cons d ds =>
    obtain rfl := Option.some.inj h
    rw [List.forall_mem_cons] at hds
    cases d with
    | one c => exact holds_foldl_andThen_one c hds.2
    | or d c => exact nomatch hds.1

/-- No atom of a condition occurs in the other one. -/
def Apart (d e : Condition α) : Prop := ∀ a ∈ d.atoms, a ∉ e.atoms

theorem Apart.symm {d e : Condition α} (h : d.Apart e) : e.Apart d :=
  fun a ha hd => h a hd ha

/-- The atoms that do not occur in a condition hold, and no others. -/
def outside [DecidableEq α] (d : Condition α) (a : α) : Bool := decide (a ∉ d.atoms)

theorem holds_outside_self [DecidableEq α] (d : Condition α) : d.holds d.outside = false :=
  d.holds_eq_of_atoms fun a ha => by simpa [outside] using ha

theorem Apart.holds_outside [DecidableEq α] {d e : Condition α} (h : d.Apart e) :
    d.holds e.outside = true :=
  d.holds_eq_of_atoms fun a ha => decide_eq_true (h a ha)

/-- An `OR` outside of parentheses divides the joined conditions into what stands
before it and what stands behind it. -/
theorem joined?_append_or (ds₁ : List (Condition α)) (d : Condition α) (c : Conjunction α)
    (ds₂ : List (Condition α)) :
    ∃ e₁ e₂ : Condition α, joined? (ds₁ ++ .or d c :: ds₂) = some (e₁.orElse e₂) ∧
      e₁.atoms = ds₁.flatMap atoms ++ d.atoms ∧ e₂.atoms = c.atoms ++ ds₂.flatMap atoms := by
  cases ds₁ with
  | nil =>
    refine ⟨d, ds₂.foldl andThen (.one c), ?_, rfl, atoms_foldl_andThen ..⟩
    exact congrArg some (orElse_foldl_andThen d (.one c) ds₂)
  | cons d₁ ds₁ =>
    refine ⟨(ds₁.foldl andThen d₁).andThen d, ds₂.foldl andThen (.one c), ?_, ?_,
      atoms_foldl_andThen ..⟩
    · rw [List.cons_append, joined?, List.foldl_append, List.foldl_cons, andThen,
        ← orElse_foldl_andThen, orElse]
    · rw [atoms_andThen, atoms_foldl_andThen, List.flatMap_cons]

/-- **An `OR` beside another condition lets through what that one rejects,** if
the conditions have no atoms in common. -/
theorem exists_holds_joined [DecidableEq α] {ds : List (Condition α)} {d : Condition α}
    (ha : ds.Pairwise Apart) (hd : d ∈ ds) (hs : d.isSingle = false) (hl : 1 < ds.length) :
    ∃ e, joined? ds = some e ∧ ∃ σ : α → Bool, e.holds σ = true ∧ ∃ d ∈ ds, d.holds σ = false := by
  obtain ⟨ds₁, ds₂, rfl⟩ := List.append_of_mem hd
  cases d with
  | one c => exact nomatch hs
  | or d c =>
    obtain ⟨h₁, h₂, h₁₂⟩ := List.pairwise_append.1 ha
    rw [List.pairwise_cons] at h₂
    obtain ⟨e₁, e₂, he, he₁, he₂⟩ := joined?_append_or ds₁ d c ds₂
    refine ⟨_, he, ?_⟩
    have hother : ∃ d', d' ∈ ds₁ ++ ds₂ := by
      refine List.length_pos_iff_exists_mem.1 ?_
      rw [List.length_append, List.length_cons] at hl
      rw [List.length_append]
      omega
    obtain ⟨d', hd'⟩ := hother
    -- the other condition is rejected, and what stands on the far side of the `OR` holds
    rcases List.mem_append.1 hd' with hd' | hd'
    · refine ⟨d'.outside, ?_, d', List.mem_append_left _ hd', d'.holds_outside_self⟩
      have hd₂ := h₁₂ d' hd'
      have hb : e₂.Apart d' := by
        intro a ha
        rw [he₂, List.mem_append] at ha
        rcases ha with ha | ha
        · exact (hd₂ _ List.mem_cons_self).symm a (List.mem_append_right _ ha)
        · obtain ⟨d'', hd'', ha⟩ := List.mem_flatMap.1 ha
          exact (hd₂ d'' (List.mem_cons_of_mem _ hd'')).symm a ha
      rw [holds_orElse, hb.holds_outside, Bool.or_true]
    · refine ⟨d'.outside, ?_, d', List.mem_append_right _ (List.mem_cons_of_mem _ hd'),
        d'.holds_outside_self⟩
      have hb : e₁.Apart d' := by
        intro a ha
        rw [he₁, List.mem_append] at ha
        rcases ha with ha | ha
        · obtain ⟨d'', hd'', ha⟩ := List.mem_flatMap.1 ha
          exact h₁₂ d'' hd'' d' (List.mem_cons_of_mem _ hd') a ha
        · exact h₂.1 d' hd' a (List.mem_append_left _ ha)
      rw [holds_orElse, hb.holds_outside, Bool.true_or]

end Condition
end ReportQuery
