/-
# What readers make of lexemes

A reader takes some lexemes as a value, or it refuses them; neither hangs on the
spaces between the lexemes, nor on what is behind them as long as no number can go on
with that.

| | |
| --- | --- |
| `Accepts read lexemes a` | the lexemes are taken as `a`, and exactly they are taken |
| `Refuses read lexemes` | there is a fault |

A reader of an object takes its members one after the other, with what it knows so
far.  Some members lead it from one state to another, wherever they stand in the
object (`Leads`), or stop it with a fault (`Stops`); so what it makes of all the
members is put together from what it makes of each (`Leads.append`, `Leads.stops`).
-/

import ReportQuery.Proofs.Json.Value

namespace ReportQuery
namespace Json

section

variable {α : Type} {σ : Type}

/-- Some lexemes are taken as a value, whatever the spaces and whatever is behind. -/
def Accepts (read : List Char → Except Fault (α × List Char)) (lexemes : List String) (a : α) :
    Prop :=
  ∀ more cs, Closing more → Spells (lexemes ++ more) cs →
    ∃ text, read cs = .ok (a, text) ∧ Spells more text

/-- Some lexemes are refused, whatever the spaces and whatever is behind. -/
def Refuses (read : List Char → Except Fault (α × List Char)) (lexemes : List String) : Prop :=
  ∀ more cs, Closing more → Spells (lexemes ++ more) cs → ∃ fault, read cs = .error fault

/-! ## Members -/

/-- Some members lead a reader of an object from one state to another. -/
def Leads (take : σ → Bool → List Char → Except Fault (α × List Char)) (s : σ)
    (members : List (String × List String)) (s' : σ) : Prop :=
  ∀ first more cs, Closing more → Spells (separated first (members.map keyed) ++ more) cs →
    ∃ text, take s first cs = take s' (first && members.isEmpty) text ∧ Spells more text

/-- Some members stop a reader of an object. -/
def Stops (take : σ → Bool → List Char → Except Fault (α × List Char)) (s : σ)
    (members : List (String × List String)) : Prop :=
  ∀ first more cs, Closing more → Spells (separated first (members.map keyed) ++ more) cs →
    ∃ fault, take s first cs = .error fault

/-- Keys that begin with a quote, as all strings do. -/
def Quoted (members : List (String × List String)) : Prop :=
  ∀ m ∈ members, ∃ tail, m.1.toList = '"' :: tail

theorem quoted_cons {m : String × List String} {members : List (String × List String)} :
    Quoted (m :: members) ↔ (∃ tail, m.1.toList = '"' :: tail) ∧ Quoted members :=
  List.forall_mem_cons

theorem WellFormed.quoted {members : List (String × List String)} (h : WellFormed members) :
    Quoted members := fun m hm => (h m hm).1.exists_cons

theorem separated_append (first : Bool) (values values' : List (List String)) :
    separated first (values ++ values') =
      separated first values ++ separated (first && values.isEmpty) values' := by
  induction values generalizing first with
  | nil => simp [separated]
  | cons value values ih => simp [separated, ih]

theorem separated_member (first : Bool) (m : String × List String) (more : List String) :
    separated first ([m].map keyed) ++ more = lead first ++ m.1 :: ":" :: (m.2 ++ more) := by
  simp [separated, keyed]

/-- A member is taken from its comma to its value. -/
theorem spells_member {first : Bool} {key : String} {value more : List String} {s cs : List Char}
    (hk : Denotes key s) (h : Spells (separated first ([(key, value)].map keyed) ++ more) cs) :
    ∃ text rest text', nextMember first cs = .ok (.more text) ∧
      takeString text = .ok (s, rest) ∧ takeColon rest = .ok text' ∧
      Spells (value ++ more) text' := by
  rw [separated_member] at h
  obtain ⟨text, rest, hn, hs, hr⟩ := h.nextMember_more hk
  obtain ⟨text', hc, ht⟩ := hr.takeColon
  exact ⟨text, rest, text', hn, hs, hc, ht⟩

/-- Behind a value come a comma, a key, or what is behind all the members. -/
theorem closing_members {members : List (String × List String)} (hq : Quoted members)
    {more : List String} (hmore : Closing more) (first : Bool) :
    Closing (separated first (members.map keyed) ++ more) := by
  cases members with
  | nil => exact hmore
  | cons m members =>
    cases first with
    | true =>
      obtain ⟨tail, hl⟩ := hq m List.mem_cons_self
      exact closing_cons hl (by decide) _
    | false => exact closing_cons (c := ',') rfl (by decide) _

variable {take : σ → Bool → List Char → Except Fault (α × List Char)} {s s' s'' : σ}
  {members members' : List (String × List String)}

theorem Leads.nil (s : σ) : Leads take s [] s :=
  fun first _ cs _ hcs => ⟨cs, by simp, hcs⟩

theorem spells_members_append {first : Bool} {more : List String} {cs : List Char}
    (h : Spells (separated first ((members ++ members').map keyed) ++ more) cs) :
    Spells (separated first (members.map keyed) ++
      (separated (first && members.isEmpty) (members'.map keyed) ++ more)) cs := by
  rwa [List.map_append, separated_append, List.append_assoc, List.isEmpty_map] at h

theorem Leads.append (h : Leads take s members s') (h' : Leads take s' members' s'')
    (hq : Quoted members') : Leads take s (members ++ members') s'' := by
  intro first more cs hmore hcs
  obtain ⟨text, ht, hs⟩ := h first _ cs (closing_members hq hmore _) (spells_members_append hcs)
  obtain ⟨text', ht', hs'⟩ := h' _ more text hmore hs
  have hempty : (members ++ members').isEmpty = (members.isEmpty && members'.isEmpty) := by
    cases members <;> rfl
  exact ⟨text', by rw [ht, ht', hempty, Bool.and_assoc], hs'⟩

theorem Leads.stops (h : Leads take s members s') (h' : Stops take s' members')
    (hq : Quoted members') : Stops take s (members ++ members') := by
  intro first more cs hmore hcs
  obtain ⟨text, ht, hs⟩ := h first _ cs (closing_members hq hmore _) (spells_members_append hcs)
  obtain ⟨fault, hf⟩ := h' _ more text hmore hs
  exact ⟨fault, ht.trans hf⟩

theorem Stops.append (h : Stops take s members) (hq : Quoted members') :
    Stops take s (members ++ members') := fun first _ cs hmore hcs =>
  h first _ cs (closing_members hq hmore _) (spells_members_append hcs)

end

end Json
end ReportQuery
