/-
# What the readers of a filter make of a document

Each reader of a filter takes the values that are of its kind and refuses all others,
and which of the two it does hangs on the value alone.

| reader | takes |
| --- | --- |
| `takeEntries` | members whose keys are names of dimensions, with lists of identifiers |
| `takeRestrictions` | an object of such members |
| `takeMembers` | any members, of which at most one is named `restrictions` |

A member with a key that stands for nothing stops the reading, and so does a second
member `restrictions`; a member of another name leads on as if it were not there
(`leads_unknown`).
-/

import ReportQuery.Proofs.Filter.IdentifierList

namespace ReportQuery

theorem Dimension.ofName?_name (d : Dimension) : Dimension.ofName? d.name = some d := by
  cases d <;> decide

theorem Dimension.name_of_ofName? {s : String} {d : Dimension} (h : Dimension.ofName? s = some d) :
    d.name = s := by
  simpa using List.find?_some h

namespace Filter

open Json

/-! ## Entries that are set one after the other -/

/-- The filter with the entries of some lists, each in place of those before it. -/
def setEntries (f : Filter) (entries : List (Dimension × List Int32)) : Filter :=
  entries.foldl (fun f (d, ids) => f.setEntry d (some (.ofList ids))) f

section

variable {f : Filter} {d : Dimension} {ids : List Int32} {entries : List (Dimension × List Int32)}

@[simp] theorem setEntries_nil : f.setEntries [] = f := rfl

@[simp] theorem setEntries_cons :
    f.setEntries ((d, ids) :: entries) = (f.setEntry d (some (.ofList ids))).setEntries entries :=
  rfl

/-- A dimension that is not listed keeps its entry. -/
theorem entry_setEntries_of_not_mem (h : d ∉ entries.map Prod.fst) :
    (f.setEntries entries).entry d = f.entry d := by
  induction entries generalizing f with
  | nil => rfl
  | cons e entries ih =>
    obtain ⟨hd, h⟩ := not_or.1 (mt List.mem_cons.2 h)
    rw [setEntries_cons, ih h, entry_setEntry, if_neg hd]

/-- The last list of a dimension is what counts. -/
theorem entry_setEntries_last {before after : List (Dimension × List Int32)}
    (h : d ∉ after.map Prod.fst) :
    (f.setEntries (before ++ (d, ids) :: after)).entry d = some (.ofList ids) := by
  rw [setEntries, List.foldl_append]
  exact (entry_setEntries_of_not_mem h).trans (if_pos rfl)

theorem entry_setEntries_congr {g : Filter} (h : f.entry d = g.entry d) :
    (f.setEntries entries).entry d = (g.setEntries entries).entry d := by
  induction entries generalizing f g with
  | nil => exact h
  | cons e entries ih => exact ih (by rw [entry_setEntry, entry_setEntry, h])

/-- Another last list of a dimension changes its entry and no other one. -/
theorem setEntries_last {before after : List (Dimension × List Int32)}
    (h : d ∉ after.map Prod.fst) (ids' : List Int32) :
    f.setEntries (before ++ (d, ids') :: after) =
      (f.setEntries (before ++ (d, ids) :: after)).setEntry d (some (.ofList ids')) := by
  refine ext fun e => ?_
  rw [entry_setEntry]
  split
  · next he => rw [he, entry_setEntries_last h]
  · next he =>
    have happend : ∀ ids, f.setEntries (before ++ (d, ids) :: after) =
        ((f.setEntries before).setEntry d (some (.ofList ids))).setEntries after :=
      fun ids => List.foldl_append
    have hset : ∀ ids, ((f.setEntries before).setEntry d (some (.ofList ids))).entry e =
        (f.setEntries before).entry e := fun ids => if_neg he
    rw [happend, happend]
    exact entry_setEntries_congr ((hset ids').trans (hset ids).symm)

theorem isSome_entry_setEntries (h : d ∈ entries.map Prod.fst) :
    ((f.setEntries entries).entry d).isSome := by
  induction entries generalizing f with
  | nil => cases h
  | cons e entries ih =>
    rw [setEntries_cons]
    by_cases hd : d ∈ entries.map Prod.fst
    · exact ih hd
    · obtain rfl : d = e.1 := (List.mem_cons.1 h).resolve_right hd
      rw [entry_setEntries_of_not_mem hd, entry_setEntry, if_pos rfl]
      rfl

end

/-! ## What one step of a reader does -/

section

variable {first : Bool} {cs rest : List Char}

theorem takeEntries_of_done {f : Filter} (h : nextMember first cs = .ok (.done rest)) :
    takeEntries f first cs = .ok (f, rest) := by
  rw [takeEntries]
  split
  · next hn => cases h.symm.trans hn
  · next hn =>
    cases h.symm.trans hn
    rfl
  · next hn => cases h.symm.trans hn

theorem takeEntries_of_more {f : Filter} (h : nextMember first cs = .ok (.more rest)) :
    takeEntries f first cs = takeDimension rest >>= fun d => takeIdList d.2 >>= fun i =>
      takeEntries (f.setEntry d.1 (some (.ofList i.1))) false i.2 := by
  rw [takeEntries]
  split
  · next hn => cases h.symm.trans hn
  · next hn => cases h.symm.trans hn
  · next hn =>
    cases h.symm.trans hn
    split
    · next hd => simp only [bind, Except.bind, hd]
    · next hd =>
      split <;> next hi => simp only [bind, Except.bind, hd, hi]

theorem takeMembers_of_done {found : Option Filter} (h : nextMember first cs = .ok (.done rest)) :
    takeMembers found first cs = .ok (found.getD .empty, rest) := by
  rw [takeMembers]
  split
  · next hn => cases h.symm.trans hn
  · next hn =>
    cases h.symm.trans hn
    rfl
  · next hn => cases h.symm.trans hn

theorem takeMembers_of_more {found : Option Filter} (h : nextMember first cs = .ok (.more rest)) :
    takeMembers found first cs = takeString rest >>= fun k =>
      if k.1 = memberName.toList then
        if found.isSome then .error (duplicateFault k.2)
        else takeColon k.2 >>= takeRestrictions >>= fun r => takeMembers (some r.1) false r.2
      else takeColon k.2 >>= skipValue >>= takeMembers found false := by
  rw [takeMembers]
  split
  · next hn => cases h.symm.trans hn
  · next hn => cases h.symm.trans hn
  · next hn =>
    cases h.symm.trans hn
    split
    · next hk => simp only [bind, Except.bind, hk]
    next key rest₁ hk =>
    by_cases hname : key = memberName.toList
    · simp only [bind, Except.bind, hk, hname, if_true]
      split
      · rfl
      split
      · next hc => simp only [hc]
      · next hc => split <;> next hr => simp only [hc, hr]
    · simp only [bind, Except.bind, hk, hname, if_false]
      split
      · next hc => simp only [hc]
      · next hc => split <;> next hs => simp only [hc, hs]

end

/-! ## Entries -/

section

variable {key : String} {value : List String} {d : Dimension}

/-- What a member of the entries lists. -/
def Lists (m : String × List String) (e : Dimension × List Int32) : Prop :=
  Denotes m.1 e.1.name.toList ∧ Accepts takeIdList m.2 e.2

theorem takeDimension_of_denotes {cs rest : List Char}
    (hk : takeString cs = .ok (d.name.toList, rest)) :
    takeDimension cs = (takeColon rest).map fun rest => (d, rest) := by
  rw [takeDimension, hk]
  simp only [String.ofList_toList, Dimension.ofName?_name]

/-- A member that lists identifiers sets the entry of its dimension. -/
theorem leads_entry {ids : List Int32} (h : Lists (key, value) (d, ids)) (f : Filter) :
    Leads takeEntries f [(key, value)] (f.setEntry d (some (.ofList ids))) := by
  intro first more cs hmore hcs
  obtain ⟨text, rest, text₁, hn, hk, hc, ht₁⟩ := spells_member h.1 hcs
  obtain ⟨text₂, hi, ht₂⟩ := h.2 more text₁ hmore ht₁
  refine ⟨text₂, ?_, ht₂⟩
  rw [takeEntries_of_more hn, takeDimension_of_denotes hk, hc]
  simp only [bind, Except.bind, Except.map, hi]
  simp

theorem stops_entry_of_value (hk : Denotes key d.name.toList) (h : Refuses takeIdList value)
    (f : Filter) : Stops takeEntries f [(key, value)] := by
  intro first more cs hmore hcs
  obtain ⟨text, rest, text₁, hn, hk, hc, ht₁⟩ := spells_member hk hcs
  obtain ⟨fault, hf⟩ := h more text₁ hmore ht₁
  refine ⟨fault, ?_⟩
  rw [takeEntries_of_more hn, takeDimension_of_denotes hk, hc]
  simp only [bind, Except.bind, Except.map, hf]

theorem stops_entry_of_key (hk : IsString key) (h : ∀ d : Dimension, ¬ Denotes key d.name.toList)
    (f : Filter) : Stops takeEntries f [(key, value)] := by
  intro first more cs hmore hcs
  rw [separated_member] at hcs
  obtain ⟨tail, hl⟩ := hk.exists_cons
  obtain ⟨rest, hn, hr⟩ := hcs.nextMember_key hl
  have hfault : ∃ fault, takeDimension (tail ++ rest) = .error fault := by
    rw [takeDimension]
    rcases hk.denotes_or_refused hl with ⟨s, hs⟩ | hrefused
    · have hnone : Dimension.ofName? (String.ofList s) = none := by
        refine Option.eq_none_iff_forall_ne_some.2 fun d hd => h d ?_
        rw [Dimension.name_of_ofName? hd, String.toList_ofList]
        exact hs
      rw [hs.takeString hl]
      simp only [hnone]
      exact ⟨_, rfl⟩
    · obtain ⟨fault, hf⟩ := hrefused rest
      rw [hf]
      exact ⟨_, rfl⟩
  obtain ⟨fault, hf⟩ := hfault
  exact ⟨fault, by rw [takeEntries_of_more hn, hf]; rfl⟩

end

section

variable {members : List (String × List String)} {entries : List (Dimension × List Int32)}

theorem quoted_of_lists (h : List.Forall₂ Lists members entries) : Quoted members := by
  induction h with
  | nil => exact fun _ h => absurd h List.not_mem_nil
  | cons h _ ih => exact quoted_cons.2 ⟨h.1.exists_cons, ih⟩

/-- The lists of an object are set one after the other. -/
theorem leads_entries (h : List.Forall₂ Lists members entries) (f : Filter) :
    Leads takeEntries f members (f.setEntries entries) := by
  induction h generalizing f with
  | nil => exact .nil f
  | cons hm hms ih => exact (leads_entry hm f).append (ih _) (quoted_of_lists hms)

/-- Some members of an object are taken as lists, or one of them stops the reading. -/
theorem entries_of_wellFormed (h : WellFormed members) :
    (∃ entries, List.Forall₂ Lists members entries) ∨ ∀ f, Stops takeEntries f members := by
  induction members with
  | nil => exact .inl ⟨[], .nil⟩
  | cons m members ih =>
    obtain ⟨⟨hk, hv⟩, htail⟩ := wellFormed_cons.1 h
    have hq := htail.quoted
    by_cases hkey : ∃ d : Dimension, Denotes m.1 d.name.toList
    · obtain ⟨d, hd⟩ := hkey
      rcases takeIdList_of_isValue hv with ⟨ids, hids⟩ | hrefused
      · have hm : Lists m (d, ids) := ⟨hd, hids⟩
        rcases ih htail with ⟨entries, he⟩ | hstops
        · exact .inl ⟨(d, ids) :: entries, .cons hm he⟩
        · exact .inr fun f => (leads_entry hm f).stops (hstops _) hq
      · exact .inr fun f => (stops_entry_of_value hd hrefused f).append hq
    · exact .inr fun f => (stops_entry_of_key hk (fun d hd => hkey ⟨d, hd⟩) f).append hq

/-! ## The object of the entries -/

theorem spells_object {members : List (List String)} {more : List String} {cs : List Char}
    (h : Spells (objectLexemes members ++ more) cs) :
    ∃ text, skipSpace cs = '\x7b' :: text ∧
      Spells (separated true members ++ "\x7d" :: more) text := by
  rw [objectLexemes, List.cons_append, List.append_assoc] at h
  exact h.skipSpace_punctuation rfl rfl

theorem closing_brace (more : List String) : Closing ("\x7d" :: more) :=
  closing_cons (c := '\x7d') rfl (by decide) more

theorem accepts_takeRestrictions {f : Filter} (h : Leads takeEntries .empty members f) :
    Accepts takeRestrictions (objectLexemes (members.map keyed)) f := by
  intro more cs hmore hcs
  obtain ⟨text, hs, ht⟩ := spells_object hcs
  obtain ⟨text₁, he, ht₁⟩ := h true _ text (closing_brace more) ht
  obtain ⟨text₂, hd, ht₂⟩ := ht₁.nextMember_done (true && members.isEmpty)
  refine ⟨text₂, ?_, ht₂⟩
  rw [takeRestrictions, hs]
  exact he.trans (takeEntries_of_done hd)

theorem refuses_takeRestrictions (h : Stops takeEntries .empty members) :
    Refuses takeRestrictions (objectLexemes (members.map keyed)) := by
  intro more cs hmore hcs
  obtain ⟨text, hs, ht⟩ := spells_object hcs
  rw [takeRestrictions, hs]
  exact h true _ text (closing_brace more) ht

theorem refuses_takeRestrictions_of_ne {l : String} {more : List String} {c : Char}
    {tail : List Char} (hl : l.toList = c :: tail) (hc : isSpace c = false) (hne : c ≠ '\x7b') :
    Refuses takeRestrictions (l :: more) := by
  intro more' cs _ hcs
  obtain ⟨text, hs, -⟩ := Spells.skipSpace_cons hcs hl hc
  refine ⟨wrongType "a map" (c :: (tail ++ text)), ?_⟩
  rw [takeRestrictions, hs]
  split
  · next h => exact absurd (List.cons.inj h).1 hne
  · rfl

/-- **An object of lists by dimension is taken, and any other value is refused.** -/
theorem takeRestrictions_of_isValue {value : List String} (h : IsValue value) :
    (∃ f, Accepts takeRestrictions value f) ∨ Refuses takeRestrictions value := by
  cases h with
  | scalar h =>
    obtain ⟨c, tail, hl, hc, -, -, hne⟩ := h.exists_cons
    exact .inr (refuses_takeRestrictions_of_ne hl hc hne)
  | list => exact .inr (refuses_takeRestrictions_of_ne (c := '[') rfl rfl (by decide))
  | object hk hv =>
    rcases entries_of_wellFormed fun m hm => ⟨hk m hm, hv m hm⟩ with ⟨entries, he⟩ | hstops
    · exact .inl ⟨_, accepts_takeRestrictions (leads_entries he .empty)⟩
    · exact .inr (refuses_takeRestrictions (hstops .empty))

end

/-! ## The members of a filter -/

section

variable {key : String} {value : List String} {found : Option Filter}

/-- **A member of another name leads on as if it were not there**, whatever its value is. -/
theorem leads_unknown {s : List Char} (hk : Denotes key s) (hs : s ≠ memberName.toList)
    (hv : IsValue value) (found : Option Filter) :
    Leads takeMembers found [(key, value)] found := by
  intro first more cs hmore hcs
  obtain ⟨text, rest, text₁, hn, hk, hc, ht₁⟩ := spells_member hk hcs
  obtain ⟨text₂, hskip, ht₂⟩ := hv.skipValue hmore ht₁
  refine ⟨text₂, ?_, ht₂⟩
  rw [takeMembers_of_more hn, hk]
  simp only [bind, Except.bind, hs, if_false, hc, hskip]
  simp

theorem leads_restrictions {f : Filter} (hk : Denotes key memberName.toList)
    (h : Accepts takeRestrictions value f) :
    Leads takeMembers none [(key, value)] (some f) := by
  intro first more cs hmore hcs
  obtain ⟨text, rest, text₁, hn, hk, hc, ht₁⟩ := spells_member hk hcs
  obtain ⟨text₂, hf, ht₂⟩ := h more text₁ hmore ht₁
  refine ⟨text₂, ?_, ht₂⟩
  rw [takeMembers_of_more hn, hk]
  simp only [bind, Except.bind, if_true, Option.isSome_none, Bool.false_eq_true, if_false, hc, hf]
  simp

theorem stops_restrictions (hk : Denotes key memberName.toList)
    (h : found.isSome ∨ Refuses takeRestrictions value) :
    Stops takeMembers found [(key, value)] := by
  intro first more cs hmore hcs
  obtain ⟨text, rest, text₁, hn, hk, hc, ht₁⟩ := spells_member hk hcs
  rw [takeMembers_of_more hn, hk]
  simp only [bind, Except.bind, if_true, hc]
  by_cases hfound : found.isSome
  · rw [if_pos hfound]
    exact ⟨_, rfl⟩
  · obtain ⟨fault, hf⟩ := h.resolve_left hfound more text₁ hmore ht₁
    rw [if_neg hfound, hf]
    exact ⟨_, rfl⟩

theorem stops_member_of_key (hk : IsString key) (h : ∀ s, ¬ Denotes key s)
    (found : Option Filter) : Stops takeMembers found [(key, value)] := by
  intro first more cs hmore hcs
  rw [separated_member] at hcs
  obtain ⟨tail, hl⟩ := hk.exists_cons
  obtain ⟨rest, hn, hr⟩ := hcs.nextMember_key hl
  obtain ⟨fault, hf⟩ := (hk.denotes_or_refused hl).resolve_left (fun ⟨s, hs⟩ => h s hs) rest
  exact ⟨fault, by rw [takeMembers_of_more hn, hf]; rfl⟩

end

section

variable {members : List (String × List String)}

/-- Members of which none is named `restrictions`, nor nothing. -/
def Foreign (members : List (String × List String)) : Prop :=
  ∀ m ∈ members, ∃ s, Denotes m.1 s ∧ s ≠ memberName.toList

theorem foreign_cons {m : String × List String} :
    Foreign (m :: members) ↔ (∃ s, Denotes m.1 s ∧ s ≠ memberName.toList) ∧ Foreign members :=
  List.forall_mem_cons

/-- A key stands for nothing, for `restrictions`, or for another name. -/
theorem name_cases (key : String) : (∀ s, ¬ Denotes key s) ∨ Denotes key memberName.toList ∨
    ∃ s, Denotes key s ∧ s ≠ memberName.toList := by
  by_cases hkey : ∃ s, Denotes key s
  · obtain ⟨s, hs⟩ := hkey
    by_cases hname : s = memberName.toList
    · exact .inr (.inl (hname ▸ hs))
    · exact .inr (.inr ⟨s, hs, hname⟩)
  · exact .inl fun s hs => hkey ⟨s, hs⟩

theorem leads_foreign (hw : WellFormed members) (h : Foreign members) (found : Option Filter) :
    Leads takeMembers found members found := by
  induction members with
  | nil => exact .nil found
  | cons m members ih =>
    obtain ⟨⟨s, hs, hne⟩, h⟩ := foreign_cons.1 h
    obtain ⟨⟨-, hv⟩, hw⟩ := wellFormed_cons.1 hw
    exact (leads_unknown hs hne hv found).append (ih hw h) hw.quoted

/-- Some members lead a reader on, or they stop it. -/
theorem members_of_wellFormed (h : WellFormed members) (found : Option Filter) :
    (∃ found', Leads takeMembers found members found') ∨ Stops takeMembers found members := by
  induction members generalizing found with
  | nil => exact .inl ⟨found, .nil found⟩
  | cons m members ih =>
    obtain ⟨⟨hk, hv⟩, htail⟩ := wellFormed_cons.1 h
    have hone : (∃ found', Leads takeMembers found [m] found') ∨ Stops takeMembers found [m] := by
      rcases name_cases m.1 with hnothing | hname | ⟨s, hs, hne⟩
      · exact .inr (stops_member_of_key hk hnothing found)
      · rcases takeRestrictions_of_isValue hv with ⟨f, hf⟩ | hrefused
        · cases found with
          | none => exact .inl ⟨some f, leads_restrictions hname hf⟩
          | some g => exact .inr (stops_restrictions hname (.inl rfl))
        · exact .inr (stops_restrictions hname (.inr hrefused))
      · exact .inl ⟨found, leads_unknown hs hne hv found⟩
    rcases hone with ⟨found₁, h₁⟩ | hstops
    · rcases ih htail found₁ with ⟨found₂, h₂⟩ | hstops
      · exact .inl ⟨found₂, h₁.append h₂ htail.quoted⟩
      · exact .inr (h₁.stops hstops htail.quoted)
    · exact .inr (hstops.append htail.quoted)

/-! ## The document -/

variable {text : String}

theorem ofJson_of_leads {found : Option Filter} (h : Leads takeMembers none members found)
    (hs : Spells (objectLexemes (members.map keyed)) text.toList) :
    ofJson text = .ok (found.getD .empty) := by
  rw [← List.append_nil (objectLexemes _)] at hs
  obtain ⟨text₁, hs₁, ht₁⟩ := spells_object hs
  obtain ⟨text₂, hm, ht₂⟩ := h true _ text₁ (closing_brace []) ht₁
  obtain ⟨text₃, hd, ht₃⟩ := ht₂.nextMember_done (true && members.isEmpty)
  have ht : take text.toList = .ok (found.getD .empty, text₃) := by
    rw [take, hs₁]
    exact hm.trans (takeMembers_of_done hd)
  rw [ofJson, ht]
  simp only [ht₃.skipSpace_nil]

theorem ofJson_of_stops (h : Stops takeMembers none members)
    (hs : Spells (objectLexemes (members.map keyed)) text.toList) :
    ∃ fault, ofJson text = .error fault := by
  rw [← List.append_nil (objectLexemes _)] at hs
  obtain ⟨text₁, hs₁, ht₁⟩ := spells_object hs
  obtain ⟨fault, hf⟩ := h true _ text₁ (closing_brace []) ht₁
  have ht : take text.toList = .error fault := by
    rw [take, hs₁]
    exact hf
  exact ⟨fault, by rw [ofJson, ht]⟩

end

end Filter
end ReportQuery
