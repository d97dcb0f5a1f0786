/-
# Filters as JSON

A filter is written as an object with the one member `restrictions`, an object
of lists of identifiers by dimension:

    {"restrictions":{"Partner":[1,2],"Site":[]}}

Reading accepts more: any member of another name, whose value is passed over; no
member `restrictions` at all, for the empty filter; a list of at most one
element in place of the outer object.  Of two lists for one dimension the later
replaces the earlier one, and an identifier may be named twice.  The member
`restrictions` itself may occur only once.

Main definitions: `Filter.ofJson`, with the fault of a text that is no filter,
and `Filter.json`.
-/

import ReportQuery.Filter.Basic
import ReportQuery.Json.Skip
import ReportQuery.Json.Write

namespace ReportQuery
namespace Json

/-! ## Values that are wanted to be of one kind -/

/-- The fault of a value that is not of the wanted kind.  A scalar is read to its
end, a list or an object is only looked at. -/
def wrongType (wanted : String) (cs : List Char) : Fault :=
  let word := fun (letters : List Char) (found : Found) (rest : List Char) =>
    match takeWord letters rest with
    | .error f => f
    | .ok rest => .before (.wrongType found wanted) rest
  match cs with
  | [] => .atNext .endInValue []
  | 'n' :: rest => word ['u', 'l', 'l'] .null rest
  | 't' :: rest => word ['r', 'u', 'e'] (.boolean true) rest
  | 'f' :: rest => word ['a', 'l', 's', 'e'] (.boolean false) rest
  | '"' :: rest =>
    match takeString rest with
    | .error f => f
    | .ok (s, rest) => .before (.wrongType (.string (String.ofList s)) wanted) rest
  | '[' :: _ => .before (.wrongType .list wanted) cs
  | '\x7b' :: _ => .before (.wrongType .object wanted) cs
  | c :: _ =>
    if startsNumber c then
      match takeSignedNumeral .endInValue cs with
      | .error f => f
      | .ok (n, rest) =>
        match n.number rest with
        | .error f => f
        | .ok x => .before (.wrongType x.found wanted) rest
    else .atNext .expectedValue cs

/-- What a list or an object has next: another element or member, or its end.
Either way the text that is left is given: an element's from its first
character, a member's from behind the quote of its key. -/
inductive Next where
  | more (rest : List Char)
  | done (rest : List Char)
deriving DecidableEq

/-- What a list has next, behind its bracket or an element. -/
def nextElement (first : Bool) (cs : List Char) : Except Fault Next :=
  match skipSpace cs with
  | [] => .error (.atNext .endInList [])
  | c :: rest =>
    if c = ']' then .ok (.done rest)
    else if first then .ok (.more (c :: rest))
    else if c = ',' then
      match skipSpace rest with
      | [] => .error (.atNext .endInValue [])
      | d :: rest =>
        if d = ']' then .error (.atNext .trailingComma (d :: rest)) else .ok (.more (d :: rest))
    else .error (.atNext .expectedListComma (c :: rest))

/-- What an object has next, behind its brace or a member. -/
def nextMember (first : Bool) (cs : List Char) : Except Fault Next :=
  match skipSpace cs with
  | [] => .error (.atNext .endInObject [])
  | c :: rest =>
    if c = '\x7d' then .ok (.done rest)
    else if first then
      if c = '"' then .ok (.more rest) else .error (.atNext .keyNotString (c :: rest))
    else if c = ',' then
      match skipSpace rest with
      | [] => .error (.atNext .endInValue [])
      | d :: rest =>
        if d = '"' then .ok (.more rest)
        else if d = '\x7d' then .error (.atNext .trailingComma (d :: rest))
        else .error (.atNext .keyNotString (d :: rest))
    else .error (.atNext .expectedObjectComma (c :: rest))

theorem length_le_of_nextElement {first : Bool} {cs rest : List Char}
    (h : nextElement first cs = .ok (.more rest)) : rest.length ≤ cs.length := by
  have h₁ := length_skipSpace_le cs
  have h₂ := length_skipSpace_le (skipSpace cs).tail
  unfold nextElement at h
  grind

theorem length_lt_of_nextElement_done {first : Bool} {cs rest : List Char}
    (h : nextElement first cs = .ok (.done rest)) : rest.length < cs.length := by
  have h₁ := length_skipSpace_le cs
  unfold nextElement at h
  grind

theorem length_lt_of_nextMember {first : Bool} {cs rest : List Char}
    (h : nextMember first cs = .ok (.more rest)) : rest.length < cs.length := by
  have h₁ := length_skipSpace_le cs
  have h₂ := length_skipSpace_le (skipSpace cs).tail
  unfold nextMember at h
  grind

theorem length_lt_of_nextMember_done {first : Bool} {cs rest : List Char}
    (h : nextMember first cs = .ok (.done rest)) : rest.length < cs.length := by
  have h₁ := length_skipSpace_le cs
  unfold nextMember at h
  grind

end Json

namespace Filter

open Json

/-! ## Reading -/

/-- Takes an identifier. -/
def takeId (cs : List Char) : Except Fault (Int32 × List Char) :=
  match skipSpace cs with
  | [] => .error (.atNext .endInValue [])
  | c :: rest =>
    if startsNumber c then
      match takeSignedNumeral .endInValue (c :: rest) with
      | .error f => .error f
      | .ok (n, rest) =>
        match n.number rest with
        | .error f => .error f
        | .ok (.real x) => .error (.before (.wrongType (.real x) "i32") rest)
        | .ok (.integer k) =>
          if -2147483648 ≤ k ∧ k ≤ 2147483647 then .ok (Int32.ofInt k, rest)
          else .error (.before (.wrongValue (.integer k) "i32") rest)
    else .error (wrongType "i32" (c :: rest))

theorem length_lt_of_takeId {cs rest : List Char} {id : Int32} (h : takeId cs = .ok (id, rest)) :
    rest.length < cs.length := by
  have h₁ := length_skipSpace_le cs
  unfold takeId at h
  split at h
  · simp at h
  · split at h
    · split at h
      · simp at h
      · rename_i hn
        have := length_lt_of_takeSignedNumeral hn
        split at h
        · simp at h
        · simp at h
        · split at h
          · simp only [Except.ok.injEq, Prod.mk.injEq] at h
            rw [← h.2]; grind
          · simp at h
    · simp at h

/-- Takes the identifiers of a list, from behind its bracket or an element. -/
def takeIds (first : Bool) (cs : List Char) : Except Fault (List Int32 × List Char) :=
  match hn : nextElement first cs with
  | .error f => .error f
  | .ok (.done rest) => .ok ([], rest)
  | .ok (.more rest) =>
    match hi : takeId rest with
    | .error f => .error f
    | .ok (id, rest') =>
      have := length_le_of_nextElement hn
      have := length_lt_of_takeId hi
      (takeIds false rest').map fun (ids, rest) => (id :: ids, rest)
termination_by cs.length
decreasing_by omega

/-- Takes a list of identifiers. -/
def takeIdList (cs : List Char) : Except Fault (List Int32 × List Char) :=
  match skipSpace cs with
  | '[' :: rest => takeIds true rest
  | cs => .error (wrongType "a sequence" cs)

theorem length_lt_of_takeIds {first : Bool} {cs rest : List Char} {ids : List Int32}
    (h : takeIds first cs = .ok (ids, rest)) : rest.length < cs.length := by
  fun_induction takeIds first cs generalizing ids with
  | case1 => simp at h
  | case2 first cs tail hn =>
    simp only [Except.ok.injEq, Prod.mk.injEq] at h
    rw [← h.2]; exact length_lt_of_nextElement_done hn
  | case3 => simp at h
  | case4 first cs tail hn id tail' hi h₁ h₂ ih =>
    cases ht : takeIds false tail' with
    | error f => simp [ht, Except.map] at h
    | ok p =>
      obtain ⟨ids', tail'⟩ := p
      simp only [ht, Except.map, Except.ok.injEq, Prod.mk.injEq] at h
      have := ih (h.2 ▸ ht)
      omega

theorem length_lt_of_takeIdList {cs rest : List Char} {ids : List Int32}
    (h : takeIdList cs = .ok (ids, rest)) : rest.length < cs.length := by
  have h₁ := length_skipSpace_le cs
  unfold takeIdList at h
  split at h
  · have := length_lt_of_takeIds h; grind
  · simp at h

/-- Takes a key and the colon after it, from behind the key's quote; the key has
to be the name of a dimension. -/
def takeDimension (cs : List Char) : Except Fault (Dimension × List Char) :=
  match takeString cs with
  | .error f => .error f
  | .ok (key, rest) =>
    match Dimension.ofName? (String.ofList key) with
    | none =>
      .error (.before (.unknownName (String.ofList key) (Dimension.all.map Dimension.name)) rest)
    | some d => (takeColon rest).map fun rest => (d, rest)

theorem length_lt_of_takeDimension {cs rest : List Char} {d : Dimension}
    (h : takeDimension cs = .ok (d, rest)) : rest.length < cs.length := by
  unfold takeDimension at h
  split at h
  · simp at h
  · rename_i key tail hk
    have h₁ := length_lt_of_takeString hk
    split at h
    · simp at h
    · cases hc : takeColon tail with
      | error f => simp [hc, Except.map] at h
      | ok t =>
        have := length_lt_of_takeColon hc
        simp only [hc, Except.map, Except.ok.injEq, Prod.mk.injEq] at h
        rw [← h.2]; omega

/-- Takes the entries of an object, from behind its brace or a member, and sets
them in a filter in the order in which they come. -/
def takeEntries (f : Filter) (first : Bool) (cs : List Char) : Except Fault (Filter × List Char) :=
  match hn : nextMember first cs with
  | .error e => .error e
  | .ok (.done rest) => .ok (f, rest)
  | .ok (.more rest) =>
    match hd : takeDimension rest with
    | .error e => .error e
    | .ok (d, rest') =>
      match hi : takeIdList rest' with
      | .error e => .error e
      | .ok (ids, rest'') =>
        have := length_lt_of_nextMember hn
        have := length_lt_of_takeDimension hd
        have := length_lt_of_takeIdList hi
        takeEntries (f.setEntry d (some (.ofList ids))) false rest''
termination_by cs.length
decreasing_by omega

theorem length_lt_of_takeEntries {f g : Filter} {first : Bool} {cs rest : List Char}
    (h : takeEntries f first cs = .ok (g, rest)) : rest.length < cs.length := by
  fun_induction takeEntries f first cs with
  | case1 => simp at h
  | case2 f first cs tail hn =>
    simp only [Except.ok.injEq, Prod.mk.injEq] at h
    rw [← h.2]; exact length_lt_of_nextMember_done hn
  | case3 => simp at h
  | case4 => simp at h
  | case5 => rename_i ih; have := ih h; omega

/-- Takes the entries of a filter. -/
def takeRestrictions (cs : List Char) : Except Fault (Filter × List Char) :=
  match skipSpace cs with
  | '\x7b' :: rest => takeEntries .empty true rest
  | cs => .error (wrongType "a map" cs)

theorem length_lt_of_takeRestrictions {f : Filter} {cs rest : List Char}
    (h : takeRestrictions cs = .ok (f, rest)) : rest.length < cs.length := by
  have h₁ := length_skipSpace_le cs
  unfold takeRestrictions at h
  split at h
  · have := length_lt_of_takeEntries h; grind
  · simp at h

/-- The member that holds the entries. -/
def memberName : String := "restrictions"

/-- The fault of a member `restrictions` that comes a second time: it is placed
before the next character that is not a space, or behind it if it ends the object. -/
def duplicateFault (rest : List Char) : Fault :=
  .before (.duplicateField memberName) <| match skipSpace rest with
    | '\x7d' :: rest => rest
    | cs => cs

/-- Takes the members of a filter, from behind the brace or a member. -/
def takeMembers (found : Option Filter) (first : Bool) (cs : List Char) :
    Except Fault (Filter × List Char) :=
  match hn : nextMember first cs with
  | .error e => .error e
  | .ok (.done rest) => .ok (found.getD .empty, rest)
  | .ok (.more rest) =>
    match hk : takeString rest with
    | .error e => .error e
    | .ok (key, rest₁) =>
      if key = memberName.toList then
        if found.isSome then .error (duplicateFault rest₁)
        else match hc : takeColon rest₁ with
          | .error e => .error e
          | .ok rest₂ =>
            match hr : takeRestrictions rest₂ with
            | .error e => .error e
            | .ok (f, rest₃) =>
              have := length_lt_of_nextMember hn
              have := length_lt_of_takeString hk
              have := length_lt_of_takeColon hc
              have := length_lt_of_takeRestrictions hr
              takeMembers (some f) false rest₃
      else match hc : takeColon rest₁ with
        | .error e => .error e
        | .ok rest₂ =>
          match hs : skipValue rest₂ with
          | .error e => .error e
          | .ok rest₃ =>
            have := length_lt_of_nextMember hn
            have := length_lt_of_takeString hk
            have := length_lt_of_takeColon hc
            have := length_le_of_skip hs
            takeMembers found false rest₃
termination_by cs.length
decreasing_by all_goals omega

/-- Takes the entries of a filter out of a list, from behind its bracket. -/
def takeElements (cs : List Char) : Except Fault (Filter × List Char) :=
  match nextElement true cs with
  | .error e => .error e
  | .ok (.done rest) => .ok (.empty, rest)
  | .ok (.more rest) =>
    match takeRestrictions rest with
    | .error e => .error e
    | .ok (f, rest) =>
      match skipSpace rest with
      | [] => .error (.atNext .endInList [])
      | ']' :: rest => .ok (f, rest)
      | ',' :: rest =>
        match skipSpace rest with
        | ']' :: rest => .error (.atNext .trailingComma (']' :: rest))
        | rest => .error (.atNext .trailingCharacters rest)
      | rest => .error (.atNext .trailingCharacters rest)

/-- Takes a filter. -/
def take (cs : List Char) : Except Fault (Filter × List Char) :=
  match skipSpace cs with
  | '\x7b' :: rest => takeMembers none true rest
  | '[' :: rest => takeElements rest
  | cs => .error (wrongType "struct Filter" cs)

/-- Reads a filter. -/
def ofJson (text : String) : Except Fault Filter :=
  match take text.toList with
  | .error e => .error e
  | .ok (f, rest) =>
    match skipSpace rest with
    | [] => .ok f
    | rest => .error (.atNext .trailingCharacters rest)

/-! ## Writing -/

/-- The JSON text of a set of identifiers. -/
def idsJson (ids : IdSet) : String := Json.list (ids.ids.map fun id => toString id.toInt)

/-- The JSON text of a filter, with every entry. -/
def json (f : Filter) : String :=
  Json.object [(memberName, Json.object (f.entries.map fun (d, ids) => (d.name, idsJson ids)))]

end Filter

end ReportQuery
