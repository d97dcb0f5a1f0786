/-
# Statements cut at their quotes

A statement is cut at its single quotes into segments, which stand outside of
literals and inside of them in turn.  A quote that is written twice in a literal
has an empty segment outside of literals between its two halves:

    SELECT a FROM t WHERE b = 'it''s ?' AND c = ?

    place 0  SELECT a FROM t WHERE b =
    place 1  it
    place 2
    place 3  s ?
    place 4  AND c = ?

The placeholders of PostgreSQL can be told from the segments alone: those at odd
places stay, and in those at even places every `?` becomes `$` with its number
among the `?` of all segments at even places (`numberFrom_eq_rejoined`).  So a
second numbering finds nothing to number, a literal is left alone whatever quotes
it holds, and the numbers can be taken away again from a statement that had no
`$`, and no digit behind a `?`, outside of its literals
(`numberPlaceholders_by_segments`).
-/

import ReportQuery.Proofs.Query.Numbering

namespace ReportQuery
namespace Database

open MarkedText

/-! ## Segments -/

/-- What stands between the single quotes of a statement. -/
def segments (cs : List Char) : List (List Char) := cs.splitOn '\''

/-- Whether the segment at a place stands inside of a literal.  The flag says whether
the first one does. -/
def inLiteral (quoted : Bool) (place : Nat) : Bool := quoted ^^ place % 2 == 1

/-- Segments with quotes between them.  Those outside of literals are rewritten, by
their places. -/
def rejoined (quoted : Bool) (f : Nat → List Char → List Char) (segs : List (List Char)) :
    List Char :=
  ['\''].intercalate <| segs.mapIdx fun place seg =>
    if inLiteral quoted place then seg else f place seg

/-- The segments that stand outside of literals, one behind the other. -/
def outside (quoted : Bool) (segs : List (List Char)) : List Char :=
  (segs.mapIdx fun place seg => if inLiteral quoted place then [] else seg).flatten

/-- A segment with its `?` numbered, counting on from those that stand before it. -/
def numberedSegment (before : Nat) (seg : List Char) : List Char :=
  (seg.mapIdx fun i c =>
    if c = '?' then '$' :: (toString (before + (seg.take (i + 1)).count '?')).toList
    else [c]).flatten

/-- A segment with `?` in place of `$` and the digits behind it. -/
def unnumberedSegment (seg : List Char) : List Char :=
  (spell (fun _ => "?") (readNumbers false seg)).toList

/-- A segment that can be told from its numbered form: it has no `$`, and no digit
behind a `?`. -/
structure Restorable (seg : List Char) : Prop where
  dollar_not_mem : '$' ∉ seg
  chain : seg.IsChain fun c d => c = '?' → d.isDigit = false

instance (seg : List Char) : Decidable (Restorable seg) :=
  decidable_of_iff (_ ∧ _) ⟨fun h => ⟨h.1, h.2⟩, fun h => ⟨h.dollar_not_mem, h.chain⟩⟩

/-- A literal that holds some text, each quote of which is written twice. -/
def literal (v : List Char) : List Char :=
  '\'' :: (v.flatMap fun c => if c = '\'' then ['\'', '\''] else [c]) ++ ['\'']

theorem inLiteral_succ (quoted : Bool) (place : Nat) :
    inLiteral quoted (place + 1) = inLiteral (!quoted) place := by
  rcases Nat.mod_two_eq_zero_or_one place with h | h <;>
    simp [inLiteral, Nat.add_mod, h]

@[simp] theorem inLiteral_zero (quoted : Bool) : inLiteral quoted 0 = quoted := by
  simp [inLiteral]

@[simp] theorem outside_nil (quoted : Bool) : outside quoted [] = [] := rfl

theorem outside_cons (quoted : Bool) (seg : List Char) (segs : List (List Char)) :
    outside quoted (seg :: segs) =
      (if quoted then [] else seg) ++ outside (!quoted) segs := by
  simp [outside, List.mapIdx_cons, inLiteral_succ]

theorem rejoined_cons_cons (quoted : Bool) (f : Nat → List Char → List Char)
    (seg seg' : List Char) (segs : List (List Char)) :
    rejoined quoted f (seg :: seg' :: segs) = (if quoted then seg else f 0 seg) ++
      '\'' :: rejoined (!quoted) (fun place => f (place + 1)) (seg' :: segs) := by
  simp [rejoined, List.mapIdx_cons, List.intercalate_cons_cons, inLiteral_succ]

theorem quote_not_mem_segment {cs seg : List Char} (h : seg ∈ segments cs) : '\'' ∉ seg := by
  induction cs generalizing seg with
  | nil => simp_all [segments]
  | cons c cs ih =>
    obtain ⟨s, segs, hs⟩ := List.exists_cons_of_ne_nil (List.splitOn_ne_nil '\'' cs)
    rw [segments, List.splitOn_cons_eq_if_modifyHead, hs] at h
    rw [segments, hs] at ih
    by_cases hc : c = '\''
    · rw [if_pos (by simp [hc]), List.mem_cons] at h
      rcases h with rfl | h
      · exact List.not_mem_nil
      · exact ih h
    · rw [if_neg (by simp [hc]), List.modifyHead_cons, List.mem_cons] at h
      rcases h with rfl | h
      · rw [List.mem_cons, not_or]
        exact ⟨Ne.symm hc, ih List.mem_cons_self⟩
      · exact ih (List.mem_cons_of_mem _ h)

/-! ## Numbering a statement from its parts -/

/-- Whether a text ends inside of a literal.  The flag says whether it begins inside of one. -/
def endsQuoted (quoted : Bool) (cs : List Char) : Bool := quoted ^^ cs.count '\'' % 2 == 1

@[simp] theorem endsQuoted_nil (quoted : Bool) : endsQuoted quoted [] = quoted := by
  simp [endsQuoted]

theorem endsQuoted_cons (quoted : Bool) (c : Char) (cs : List Char) :
    endsQuoted quoted (c :: cs) = endsQuoted (quoted ^^ c = '\'') cs := by
  by_cases h : c = '\''
  · rcases Nat.mod_two_eq_zero_or_one (cs.count '\'') with hm | hm <;>
      simp [endsQuoted, h, Nat.add_mod, hm]
  · simp [endsQuoted, h]

theorem endsQuoted_append (quoted : Bool) (cs ds : List Char) :
    endsQuoted quoted (cs ++ ds) = endsQuoted (endsQuoted quoted cs) ds := by
  induction cs generalizing quoted with
  | nil => simp
  | cons c cs ih => rw [List.cons_append, endsQuoted_cons, endsQuoted_cons, ih]

theorem endsQuoted_of_not_mem {cs : List Char} (h : '\'' ∉ cs) (quoted : Bool) :
    endsQuoted quoted cs = quoted := by
  simp [endsQuoted, List.count_eq_zero_of_not_mem h]

/-- **A statement is numbered part by part.**  What the first part leaves behind is how
many placeholders it has and whether it ends inside of a literal. -/
theorem numberFrom_append (n : Nat) (quoted : Bool) (cs ds : List Char) :
    numberFrom n quoted (cs ++ ds) = numberFrom n quoted cs ++
      numberFrom (n + (unquoted quoted cs).count '?') (endsQuoted quoted cs) ds := by
  induction cs generalizing n quoted with
  | nil => simp [numberFrom, unquoted]
  | cons c cs ih =>
    rw [List.cons_append, numberFrom, numberFrom, unquoted, endsQuoted_cons]
    by_cases hc : c = '\''
    · simp [hc, ih]
    by_cases hm : c = '?'
    · cases quoted <;> simp [hm, ih, Nat.add_assoc, Nat.add_comm 1]
    · cases quoted <;> simp [hc, hm, ih]

/-- Without a `?` outside of literals there is nothing to number. -/
theorem numberFrom_eq_self {quoted : Bool} {cs : List Char} (h : '?' ∉ unquoted quoted cs)
    (n : Nat) : numberFrom n quoted cs = cs := by
  induction cs generalizing quoted with
  | nil => rfl
  | cons c cs ih =>
    rw [unquoted] at h
    rw [numberFrom]
    by_cases hc : c = '\''
    · rw [if_pos hc] at h ⊢
      rw [ih h]
    · rw [if_neg hc] at h ⊢
      cases quoted with
      | true => simp [ih h]
      | false =>
        rw [if_neg Bool.false_ne_true, List.mem_cons, not_or] at h
        rw [if_neg (by simp [Ne.symm h.1]), ih h.2]

theorem unquoted_of_not_mem {seg : List Char} (h : '\'' ∉ seg) (quoted : Bool) :
    unquoted quoted seg = if quoted then [] else seg := by
  induction seg with
  | nil => cases quoted <;> rfl
  | cons c seg ih =>
    rw [List.mem_cons, not_or] at h
    rw [unquoted, if_neg (Ne.symm h.1), ih h.2]
    cases quoted <;> rfl

theorem numberedSegment_cons (before : Nat) (c : Char) (seg : List Char) :
    numberedSegment before (c :: seg) =
      if c = '?' then '$' :: (toString (before + 1)).toList ++ numberedSegment (before + 1) seg
      else c :: numberedSegment before seg := by
  by_cases h : c = '?' <;>
    simp [numberedSegment, List.mapIdx_cons, h, Nat.add_assoc, Nat.add_comm 1]

/-- A segment outside of literals is numbered by the places of its `?`. -/
theorem numberFrom_false_of_not_mem {seg : List Char} (h : '\'' ∉ seg) (n : Nat) :
    numberFrom n false seg = numberedSegment n seg := by
  induction seg generalizing n with
  | nil => rfl
  | cons c seg ih =>
    rw [List.mem_cons, not_or] at h
    rw [numberFrom, if_neg (Ne.symm h.1), numberedSegment_cons]
    by_cases hm : c = '?'
    · simp [hm, placeholder, ih h.2]
    · simp [hm, ih h.2]

/-- A segment without quotes, as it is numbered outside of literals or inside. -/
theorem numberFrom_of_not_mem {seg : List Char} (h : '\'' ∉ seg) (n : Nat) (quoted : Bool) :
    numberFrom n quoted seg = if quoted then seg else numberedSegment n seg := by
  cases quoted with
  | true => exact numberFrom_eq_self (by simp [unquoted_of_not_mem h]) n
  | false => exact numberFrom_false_of_not_mem h n

/-- Segments are numbered by the `?` that stand outside of literals before them. -/
theorem numberFrom_intercalate {segs : List (List Char)} (h : ∀ seg ∈ segs, '\'' ∉ seg)
    (n : Nat) (quoted : Bool) :
    numberFrom n quoted (['\''].intercalate segs) =
      rejoined quoted
        (fun place => numberedSegment (n + (outside quoted (segs.take place)).count '?')) segs := by
  induction segs generalizing n quoted with
  | nil => rfl
  | cons seg segs ih =>
    obtain ⟨hseg, hsegs⟩ := List.forall_mem_cons.1 h
    cases segs with
    | nil => simp [rejoined, outside, numberFrom_of_not_mem hseg]
    | cons seg' segs =>
      rw [List.intercalate_cons_cons, List.append_assoc, numberFrom_append,
        numberFrom_of_not_mem hseg, endsQuoted_of_not_mem hseg, unquoted_of_not_mem hseg,
        List.singleton_append, numberFrom, if_pos rfl, ih hsegs, rejoined_cons_cons]
      simp [outside_cons, Nat.add_assoc]

/-- **A statement is numbered segment by segment.** -/
theorem numberFrom_eq_rejoined (cs : List Char) :
    numberFrom 0 false cs = rejoined false
      (fun place => numberedSegment ((outside false ((segments cs).take place)).count '?'))
      (segments cs) := by
  have hq : ∀ seg ∈ segments cs, '\'' ∉ seg := fun seg => quote_not_mem_segment
  have h := numberFrom_intercalate hq 0 false
  simpa [segments, List.intercalate_splitOn] using h

/-! ## Numbering once more, and literals -/

/-- No `?` is left outside of literals. -/
theorem questionMark_not_mem_unquoted_numberFrom (n : Nat) (quoted : Bool) (cs : List Char) :
    '?' ∉ unquoted quoted (numberFrom n quoted cs) := by
  induction cs generalizing n quoted with
  | nil => simp [numberFrom, unquoted]
  | cons c cs ih =>
    rw [numberFrom]
    by_cases hc : c = '\''
    · rw [if_pos hc, hc, unquoted, if_pos rfl]
      exact ih n (!quoted)
    rw [if_neg hc]
    by_cases hm : (c = '?' && !quoted) = true
    · obtain ⟨rfl, rfl⟩ : c = '?' ∧ quoted = false := by simpa using hm
      have hp : ∀ d, d.isDigit = false → d ≠ '$' → d ∉ (postgres.placeholder n).toList := by
        intro d hd hn
        rw [placeholder, String.toList_append, List.mem_append, not_or]
        exact ⟨fun h => hn (List.mem_singleton.1 h), not_mem_toString hd _⟩
      rw [if_pos hm, unquoted_append_of_not_mem (hp _ (by decide) (by decide)), List.mem_append,
        not_or]
      exact ⟨hp _ (by decide) (by decide), ih (n + 1) false⟩
    · rw [if_neg hm, unquoted, if_neg hc]
      cases quoted with
      | true => exact ih n true
      | false =>
        rw [if_neg Bool.false_ne_true, List.mem_cons, not_or]
        exact ⟨fun h => hm (by simp [← h]), ih n false⟩

theorem unquoted_literal (v : List Char) : unquoted false (literal v) = [] := by
  have h : ∀ v : List Char, unquoted true
      ((v.flatMap fun c => if c = '\'' then ['\'', '\''] else [c]) ++ ['\'']) = [] := by
    intro v
    induction v with
    | nil => rfl
    | cons c v ih => by_cases hc : c = '\'' <;> simp_all [unquoted]
  exact h v

theorem endsQuoted_literal (v : List Char) : endsQuoted false (literal v) = false := by
  have h : ∀ v : List Char, endsQuoted true
      ((v.flatMap fun c => if c = '\'' then ['\'', '\''] else [c]) ++ ['\'']) = false := by
    intro v
    induction v with
    | nil => rfl
    | cons c v ih => by_cases hc : c = '\'' <;> simp_all [endsQuoted_cons]
  exact (endsQuoted_cons false '\'' _).trans (h v)

/-- A literal stays as it is, and the text behind it is numbered as without it. -/
theorem numberFrom_literal {before : List Char} (h : before.count '\'' % 2 = 0)
    (v after : List Char) :
    numberFrom 0 false (before ++ literal v ++ after) = numberFrom 0 false before ++ literal v ++
      numberFrom ((unquoted false before).count '?') false after := by
  have hb : endsQuoted false before = false := by simp [endsQuoted, h]
  have hl : ∀ n, numberFrom n false (literal v) = literal v :=
    numberFrom_eq_self (by simp [unquoted_literal])
  rw [List.append_assoc, numberFrom_append, hb, numberFrom_append, hl, unquoted_literal,
    endsQuoted_literal, List.append_assoc]
  simp

/-! ## Taking the numbers away -/

theorem quote_not_mem_numberedSegment {seg : List Char} (h : '\'' ∉ seg) (n : Nat) :
    '\'' ∉ numberedSegment n seg := by
  induction seg generalizing n with
  | nil => exact h
  | cons c seg ih =>
    rw [List.mem_cons, not_or] at h
    rw [numberedSegment_cons]
    split
    · rw [List.cons_append, List.mem_cons, List.mem_append, not_or, not_or]
      exact ⟨by decide, not_mem_toString (by decide) _, ih h.2 (n + 1)⟩
    · rw [List.mem_cons, not_or]
      exact ⟨h.1, ih h.2 n⟩

theorem Restorable.tail {c : Char} {seg : List Char} (h : Restorable (c :: seg)) :
    Restorable seg :=
  ⟨fun hd => h.dollar_not_mem (List.mem_cons_of_mem _ hd), h.chain.tail⟩

/-- Behind a number stands a `$`, or what stands behind the `?`. -/
theorem Restorable.isDigit_head? {seg : List Char} (h : Restorable ('?' :: seg)) (n : Nat) :
    ∀ c ∈ (numberedSegment n seg).head?, c.isDigit = false := by
  cases seg with
  | nil => simp [numberedSegment]
  | cons d seg =>
    intro c hc
    rw [numberedSegment_cons] at hc
    split at hc
    · obtain rfl : '$' = c := by simpa using hc
      rfl
    · obtain rfl : d = c := by simpa using hc
      exact (List.isChain_cons_cons.1 h.chain).1 rfl

theorem unnumberedSegment_numberedSegment {seg : List Char} (hq : '\'' ∉ seg) (h : Restorable seg)
    (n : Nat) : unnumberedSegment (numberedSegment n seg) = seg := by
  induction seg generalizing n with
  | nil => simp [numberedSegment, unnumberedSegment, readNumbers]
  | cons c seg ih =>
    rw [List.mem_cons, not_or] at hq
    have ih := ih hq.2 h.tail
    simp only [unnumberedSegment] at ih ⊢
    rw [numberedSegment_cons]
    by_cases hc : c = '?'
    · subst hc
      have hw := takeWhile_append_of_head? (p := Char.isDigit)
        (fun c hc => isDigit_of_mem_toString (n := n + 1) hc) (h.isDigit_head? (n + 1))
      rw [if_pos rfl, List.cons_append, readNumbers, if_neg (by decide), if_pos, hw.2]
      · simp [ih]
      · refine ⟨rfl, rfl, ?_⟩
        rw [hw.1]
        exact toList_toString_ne_nil (n + 1)
    · have hd : c ≠ '$' := fun hd => h.dollar_not_mem (hd ▸ List.mem_cons_self)
      rw [if_neg hc, readNumbers, if_neg (Ne.symm hq.1), if_neg fun h => hd h.1]
      simp [ih]

/-- Rewriting the segments of rejoined segments rewrites the segments twice. -/
theorem rejoined_segments_rejoined {cs : List Char} {f g : Nat → List Char → List Char}
    (hf : ∀ place, ∀ seg ∈ segments cs, '\'' ∉ f place seg) :
    rejoined false g (segments (rejoined false f (segments cs))) =
      rejoined false (fun place seg => g place (f place seg)) (segments cs) := by
  rw [rejoined, rejoined, segments, List.splitOn_intercalate, rejoined, List.mapIdx_mapIdx]
  · congr 2
    funext place seg
    simp only [Function.comp_apply]
    cases inLiteral false place <;> rfl
  · intro seg hs
    obtain ⟨place, hp, rfl⟩ := List.mem_mapIdx.1 hs
    have hm : (segments cs)[place] ∈ segments cs := List.getElem_mem hp
    split
    · exact quote_not_mem_segment hm
    · exact hf place _ hm
  · simp [segments, List.splitOn_ne_nil]

/-- Segments that are not changed make up the statement that was cut. -/
theorem rejoined_segments {cs : List Char} {f : Nat → List Char → List Char}
    (h : ∀ place seg, (segments cs)[place]? = some seg → place % 2 = 0 → f place seg = seg) :
    rejoined false f (segments cs) = cs := by
  have hm : (segments cs).mapIdx (fun place seg => if inLiteral false place then seg
      else f place seg) = segments cs := by
    refine List.ext_getElem? fun place => ?_
    rw [List.getElem?_mapIdx]
    cases hs : (segments cs)[place]? with
    | none => rfl
    | some seg =>
      by_cases hp : place % 2 = 0
      · simp [inLiteral, hp, h place seg hs hp]
      · simp [inLiteral, Nat.mod_two_ne_zero.1 hp]
  rw [rejoined, hm, segments, List.intercalate_splitOn]

/-! ## The numbered statement -/

theorem toList_numberPlaceholders (sql : String) :
    (postgres.numberPlaceholders sql).toList = numberFrom 0 false sql.toList :=
  String.toList_ofList

/-- **A statement is numbered as its segments tell.**  Cut it at its quotes.  The
statement for PostgreSQL is made of the same segments with the same quotes between
them; those at odd places are unchanged, and in those at even places every `?` is
replaced by `$` with its number among the `?` of all segments at even places.

So numbering it again changes nothing.  A literal is unchanged whatever it holds,
quotes written twice included, and does not count for what stands behind it.  If no
segment at an even place has a `$`, or a digit behind a `?`, then writing `?` for
every `$` with digits in those segments gives the statement back.  For MySQL and
SQLite the statement stays as it is. -/
theorem numberPlaceholders_by_segments (sql : String) :
    (postgres.numberPlaceholders sql).toList = rejoined false
        (fun place => numberedSegment ((outside false ((segments sql.toList).take place)).count '?'))
        (segments sql.toList) ∧
      postgres.numberPlaceholders (postgres.numberPlaceholders sql) =
        postgres.numberPlaceholders sql ∧
      (∀ before v after, sql.toList = before ++ literal v ++ after → before.count '\'' % 2 = 0 →
        (postgres.numberPlaceholders sql).toList = numberFrom 0 false before ++ literal v ++
          numberFrom ((unquoted false before).count '?') false after) ∧
      ((∀ segment ∈ (segments sql.toList).zipIdx, segment.2 % 2 = 0 → Restorable segment.1) →
        rejoined false (fun _ => unnumberedSegment)
          (segments (postgres.numberPlaceholders sql).toList) = sql.toList) ∧
      mysql.numberPlaceholders sql = sql ∧ sqlite.numberPlaceholders sql = sql := by
  refine ⟨?_, ?_, fun before v after hs hb => ?_, fun h => ?_, rfl, rfl⟩
  · rw [toList_numberPlaceholders, numberFrom_eq_rejoined]
  · rw [← String.toList_inj, toList_numberPlaceholders, toList_numberPlaceholders]
    exact numberFrom_eq_self (questionMark_not_mem_unquoted_numberFrom 0 false _) 0
  · rw [toList_numberPlaceholders, hs, numberFrom_literal hb]
  · rw [toList_numberPlaceholders, numberFrom_eq_rejoined, rejoined_segments_rejoined]
    · refine rejoined_segments fun place seg hs hp => ?_
      refine unnumberedSegment_numberedSegment (quote_not_mem_segment (List.mem_of_getElem? hs)) ?_ _
      exact h (seg, place) (List.mem_zipIdx_iff_getElem?.2 (by simpa using hs)) hp
    · exact fun _ _ hs => quote_not_mem_numberedSegment (quote_not_mem_segment hs) _

/-- A statement with a `?` in a literal, between a placeholder and two others. -/
def rainySites : String :=
  "SELECT ? FROM Site WHERE Site.Note <> 'isn''t it ? 5$' AND Site.SiteId IN (?,?)"

theorem numberPlaceholders_by_segments_rainySites :
    let before := "SELECT ? FROM Site WHERE Site.Note <> ".toList
    let after := " AND Site.SiteId IN (?,?)".toList
    (∀ segment ∈ (segments rainySites.toList).zipIdx,
        segment.2 % 2 = 0 → Restorable segment.1) ∧
      rainySites.toList = before ++ literal "isn't it ? 5$".toList ++ after ∧
      before.count '\'' % 2 = 0 ∧
      postgres.numberPlaceholders rainySites =
        "SELECT $1 FROM Site WHERE Site.Note <> 'isn''t it ? 5$' AND Site.SiteId IN ($2,$3)" ∧
      (postgres.numberPlaceholders rainySites).toList =
        numberFrom 0 false before ++ literal "isn't it ? 5$".toList ++ numberFrom 1 false after ∧
      rejoined false (fun _ => unnumberedSegment)
        (segments (postgres.numberPlaceholders rainySites).toList) = rainySites.toList := by
  intro before after
  have hr : ∀ segment ∈ (segments rainySites.toList).zipIdx,
      segment.2 % 2 = 0 → Restorable segment.1 := by decide +kernel
  have hs : rainySites.toList = before ++ literal "isn't it ? 5$".toList ++ after := by
    decide +kernel
  have hb : before.count '\'' % 2 = 0 := by decide +kernel
  obtain ⟨-, -, hl, hrestored, -⟩ := numberPlaceholders_by_segments rainySites
  exact ⟨hr, hs, hb, by decide +kernel, hl _ _ _ hs hb, hrestored hr⟩

end Database
end ReportQuery
