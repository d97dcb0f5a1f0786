/-
# Names in double quotes

A name in double quotes may hold any characters but a double quote, among them
apostrophes and question marks.  Numbering the placeholders of a statement knows
of single quotes only, so it takes an apostrophe in a name for the beginning or
the end of a literal, and a `?` in a name for a placeholder:

    SELECT p.Name AS "Partner's name" FROM Partner p WHERE p.PartnerId = ?
                             |------------------------- a literal? -----|

`Context` tells what a statement is read as if names are taken for what they are,
and `numberOutside` numbers it so.  A name is unnoticed if its apostrophes come in
pairs and no `?` stands outside of them.  These are just the names that stay as
they are and do not change how the text behind them is numbered, and a statement
all of whose names are unnoticed has its placeholders numbered, those and no
other `?` (`numberPlaceholders_quotedName`).  Other names change the statement
behind them (`questionMark_behind_namedPartner`).
-/

import ReportQuery.Proofs.Database.Segments
import ReportQuery.Proofs.Query.Script

namespace ReportQuery
namespace Database

/-! ## Statements with names -/

/-- A name in double quotes. -/
def quotedName (x : String) : String := "\"" ++ x ++ "\""

/-- A text that closes its literals and its names, and of whose names something is true. -/
inductive Lexed (P : List Char → Prop) : List Char → Prop
  | nil : Lexed P []
  | char {c : Char} {cs : List Char} (hl : c ≠ '\'') (hn : c ≠ '"') (h : Lexed P cs) :
    Lexed P (c :: cs)
  | literal {v cs : List Char} (hv : '\'' ∉ v) (h : Lexed P cs) :
    Lexed P ('\'' :: (v ++ '\'' :: cs))
  | name {x cs : List Char} (hx : '"' ∉ x) (hp : P x) (h : Lexed P cs) :
    Lexed P ('"' :: (x ++ '"' :: cs))

/-- What a character of a statement stands in: a literal or a name is told by its quote. -/
inductive Context where
  | outside
  | inside (quote : Char)

/-- Numbers the question marks that stand neither in a literal nor in a name. -/
def numberOutside (index : Nat) : Context → List Char → List Char
  | _, [] => []
  | .outside, c :: cs =>
    if c = '\'' ∨ c = '"' then c :: numberOutside index (.inside c) cs
    else if c = '?' then
      (postgres.placeholder index).toList ++ numberOutside (index + 1) .outside cs
    else c :: numberOutside index .outside cs
  | .inside quote, c :: cs =>
    c :: numberOutside index (if c = quote then .outside else .inside quote) cs

/-- A name that numbering takes no notice of, if what is before it ends inside of a
literal or does not: apostrophes in pairs, and no `?` where it looks for one. -/
structure Unnoticed (quoted : Bool) (x : List Char) : Prop where
  paired : x.count '\'' % 2 = 0
  questionMark_not_mem : '?' ∉ unquoted quoted x

instance (quoted : Bool) (x : List Char) : Decidable (Unnoticed quoted x) :=
  decidable_of_iff (_ ∧ _) ⟨fun h => ⟨h.1, h.2⟩, fun h => ⟨h.paired, h.questionMark_not_mem⟩⟩

variable {P : List Char → Prop} {cs ds : List Char}

theorem lexed_of_not_mem (hl : '\'' ∉ cs) (hn : '"' ∉ cs) : Lexed P cs := by
  induction cs with
  | nil => exact .nil
  | cons c cs ih =>
    rw [List.mem_cons, not_or] at hl hn
    exact .char (Ne.symm hl.1) (Ne.symm hn.1) (ih hl.2 hn.2)

theorem Lexed.append (hc : Lexed P cs) (hd : Lexed P ds) : Lexed P (cs ++ ds) := by
  induction hc with
  | nil => exact hd
  | char hl hn _ ih => exact .char hl hn ih
  | literal hv _ ih =>
    rw [List.cons_append, List.append_assoc]
    exact .literal hv ih
  | name hx hp _ ih =>
    rw [List.cons_append, List.append_assoc]
    exact .name hx hp ih

theorem lexed_quotedName {x : String} (hx : '"' ∉ x.toList) (hp : P x.toList) :
    Lexed P (quotedName x).toList := by
  have h := Lexed.name hx hp .nil
  simpa [quotedName] using h

/-! ## Names that are not noticed -/

/-- How a name and the text behind it are numbered. -/
theorem numberFrom_quotedName (n : Nat) (quoted : Bool) (x ds : List Char) :
    numberFrom n quoted ('"' :: (x ++ '"' :: ds)) = '"' :: (numberFrom n quoted x ++ '"' ::
      numberFrom (n + (unquoted quoted x).count '?') (endsQuoted quoted x) ds) := by
  have hq : ∀ n quoted ds, numberFrom n quoted ('"' :: ds) = '"' :: numberFrom n quoted ds := by
    intro n quoted ds
    rw [numberFrom, if_neg (by decide), if_neg (by simp)]
  rw [hq, numberFrom_append, hq]

theorem endsQuoted_eq_self_iff {quoted : Bool} {x : List Char} :
    endsQuoted quoted x = quoted ↔ x.count '\'' % 2 = 0 := by
  cases quoted <;> simp [endsQuoted]

/-- What numbering changes nothing of, has no placeholder. -/
theorem questionMark_not_mem_of_numberFrom_eq_self {n : Nat} {quoted : Bool} {x : List Char}
    (h : numberFrom n quoted x = x) : '?' ∉ unquoted quoted x := by
  have hn := questionMark_not_mem_unquoted_numberFrom n quoted x
  rwa [h] at hn

/-- A `?` behind a text is numbered just when it stands outside of literals. -/
theorem numberFrom_questionMark_inj {n : Nat} {quoted quoted' : Bool}
    (h : numberFrom n quoted ['?'] = numberFrom n quoted' ['?']) : quoted = quoted' := by
  cases quoted <;> cases quoted' <;> simp [numberFrom, placeholder] at h ⊢

/-- **The unnoticed names are those that change nothing,** whatever stands behind them. -/
theorem unnoticed_iff (n : Nat) (quoted : Bool) (x : List Char) :
    Unnoticed quoted x ↔ ∀ ds, numberFrom n quoted ('"' :: (x ++ '"' :: ds)) =
      '"' :: (x ++ '"' :: numberFrom n quoted ds) := by
  constructor
  · intro h ds
    rw [numberFrom_quotedName, numberFrom_eq_self h.questionMark_not_mem,
      endsQuoted_eq_self_iff.2 h.paired, List.count_eq_zero_of_not_mem h.questionMark_not_mem,
      Nat.add_zero]
  · intro h
    simp only [numberFrom_quotedName, List.cons.injEq, true_and] at h
    -- nothing behind the name shows its own characters, a placeholder there what it leaves behind
    have hx : numberFrom n quoted x = x := List.append_cancel_right (h [])
    have hm := questionMark_not_mem_of_numberFrom_eq_self hx
    have hq := h ['?']
    rw [hx, List.count_eq_zero_of_not_mem hm, Nat.add_zero] at hq
    have he := numberFrom_questionMark_inj (List.cons.inj (List.append_cancel_left hq)).2
    exact ⟨endsQuoted_eq_self_iff.1 he, hm⟩

/-! ## Statements all of whose names are unnoticed -/

theorem numberOutside_inside {quote : Char} {v : List Char} (hv : quote ∉ v) (n : Nat)
    (cs : List Char) :
    numberOutside n (.inside quote) (v ++ quote :: cs) =
      v ++ quote :: numberOutside n .outside cs := by
  induction v with
  | nil => simp [numberOutside]
  | cons c v ih =>
    rw [List.mem_cons, not_or] at hv
    rw [List.cons_append, numberOutside, if_neg (Ne.symm hv.1), ih hv.2, List.cons_append]

/-- **If no name is noticed, the `?` outside of literals and names are numbered.** -/
theorem Lexed.numberFrom_eq (h : Lexed (Unnoticed false) cs) (n : Nat) :
    numberFrom n false cs = numberOutside n .outside cs := by
  induction h generalizing n with
  | nil => rfl
  | @char c cs hl hn _ ih =>
    rw [numberFrom, numberOutside, if_neg hl, if_neg (not_or.2 ⟨hl, hn⟩)]
    by_cases hc : c = '?' <;> simp [hc, ih]
  | @literal v cs hv _ ih =>
    have hn : numberFrom n true v = v := by simp [numberFrom_of_not_mem hv]
    rw [numberFrom, if_pos rfl, numberOutside, if_pos (.inl rfl), numberOutside_inside hv,
      numberFrom_append, Bool.not_false, hn, endsQuoted_of_not_mem hv, unquoted_of_not_mem hv,
      numberFrom, if_pos rfl]
    simp [ih]
  | @name x cs hx hp _ ih =>
    rw [(unnoticed_iff n false x).1 hp, ih, numberOutside, if_pos (.inr rfl),
      numberOutside_inside hx]

theorem Lexed.endsQuoted (h : Lexed (Unnoticed false) cs) : endsQuoted false cs = false := by
  induction h with
  | nil => rfl
  | char hl _ _ ih => simpa [endsQuoted_cons, hl] using ih
  | literal hv _ ih =>
    simpa [endsQuoted_cons, endsQuoted_append, endsQuoted_of_not_mem hv] using ih
  | name _ hp _ ih =>
    simpa [endsQuoted_cons, endsQuoted_append, endsQuoted_eq_self_iff.2 hp.paired] using ih

theorem toList_append_quotedName (a x b : String) :
    (a ++ quotedName x ++ b).toList = a.toList ++ ('"' :: (x.toList ++ '"' :: b.toList)) := by
  simp [quotedName]

/-- **A name in double quotes is left alone just when numbering takes no notice of it.**
If all names of a statement are of that kind, its placeholders are numbered, that is
the `?` outside of literals and names.

Of a single name this is told by the text before it.  Let `n` placeholders be numbered
there, and `quoted` say whether numbering takes the name to begin inside of a literal,
which it does not if all names before it are left alone.  The characters of the name and
the text behind it are then numbered as the second equation tells.  The name stays as it
is, and whatever stands behind it is numbered as behind any other name, just when the
name has its apostrophes in pairs and no `?` outside of them. -/
theorem numberPlaceholders_quotedName (a x : String) :
    (∀ sql : String, Lexed (Unnoticed false) sql.toList →
        (postgres.numberPlaceholders sql).toList = numberOutside 0 .outside sql.toList) ∧
      let n := (unquoted false a.toList).count '?'
      let quoted := endsQuoted false a.toList
      (Lexed (Unnoticed false) a.toList → quoted = false) ∧
        (∀ b : String, (postgres.numberPlaceholders (a ++ quotedName x ++ b)).toList =
          numberFrom 0 false a.toList ++ '"' :: (numberFrom n quoted x.toList ++ '"' ::
            numberFrom (n + (unquoted quoted x.toList).count '?') (endsQuoted quoted x.toList)
              b.toList)) ∧
        (Unnoticed quoted x.toList ↔
          ∀ b : String, (postgres.numberPlaceholders (a ++ quotedName x ++ b)).toList =
            numberFrom 0 false a.toList ++
              '"' :: (x.toList ++ '"' :: numberFrom n quoted b.toList)) := by
  refine ⟨fun sql hs => ?_, ?_⟩
  · rw [toList_numberPlaceholders, hs.numberFrom_eq]
  intro n quoted
  have ha : ∀ b : String, (postgres.numberPlaceholders (a ++ quotedName x ++ b)).toList =
      numberFrom 0 false a.toList ++ numberFrom n quoted ('"' :: (x.toList ++ '"' :: b.toList)) := by
    intro b
    rw [toList_numberPlaceholders, toList_append_quotedName, numberFrom_append, Nat.zero_add]
  refine ⟨Lexed.endsQuoted, fun b => ?_, ?_⟩
  · rw [ha, numberFrom_quotedName]
  · simp only [ha, List.append_cancel_left_eq]
    rw [unnoticed_iff n quoted x.toList]
    exact ⟨fun h b => h b.toList, fun h ds => by simpa using h (String.ofList ds)⟩

open Query (Step run)

/-- A partner, with a name given to the column of its name. -/
def namedPartner (name : String) : List Step :=
  [.appendField "p.PartnerId AS \"Id\"", .appendField ("p.Name AS " ++ quotedName name),
    .addTables "Partner p", .equalTo "p.PartnerId" (.int32 7)]

theorem numberPlaceholders_quotedName_namedPartner :
    let a := "SELECT p.PartnerId AS \"Id\", p.Name AS "
    let x := "Partner ('why?')"
    let q := run (namedPartner x)
    Lexed (Unnoticed false) a.toList ∧ Unnoticed (endsQuoted false a.toList) x.toList ∧
      Lexed (Unnoticed false) q.sql.toList ∧
      (∀ b : String, (postgres.numberPlaceholders (a ++ quotedName x ++ b)).toList =
        a.toList ++ '"' :: (x.toList ++ '"' :: numberFrom 0 false b.toList)) ∧
      (q.prepare .postgres).sql.toList = numberOutside 0 .outside q.sql.toList := by
  intro a x q
  have hl : ∀ s : String, '\'' ∉ s.toList → '"' ∉ s.toList → Lexed (Unnoticed false) s.toList :=
    fun s => lexed_of_not_mem
  have ha : Lexed (Unnoticed false) a.toList := by
    have hs : a.toList =
        "SELECT p.PartnerId AS ".toList ++ (quotedName "Id").toList ++ ", p.Name AS ".toList := by
      decide +kernel
    rw [hs]
    exact ((hl _ (by decide) (by decide)).append (lexed_quotedName (by decide) (by decide))).append
      (hl _ (by decide) (by decide))
  have hx : Unnoticed (endsQuoted false a.toList) x.toList := by decide +kernel
  have hq : Lexed (Unnoticed false) q.sql.toList := by
    have hs : q.sql.toList = a.toList ++ (quotedName x).toList ++
        " FROM Partner p WHERE p.PartnerId = ?  ".toList := by
      decide +kernel
    rw [hs]
    exact (ha.append (lexed_quotedName (by decide) (by decide))).append
      (hl _ (by decide) (by decide))
  obtain ⟨hsql, hquoted, -, hiff⟩ := numberPlaceholders_quotedName a x
  have hm : '?' ∉ unquoted false a.toList := by decide +kernel
  have hb := hiff.1 hx
  simp only [hquoted ha, numberFrom_eq_self hm, List.count_eq_zero_of_not_mem hm] at hb
  exact ⟨ha, hx, hq, hb, hsql q.sql hq⟩

/-- **A name can change how the text behind it is numbered.**  With an apostrophe in it, the
placeholder of a value behind it is not numbered; with a `?` in it, the name is changed
and the placeholder has a number too many.  So what a name does is not told by the text
around it, even if that closes its literals and names. -/
theorem questionMark_behind_namedPartner :
    (run (namedPartner "Partner's name")).binds = [.int32 7] ∧
      ((run (namedPartner "Partner's name")).prepare .postgres).sql =
        "SELECT p.PartnerId AS \"Id\", p.Name AS \"Partner's name\" " ++
          "FROM Partner p WHERE p.PartnerId = ?  " ∧
      ((run (namedPartner "Partner?")).prepare .postgres).sql =
        "SELECT p.PartnerId AS \"Id\", p.Name AS \"Partner$1\" " ++
          "FROM Partner p WHERE p.PartnerId = $2  " ∧
      ¬ ∀ a b : String, Lexed (fun _ => True) a.toList → ∃ a' b' : List Char,
        ∀ x : String, '"' ∉ x.toList →
          (postgres.numberPlaceholders (a ++ quotedName x ++ b)).toList =
            a' ++ (quotedName x).toList ++ b' := by
  refine ⟨by decide, by decide, by decide, fun h => ?_⟩
  let numbered := fun x => (postgres.numberPlaceholders ("SELECT p.Name AS " ++ quotedName x ++
    " FROM Partner p WHERE p.PartnerId = ?")).toList
  obtain ⟨a', b', h⟩ := h "SELECT p.Name AS " " FROM Partner p WHERE p.PartnerId = ?"
    (lexed_of_not_mem (by decide) (by decide))
  have h₁ : numbered "Partner's name" = a' ++ (quotedName "Partner's name").toList ++ b' :=
    h "Partner's name" (by decide)
  have h₂ : numbered "Partners names" = a' ++ (quotedName "Partners names").toList ++ b' :=
    h "Partners names" (by decide)
  -- two names of one length leave statements of two lengths
  have hname : (quotedName "Partner's name").toList.length =
      (quotedName "Partners names").toList.length := by decide +kernel
  have hne : (numbered "Partner's name").length ≠ (numbered "Partners names").length := by
    decide +kernel
  refine hne ?_
  rw [h₁, h₂, List.length_append, List.length_append, hname]
  simp only [List.length_append]

end Database
end ReportQuery
