/-
# The numbers of JSON

The text of a number is its digits, behind a minus sign if it is negative, with a
point and more digits if it has a fraction, and with a mark, a sign and more digits
if it has an exponent (`NumberText`).

| text | read as |
| --- | --- |
| `-10` | `10`, negative |
| `0.50` | `0`, with the fraction `50` |
| `7e+08` | `7`, with the exponent `08` |

The reader takes the text of a number where no more of a number follows it
(`NumberText.takeSignedNumeral`), and all that it takes anywhere is the text of the
number that it gives (`exists_numberText`).  So what it leaves of a longer run of such
characters is seen by whoever reads on.

The decimal text of an integer has no fraction, no exponent, no zero in front of other
digits, and is not minus zero (`IsDecimal`).  The numbers that are integers for the
reader are those that have such a text, as far as 64 bits reach
(`NumberText.number_eq_integer_iff`).
-/

import Mathlib.Data.List.Basic
import ReportQuery.Json.Lexeme

namespace ReportQuery
namespace Json

/-! ## The grammar -/

/-- Digits, one or more. -/
def Digits (ds : List Char) : Prop := ds ≠ [] ∧ ∀ c ∈ ds, c.isDigit = true

/-- The digits before the point: a zero alone, or digits that do not begin with one. -/
def WholeText (ds : List Char) : Prop := Digits ds ∧ (ds.head? = some '0' → ds = ['0'])

/-- The text of the digits after the point, if there is a point. -/
inductive FractionText : List Char → List Char → Prop
  | none : FractionText [] []
  | some {ds : List Char} (h : Digits ds) : FractionText ('.' :: ds) ds

/-- The text of an exponent, if there is one. -/
inductive ExponentText : List Char → Option (Bool × List Char) → Prop
  | none : ExponentText [] none
  | bare {mark : Char} {ds : List Char} (hm : mark = 'e' ∨ mark = 'E') (h : Digits ds) :
    ExponentText (mark :: ds) (some (false, ds))
  | plus {mark : Char} {ds : List Char} (hm : mark = 'e' ∨ mark = 'E') (h : Digits ds) :
    ExponentText (mark :: '+' :: ds) (some (false, ds))
  | minus {mark : Char} {ds : List Char} (hm : mark = 'e' ∨ mark = 'E') (h : Digits ds) :
    ExponentText (mark :: '-' :: ds) (some (true, ds))

/-- The text of a number without its sign. -/
def UnsignedText (text : List Char) (n : Numeral) : Prop :=
  ∃ fraction exponent, text = n.whole ++ (fraction ++ exponent) ∧ WholeText n.whole ∧
    FractionText fraction n.fraction ∧ ExponentText exponent n.exponent

/-- The text of a number. -/
inductive NumberText : List Char → Numeral → Prop
  | positive {text : List Char} {n : Numeral} (hs : n.negative = false) (h : UnsignedText text n) :
    NumberText text n
  | negative {text : List Char} {n : Numeral} (hs : n.negative = true) (h : UnsignedText text n) :
    NumberText ('-' :: text) n

/-- A text that does not go on with a number. -/
def EndsNumber (cs : List Char) : Prop :=
  ∀ c rest, cs = c :: rest → c.isDigit = false ∧ c ≠ '.' ∧ c ≠ 'e' ∧ c ≠ 'E'

theorem endsNumber_cons {c : Char}
    (hc : c.isDigit = false ∧ c ≠ '.' ∧ c ≠ 'e' ∧ c ≠ 'E') (cs : List Char) :
    EndsNumber (c :: cs) := by
  rintro _ _ h
  cases h
  exact hc

/-- A text that does not go on with a digit. -/
def EndsDigits (cs : List Char) : Prop := ∀ c rest, cs = c :: rest → c.isDigit = false

theorem EndsNumber.endsDigits {cs : List Char} (h : EndsNumber cs) : EndsDigits cs :=
  fun c rest hc => (h c rest hc).1

theorem Digits.exists_cons {ds : List Char} (h : Digits ds) :
    ∃ c tail, ds = c :: tail ∧ c.isDigit = true := by
  obtain ⟨c, tail, rfl⟩ := List.exists_cons_of_ne_nil h.1
  exact ⟨c, tail, rfl, h.2 c List.mem_cons_self⟩

theorem not_isDigit_of_mark {c : Char} (h : c = 'e' ∨ c = 'E') : c.isDigit = false := by
  rcases h with rfl | rfl <;> decide

/-- A number begins with a minus or a digit. -/
theorem NumberText.exists_cons {text : List Char} {n : Numeral} (h : NumberText text n) :
    ∃ c tail, text = c :: tail ∧ startsNumber c = true := by
  cases h with
  | positive _ h =>
    obtain ⟨_, _, rfl, hw, -, -⟩ := h
    obtain ⟨c, tail, hc, hd⟩ := hw.1.exists_cons
    exact ⟨c, _, by rw [hc, List.cons_append], by simp [startsNumber, hd]⟩
  | negative => exact ⟨_, _, rfl, rfl⟩

/-! ## The text of a number is taken -/

section

variable {rest : List Char}

theorem takeWhile_digits_append {ds : List Char} (hd : ∀ c ∈ ds, c.isDigit) (hr : EndsDigits rest) :
    (ds ++ rest).takeWhile Char.isDigit = ds ∧ (ds ++ rest).dropWhile Char.isDigit = rest := by
  rw [List.takeWhile_append_of_pos hd, List.dropWhile_append_of_pos hd]
  cases rest with
  | nil => simp
  | cons c rest => simp [hr c rest rfl]

theorem Digits.takeDigits {ds : List Char} (h : Digits ds) (atEnd : Reason)
    (hr : EndsDigits rest) : takeDigits atEnd (ds ++ rest) = .ok (ds, rest) := by
  obtain ⟨ht, hd⟩ := takeWhile_digits_append h.2 hr
  simp [Json.takeDigits, ht, hd, h.1]

theorem WholeText.takeWhole {ds : List Char} (h : WholeText ds) (atEnd : Reason)
    (hr : EndsDigits rest) : takeWhole atEnd (ds ++ rest) = .ok (ds, rest) := by
  obtain ⟨c, tail, rfl, hc⟩ := h.1.exists_cons
  rw [List.cons_append, takeWhole.eq_def]
  simp only
  rw [if_neg (by simp [hc])]
  split
  · next hzero =>
    subst hzero
    obtain rfl : tail = [] := by simpa using h.2 rfl
    cases rest with
    | nil => rfl
    | cons d rest => simp [hr d rest rfl]
  · obtain ⟨ht, hd⟩ := takeWhile_digits_append (fun d h' => h.1.2 d (.tail _ h')) hr
    rw [ht, hd]

theorem FractionText.takeFraction {text ds : List Char} (h : FractionText text ds) (atEnd : Reason)
    (hr : EndsDigits rest) (hp : ∀ tail, rest ≠ '.' :: tail) :
    takeFraction atEnd (text ++ rest) = .ok (ds, rest) := by
  cases h with
  | none =>
    rw [List.nil_append, Json.takeFraction.eq_def]
    split
    · exact absurd rfl (hp _)
    · rfl
  | some h => exact h.takeDigits atEnd hr

theorem FractionText.endsDigits {text ds : List Char} (h : FractionText text ds)
    (hr : EndsDigits rest) : EndsDigits (text ++ rest) := by
  cases h with
  | none => exact hr
  | some =>
    rintro _ _ h
    cases h
    decide

theorem takeExponent_of_mark {mark : Char} (hm : mark = 'e' ∨ mark = 'E') (atEnd : Reason)
    {cs ds : List Char} {negative : Bool} (hs : Decimal.takeSign cs = (negative, ds ++ rest))
    (h : Digits ds) (hr : EndsDigits rest) :
    takeExponent atEnd (mark :: cs) = .ok (some (negative, ds), rest) := by
  rw [takeExponent, if_pos hm, hs]
  simp only
  rw [h.takeDigits atEnd hr]
  rfl

theorem takeSign_of_digit {c : Char} (hc : c.isDigit = true) (cs : List Char) :
    Decimal.takeSign (c :: cs) = (false, c :: cs) := by
  unfold Decimal.takeSign
  split
  · next h => cases h; exact absurd hc (by decide)
  · next h => cases h; exact absurd hc (by decide)
  · rfl

theorem ExponentText.takeExponent {text : List Char} {exponent : Option (Bool × List Char)}
    (h : ExponentText text exponent) (atEnd : Reason) (hr : EndsNumber rest) :
    takeExponent atEnd (text ++ rest) = .ok (exponent, rest) := by
  cases h with
  | none =>
    cases rest with
    | nil => rfl
    | cons c rest =>
      obtain ⟨-, -, he, hE⟩ := hr c rest rfl
      rw [List.nil_append, Json.takeExponent, if_neg (not_or.2 ⟨he, hE⟩)]
  | bare hm h =>
    obtain ⟨c, tail, rfl, hc⟩ := h.exists_cons
    exact takeExponent_of_mark hm atEnd (takeSign_of_digit hc _) h hr.endsDigits
  | plus hm h => exact takeExponent_of_mark hm atEnd rfl h hr.endsDigits
  | minus hm h => exact takeExponent_of_mark hm atEnd rfl h hr.endsDigits

/-- Behind the fraction come an exponent or the end, no more digits and no second point. -/
theorem ExponentText.endsFraction {text : List Char} {exponent : Option (Bool × List Char)}
    (h : ExponentText text exponent) (hr : EndsNumber rest) :
    ∀ c tail, text ++ rest = c :: tail → c.isDigit = false ∧ c ≠ '.' := by
  have hmark {mark : Char} (hm : mark = 'e' ∨ mark = 'E') (cs : List Char) :
      ∀ c tail, mark :: cs = c :: tail → c.isDigit = false ∧ c ≠ '.' := by
    rintro _ _ h
    cases h
    exact ⟨not_isDigit_of_mark hm, by rcases hm with rfl | rfl <;> decide⟩
  cases h with
  | none => exact fun c tail hc => ⟨(hr c tail hc).1, (hr c tail hc).2.1⟩
  | bare hm => exact hmark hm _
  | plus hm => exact hmark hm _
  | minus hm => exact hmark hm _

theorem UnsignedText.takeNumeral {text : List Char} {n : Numeral} (h : UnsignedText text n)
    (atEnd : Reason) (hr : EndsNumber rest) :
    takeNumeral atEnd n.negative (text ++ rest) = .ok (n, rest) := by
  obtain ⟨fraction, exponent, rfl, hw, hf, he⟩ := h
  have hends := he.endsFraction hr
  have hdigits : EndsDigits (exponent ++ rest) := fun c tail hc => (hends c tail hc).1
  have htail := hf.takeFraction atEnd hdigits fun tail hc => (hends '.' tail hc).2 rfl
  rw [List.append_assoc, List.append_assoc, Json.takeNumeral,
    hw.takeWhole atEnd (hf.endsDigits hdigits)]
  simp only [bind, Except.bind, htail, he.takeExponent atEnd hr]
  rfl

/-- **The text of a number is taken as the number**, where no more of a number follows. -/
theorem NumberText.takeSignedNumeral {text : List Char} {n : Numeral} (h : NumberText text n)
    (atEnd : Reason) (hr : EndsNumber rest) :
    takeSignedNumeral atEnd (text ++ rest) = .ok (n, rest) := by
  cases h with
  | positive hs h =>
    have hn := h.takeNumeral atEnd hr
    obtain ⟨_, _, rfl, hw, -, -⟩ := h
    obtain ⟨c, tail, hc, hd⟩ := hw.1.exists_cons
    rw [hs, hc] at hn
    rw [hc]
    simp only [List.cons_append] at hn ⊢
    rw [Json.takeSignedNumeral, hn]
    rintro _ hminus
    obtain rfl := (List.cons.inj hminus).1
    exact absurd hd (by decide)
  | negative hs h =>
    rw [List.cons_append, Json.takeSignedNumeral, ← hs, h.takeNumeral atEnd hr]

end

/-! ## What is taken is the text of a number -/

section

variable {atEnd : Reason} {cs rest : List Char}

theorem digits_of_takeDigits {ds : List Char} (h : takeDigits atEnd cs = .ok (ds, rest)) :
    Digits ds ∧ cs = ds ++ rest := by
  simp only [takeDigits] at h
  split at h
  · cases h
  · next hne =>
    cases h
    exact ⟨⟨by simpa using hne, fun c hc => List.all_eq_true.1 List.all_takeWhile c hc⟩,
      (List.takeWhile_append_dropWhile).symm⟩

theorem wholeText_of_takeWhole {ds : List Char} (h : takeWhole atEnd cs = .ok (ds, rest)) :
    WholeText ds ∧ cs = ds ++ rest := by
  have hzero : WholeText ['0'] := ⟨⟨by decide, List.all_eq_true.1 rfl⟩, fun _ => rfl⟩
  unfold takeWhole at h
  split at h
  · cases h
  · next c cs =>
    split at h
    · cases h
    next hd =>
    have hd : c.isDigit = true := by simpa using hd
    split at h
    · next hc =>
      subst hc
      split at h
      · split at h
        · cases h
        · cases h; exact ⟨hzero, rfl⟩
      · cases h; exact ⟨hzero, rfl⟩
    · next hc =>
      cases h
      refine ⟨⟨⟨by simp, ?_⟩, fun h0 => absurd (by simpa using h0) hc⟩, ?_⟩
      · intro d hin
        rcases List.mem_cons.1 hin with rfl | hin
        · exact hd
        · exact List.all_eq_true.1 List.all_takeWhile d hin
      · rw [List.cons_append, List.takeWhile_append_dropWhile]

theorem exists_fractionText {ds : List Char} (h : takeFraction atEnd cs = .ok (ds, rest)) :
    ∃ text, FractionText text ds ∧ cs = text ++ rest := by
  unfold takeFraction at h
  split at h
  · obtain ⟨hd, rfl⟩ := digits_of_takeDigits h
    exact ⟨_, .some hd, rfl⟩
  · cases h
    exact ⟨[], .none, rfl⟩

theorem exists_exponentText {exponent : Option (Bool × List Char)}
    (h : takeExponent atEnd cs = .ok (exponent, rest)) :
    ∃ text, ExponentText text exponent ∧ cs = text ++ rest := by
  unfold takeExponent at h
  split at h
  · cases h
    exact ⟨[], .none, rfl⟩
  · next mark cs =>
    split at h
    · next hm =>
      cases ht : takeDigits atEnd (Decimal.takeSign cs).2 with
      | error f => simp [ht, Except.map] at h
      | ok p =>
        obtain ⟨ds, tail⟩ := p
        obtain ⟨hd, he⟩ := digits_of_takeDigits ht
        simp only [ht, Except.map, Except.ok.injEq, Prod.mk.injEq] at h
        obtain ⟨rfl, rfl⟩ := h
        unfold Decimal.takeSign at he ⊢
        split at he
        · exact ⟨_, .minus hm hd, congrArg (mark :: '-' :: ·) he⟩
        · exact ⟨_, .plus hm hd, congrArg (mark :: '+' :: ·) he⟩
        · exact ⟨_, .bare hm hd, congrArg (mark :: ·) he⟩
    · cases h
      exact ⟨[], .none, rfl⟩

theorem exists_unsignedText {negative : Bool} {n : Numeral}
    (h : takeNumeral atEnd negative cs = .ok (n, rest)) :
    n.negative = negative ∧ ∃ text, UnsignedText text n ∧ cs = text ++ rest := by
  simp only [takeNumeral, bind, Except.bind, pure, Except.pure] at h
  split at h
  · cases h
  next whole hw =>
  split at h
  · cases h
  next fraction hf =>
  split at h
  · cases h
  next exponent he =>
  cases h
  obtain ⟨hwhole, hcs⟩ := wholeText_of_takeWhole hw
  obtain ⟨text₁, hfraction, ht₁⟩ := exists_fractionText hf
  obtain ⟨text₂, hexponent, ht₂⟩ := exists_exponentText he
  exact ⟨rfl, _, ⟨text₁, text₂, rfl, hwhole, hfraction, hexponent⟩, by simp [hcs, ht₁, ht₂]⟩

/-- **What is taken anywhere is the text of the number.** -/
theorem exists_numberText {n : Numeral} (h : takeSignedNumeral atEnd cs = .ok (n, rest)) :
    ∃ text, NumberText text n ∧ cs = text ++ rest := by
  unfold takeSignedNumeral at h
  split at h
  · obtain ⟨hs, text, ht, rfl⟩ := exists_unsignedText h
    exact ⟨_, .negative hs ht, rfl⟩
  · obtain ⟨hs, text, ht, rfl⟩ := exists_unsignedText h
    exact ⟨_, .positive hs ht, rfl⟩

end

/-! ## The value of a number -/

/-- Which numbers are integers: those that are whole, as far as 64 bits reach, and not minus zero.
What is behind the number does not matter. -/
theorem Numeral.number_eq_integer_iff {n : Numeral} {k : Int} {rest : List Char} :
    n.number rest = .ok (.integer k) ↔ n.fraction = [] ∧ n.exponent = none ∧
      (n.negative = false ∧ k = Decimal.ofDigits n.whole ∧ k < UInt64.size ∨
        n.negative = true ∧ k = -(Decimal.ofDigits n.whole : Int) ∧ k < 0 ∧
          Int64.minValue.toInt ≤ k) := by
  obtain ⟨negative, whole, fraction, exponent⟩ := n
  have hreal : ∀ x, (Except.map Number.real x : Except Fault Number) ≠ .ok (.integer k) := by
    intro x h
    cases x <;> cases h
  have hsize : UInt64.size = 18446744073709551616 := rfl
  have hleast : Int64.minValue.toInt = -9223372036854775808 := by decide
  simp only [Numeral.number, hsize, hleast, Bool.and_eq_true, decide_eq_true_eq]
  generalize Decimal.ofDigits whole = value
  by_cases hwhole : fraction.isEmpty = true ∧ exponent.isNone = true
  · rw [List.isEmpty_iff, Option.isNone_iff_eq_none] at hwhole
    obtain ⟨rfl, rfl⟩ := hwhole
    simp only [List.isEmpty_nil, Option.isNone_none, true_and]
    cases negative with
    | false =>
      simp only [Bool.not_false, true_and, reduceCtorEq, false_and, if_false, or_false]
      split
      · rw [Except.ok.injEq, Number.integer.injEq]
        omega
      · exact iff_of_false (hreal _) (by omega)
    | true =>
      simp only [Bool.not_true, reduceCtorEq, false_and, if_false, true_and, false_or]
      split
      · rw [Except.ok.injEq, Number.integer.injEq]
        omega
      · exact iff_of_false (hreal _) (by omega)
  · simp only [hwhole, false_and, if_false]
    refine iff_of_false (hreal _) fun ⟨hf, he, _⟩ => hwhole ⟨?_, ?_⟩
    · rw [hf, List.isEmpty_nil]
    · rw [he, Option.isNone_none]

/-! ## The decimal text of an integer -/

/-- The decimal text of an integer: no sign but a minus, no zero in front of other digits, and no
minus zero. -/
inductive IsDecimal : List Char → Int → Prop
  | zero : IsDecimal ['0'] 0
  | positive {c : Char} {ds : List Char} (hc : c ≠ '0') (hd : ∀ x ∈ c :: ds, x.isDigit = true) :
    IsDecimal (c :: ds) (Decimal.ofDigits (c :: ds))
  | negative {c : Char} {ds : List Char} (hc : c ≠ '0') (hd : ∀ x ∈ c :: ds, x.isDigit = true) :
    IsDecimal ('-' :: c :: ds) (-(Decimal.ofDigits (c :: ds) : Int))

theorem le_foldl_digits (n : Nat) (ds : List Char) :
    n ≤ ds.foldl (fun n c => 10 * n + (c.toNat - '0'.toNat)) n := by
  induction ds generalizing n with
  | nil => exact Nat.le_refl n
  | cons d ds ih =>
    rw [List.foldl_cons]
    exact Nat.le_trans (by omega) (ih _)

theorem ofDigits_pos {c : Char} {ds : List Char} (hc : c ≠ '0') (hd : c.isDigit = true) :
    0 < Decimal.ofDigits (c :: ds) := by
  have hle := le_foldl_digits (10 * 0 + (c.toNat - '0'.toNat)) ds
  have hne : c.toNat ≠ '0'.toNat := fun h => hc (Char.toNat_inj.1 h)
  have hge : '0'.toNat ≤ c.toNat := by
    simp only [Char.isDigit, Bool.and_eq_true, decide_eq_true_eq] at hd
    exact hd.1
  exact Nat.lt_of_lt_of_le (by omega) hle

theorem WholeText.eq_zero_or {ds : List Char} (h : WholeText ds) :
    ds = ['0'] ∨ ∃ c tail, ds = c :: tail ∧ c ≠ '0' ∧ ∀ x ∈ c :: tail, x.isDigit = true := by
  obtain ⟨c, tail, rfl, -⟩ := h.1.exists_cons
  by_cases hc : c = '0'
  · subst hc
    exact .inl (h.2 rfl)
  · exact .inr ⟨c, tail, rfl, hc, h.1.2⟩

theorem wholeText_cons {c : Char} {ds : List Char} (hc : c ≠ '0')
    (hd : ∀ x ∈ c :: ds, x.isDigit = true) : WholeText (c :: ds) :=
  ⟨⟨by simp, hd⟩, fun h => absurd (by simpa using h) hc⟩

theorem UnsignedText.eq_whole {text : List Char} {n : Numeral} (h : UnsignedText text n)
    (hf : n.fraction = []) (he : n.exponent = none) : text = n.whole ∧ WholeText n.whole := by
  obtain ⟨fraction, exponent, rfl, hw, hfraction, hexponent⟩ := h
  rw [hf] at hfraction
  rw [he] at hexponent
  cases hexponent
  cases hfraction with
  | none => exact ⟨by simp, hw⟩
  | some h => exact absurd rfl h.1

/-- A text is that of one number only. -/
theorem NumberText.unique {text : List Char} {n m : Numeral} (hn : NumberText text n)
    (hm : NumberText text m) : n = m := by
  have hends : EndsNumber [] := by rintro _ _ ⟨⟩
  have h := (hn.takeSignedNumeral .endInValue hends).symm.trans
    (hm.takeSignedNumeral .endInValue hends)
  cases h
  rfl

/-- The decimal texts of integers are the texts of numbers without fraction and exponent, apart
from that of minus zero. -/
theorem isDecimal_iff {text : List Char} {k : Int} :
    IsDecimal text k ↔ ∃ n, NumberText text n ∧ n.fraction = [] ∧ n.exponent = none ∧
      (n.negative = false ∧ k = Decimal.ofDigits n.whole ∨
        n.negative = true ∧ k = -(Decimal.ofDigits n.whole : Int) ∧ k < 0) := by
  constructor
  · have hunsigned {ds : List Char} (h : WholeText ds) (negative : Bool) :
        UnsignedText ds ⟨negative, ds, [], none⟩ := ⟨[], [], by simp, h, .none, .none⟩
    intro h
    cases h with
    | zero =>
      have hzero : WholeText ['0'] := ⟨⟨by decide, List.all_eq_true.1 rfl⟩, fun _ => rfl⟩
      exact ⟨_, .positive rfl (hunsigned hzero false), rfl, rfl, .inl ⟨rfl, rfl⟩⟩
    | positive hc hd =>
      exact ⟨_, .positive rfl (hunsigned (wholeText_cons hc hd) false), rfl, rfl, .inl ⟨rfl, rfl⟩⟩
    | @negative c ds hc hd =>
      have hpos : 0 < Decimal.ofDigits (c :: ds) := ofDigits_pos hc (hd c List.mem_cons_self)
      exact ⟨_, .negative rfl (hunsigned (wholeText_cons hc hd) true), rfl, rfl,
        .inr ⟨rfl, rfl, by omega⟩⟩
  · rintro ⟨n, hn, hf, he, hk⟩
    cases hn with
    | positive hs h =>
      obtain ⟨rfl, hw⟩ := h.eq_whole hf he
      obtain ⟨-, rfl⟩ := hk.resolve_right (by simp [hs])
      rcases hw.eq_zero_or with hzero | ⟨c, ds, hds, hc, hd⟩
      · rw [hzero]
        exact .zero
      · rw [hds]
        exact .positive hc hd
    | negative hs h =>
      obtain ⟨rfl, hw⟩ := h.eq_whole hf he
      obtain ⟨-, rfl, hneg⟩ := hk.resolve_left (by simp [hs])
      rcases hw.eq_zero_or with hzero | ⟨c, ds, hds, hc, hd⟩
      · rw [hzero] at hneg
        exact absurd hneg (by decide)
      · rw [hds]
        exact .negative hc hd

/-- A decimal text is that of one integer only. -/
theorem IsDecimal.unique {text : List Char} {k m : Int} (hk : IsDecimal text k)
    (hm : IsDecimal text m) : k = m := by
  obtain ⟨n, hn, -, -, hk⟩ := isDecimal_iff.1 hk
  obtain ⟨n', hn', -, -, hm⟩ := isDecimal_iff.1 hm
  obtain rfl := hn.unique hn'
  rcases hk with ⟨hs, hk⟩ | ⟨hs, hk, -⟩ <;> rcases hm with ⟨hs', hm⟩ | ⟨hs', hm, -⟩
  · rw [hk, hm]
  · cases hs.symm.trans hs'
  · cases hs.symm.trans hs'
  · rw [hk, hm]

/-- **Of the texts of numbers, those of integers are the decimal ones**, as far as 64 bits reach. -/
theorem NumberText.number_eq_integer_iff {text : List Char} {n : Numeral} (h : NumberText text n)
    {k : Int} {rest : List Char} : n.number rest = .ok (.integer k) ↔
      IsDecimal text k ∧ Int64.minValue.toInt ≤ k ∧ k < UInt64.size := by
  have hleast : Int64.minValue.toInt = -9223372036854775808 := by decide
  have hsize : (UInt64.size : Int) = 18446744073709551616 := rfl
  rw [Numeral.number_eq_integer_iff, isDecimal_iff, hleast, hsize]
  constructor
  · rintro ⟨hf, he, ⟨hs, hk, hlt⟩ | ⟨hs, hk, hneg, hge⟩⟩
    · exact ⟨⟨n, h, hf, he, .inl ⟨hs, hk⟩⟩, by omega, hlt⟩
    · exact ⟨⟨n, h, hf, he, .inr ⟨hs, hk, hneg⟩⟩, hge, by omega⟩
  · rintro ⟨⟨m, hm, hf, he, hk⟩, hge, hlt⟩
    obtain rfl := h.unique hm
    rcases hk with ⟨hs, hk⟩ | ⟨hs, hk, hneg⟩
    · exact ⟨hf, he, .inl ⟨hs, hk, hlt⟩⟩
    · exact ⟨hf, he, .inr ⟨hs, hk, hneg, hge⟩⟩

end Json
end ReportQuery
