/-
# Sets of identifiers

A finite set of 32-bit identifiers, kept as its members in ascending order.
The order is part of the type, so two sets with the same members are equal
(`IdSet.ext`), and every listing of a set is ascending.
-/

namespace ReportQuery

/-- A set of identifiers: its members, strictly ascending. -/
structure IdSet where
  ids : List Int32
  ascending : ids.Pairwise (· < ·)
deriving DecidableEq

namespace IdSet

/-- Puts an identifier in its place in an ascending list. -/
def insertInto (id : Int32) : List Int32 → List Int32
  | [] => [id]
  | x :: xs => if id < x then id :: x :: xs else if id = x then x :: xs else x :: insertInto id xs

theorem mem_insertInto {id x : Int32} {xs : List Int32} :
    x ∈ insertInto id xs ↔ x = id ∨ x ∈ xs := by
  induction xs with
  | nil => simp [insertInto]
  | cons y ys ih =>
    simp only [insertInto]
    split
    · simp
    · split
      · next h => subst h; simp
      · simp only [List.mem_cons, ih]; grind

theorem pairwise_insertInto {id : Int32} {xs : List Int32} (h : xs.Pairwise (· < ·)) :
    (insertInto id xs).Pairwise (· < ·) := by
  induction xs with
  | nil => simp [insertInto]
  | cons y ys ih =>
    obtain ⟨hy, hys⟩ := List.pairwise_cons.1 h
    simp only [insertInto]
    split
    · next hlt =>
      refine List.pairwise_cons.2 ⟨fun x hx => ?_, h⟩
      rcases List.mem_cons.1 hx with rfl | hx
      · exact hlt
      · exact Int32.lt_trans hlt (hy x hx)
    · split
      · exact h
      · next hge hne =>
        refine List.pairwise_cons.2 ⟨fun x hx => ?_, ih hys⟩
        rcases mem_insertInto.1 hx with rfl | hx
        · rw [Int32.lt_iff_toInt_lt] at hge ⊢
          have : x.toInt ≠ y.toInt := fun he => hne (Int32.toInt_inj.1 he)
          omega
        · exact hy x hx

/-- The set without members. -/
def empty : IdSet := ⟨[], List.Pairwise.nil⟩

/-- A set with one more member. -/
def insert (s : IdSet) (id : Int32) : IdSet :=
  ⟨insertInto id s.ids, pairwise_insertInto s.ascending⟩

/-- A set with the members of a list added. -/
def insertAll (s : IdSet) (ids : List Int32) : IdSet := ids.foldl insert s

/-- The members of a list. -/
def ofList (ids : List Int32) : IdSet := empty.insertAll ids

/-- Whether a set has no members. -/
def isEmpty (s : IdSet) : Bool := s.ids.isEmpty

/-- How many members a set has. -/
def size (s : IdSet) : Nat := s.ids.length

instance : Membership Int32 IdSet := ⟨fun s id => id ∈ s.ids⟩

theorem mem_def {s : IdSet} {id : Int32} : id ∈ s ↔ id ∈ s.ids := Iff.rfl

@[simp] theorem not_mem_empty {id : Int32} : id ∉ empty := by simp [mem_def, empty]

@[simp] theorem mem_insert {s : IdSet} {id x : Int32} : x ∈ s.insert id ↔ x = id ∨ x ∈ s :=
  mem_insertInto

@[simp] theorem mem_insertAll {s : IdSet} {ids : List Int32} {x : Int32} :
    x ∈ s.insertAll ids ↔ x ∈ s ∨ x ∈ ids := by
  induction ids generalizing s with
  | nil => simp [insertAll]
  | cons id ids ih =>
    have h : s.insertAll (id :: ids) = (s.insert id).insertAll ids := rfl
    rw [h, ih, mem_insert, List.mem_cons]; grind

@[simp] theorem mem_ofList {ids : List Int32} {x : Int32} : x ∈ ofList ids ↔ x ∈ ids := by
  simp [ofList]

/-- Ascending lists with the same members are equal. -/
theorem eq_of_pairwise_of_mem_iff {xs ys : List Int32} (hx : xs.Pairwise (· < ·))
    (hy : ys.Pairwise (· < ·)) (h : ∀ a, a ∈ xs ↔ a ∈ ys) : xs = ys := by
  induction xs generalizing ys with
  | nil =>
    cases ys with
    | nil => rfl
    | cons y ys => exact absurd ((h y).2 (by simp)) (by simp)
  | cons x xs ih =>
    cases ys with
    | nil => exact absurd ((h x).1 (by simp)) (by simp)
    | cons y ys =>
      obtain ⟨hxs, hx'⟩ := List.pairwise_cons.1 hx
      obtain ⟨hys, hy'⟩ := List.pairwise_cons.1 hy
      have hxy : x = y := by
        rcases List.mem_cons.1 ((h x).1 (by simp)) with he | hin
        · exact he
        · rcases List.mem_cons.1 ((h y).2 (by simp)) with he | hin'
          · exact he.symm
          · exact absurd (Int32.lt_trans (hys x hin) (hxs y hin')) Int32.lt_irrefl
      subst hxy
      congr 1
      refine ih hx' hy' fun a => ?_
      constructor
      · intro ha
        rcases List.mem_cons.1 ((h a).1 (by simp [ha])) with rfl | hin
        · exact absurd (hxs a ha) Int32.lt_irrefl
        · exact hin
      · intro ha
        rcases List.mem_cons.1 ((h a).2 (by simp [ha])) with rfl | hin
        · exact absurd (hys a ha) Int32.lt_irrefl
        · exact hin

/-- **Sets with the same members are equal.** -/
theorem ext {s t : IdSet} (h : ∀ id, id ∈ s ↔ id ∈ t) : s = t := by
  cases s; cases t
  simp only [mem_def] at h
  congr 1
  exact eq_of_pairwise_of_mem_iff ‹_› ‹_› h

end IdSet

end ReportQuery
