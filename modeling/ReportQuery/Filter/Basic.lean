/-
# Filters

A filter gives some dimensions a set of identifiers.  A dimension is restricted
when its set has a member: a dimension with an empty set is not restricted, yet
a filter that has such an entry differs from one that has none, and the entry is
seen in the filter's JSON text.

Entries are stored as a function of the dimension, so what one dimension holds
never depends on another one.
-/

import ReportQuery.Filter.Dimension
import ReportQuery.Filter.IdSet

namespace ReportQuery

/-- The set of identifiers that each dimension is given, if any. -/
structure Filter where
  entry : Dimension → Option IdSet

namespace Filter

theorem ext {f g : Filter} (h : ∀ d, f.entry d = g.entry d) : f = g := by
  cases f; cases g
  congr 1
  exact funext h

instance : DecidableEq Filter := fun f g =>
  decidable_of_iff (∀ d ∈ Dimension.all, f.entry d = g.entry d)
    ⟨fun h => ext fun d => h d (Dimension.mem_all d), fun h _ _ => h ▸ rfl⟩

/-- The filter without entries. -/
def empty : Filter := ⟨fun _ => none⟩

/-- The filter with another entry for one dimension. -/
def setEntry (f : Filter) (d : Dimension) (ids : Option IdSet) : Filter :=
  ⟨fun x => if x = d then ids else f.entry x⟩

@[simp] theorem entry_setEntry (f : Filter) (d x : Dimension) (ids : Option IdSet) :
    (f.setEntry d ids).entry x = if x = d then ids else f.entry x := rfl

/-- Adds identifiers to the restriction of a dimension; none leave the filter as it is. -/
def restrict (f : Filter) (d : Dimension) (ids : List Int32) : Filter :=
  if ids.isEmpty then f
  else f.setEntry d (some (((f.entry d).getD .empty).insertAll ids))

/-- Adds one identifier to the restriction of a dimension. -/
def addRestriction (f : Filter) (d : Dimension) (id : Int32) : Filter := f.restrict d [id]

/-- Takes the entry of a dimension away. -/
def clearRestriction (f : Filter) (d : Dimension) : Filter := f.setEntry d none

/-- The identifiers that a dimension is restricted to, if it is restricted. -/
def restrictions (f : Filter) (d : Dimension) : Option IdSet :=
  (f.entry d).filter fun ids => !ids.isEmpty

/-- Whether a dimension is restricted. -/
def isRestricted (f : Filter) (d : Dimension) : Bool := (f.restrictions d).isSome

/-- The restricted dimensions with their identifiers, in the order of dimensions. -/
def restrictedDimensions (f : Filter) : List (Dimension × IdSet) :=
  Dimension.all.filterMap fun d => (f.restrictions d).map fun ids => (d, ids)

/-- Whether no dimension is restricted. -/
def isEmpty (f : Filter) : Bool := f.restrictedDimensions.isEmpty

/-- All entries, also those without identifiers, in the order of dimensions. -/
def entries (f : Filter) : List (Dimension × IdSet) :=
  Dimension.all.filterMap fun d => (f.entry d).map fun ids => (d, ids)

end Filter

end ReportQuery
