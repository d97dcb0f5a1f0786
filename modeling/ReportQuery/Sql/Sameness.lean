/-
# Sameness of expressions

Two expressions are the same if they are written alike but for the case of names.  A window is
the same as another one if rows agree in the same values, have the same order, and have the
same frames around them.
-/

import ReportQuery.Sql.Expression

namespace ReportQuery
namespace Sql

mutual

/-- Whether two expressions are the same but for the case of names. -/
def Expr.same : Expr → Expr → Bool
  | .literal a, .literal b => a == b
  | .truth a, .truth b => a == b
  | .number a, .number b => a == b
  | .column a, .column b =>
    sameName a.column b.column &&
      (a.table.isNone || b.table.isNone || sameName (a.table.getD "") (b.table.getD ""))
  | .parameter a, .parameter b => a == b
  | .apply f as, .apply g bs => f == g && allSame as bs
  | .call f d as [] [] [], .call g e bs [] [] [] => sameName f g && d == e && allSame as bs
  | _, _ => false

/-- Whether two lists of expressions are the same. -/
def allSame : List Expr → List Expr → Bool
  | [], [] => true
  | a :: as, b :: bs => a.same b && allSame as bs
  | _, _ => false

end

/-- Whether two terms of an order are the same. -/
def Term.same : Term → Term → Bool
  | .mk a descending nullsFirst, .mk b descending' nullsFirst' =>
    a.same b && descending == descending' && nullsFirst == nullsFirst'

/-- Whether the members of two lists are the same. -/
def sameMembers {α : Type} (same : α → α → Bool) (as bs : List α) : Bool :=
  as.length == bs.length && (as.zip bs).all fun (a, b) => same a b

/-- Whether two bounds of frames are the same. -/
def FrameBound.same : FrameBound → FrameBound → Bool
  | .unbounded, .unbounded | .currentRow, .currentRow => true
  | .preceding a, .preceding b | .following a, .following b => a.same b
  | _, _ => false

/-- Whether two frames are the same. -/
def WindowFrame.same : WindowFrame → WindowFrame → Bool
  | .mk unit start ending exclusion, .mk unit' start' ending' exclusion' =>
    unit == unit' && start.same start' && ending.same ending' && exclusion == exclusion'

/-- Whether two windows that are based on no others are the same. -/
def Window.same : Window → Window → Bool
  | .mk _ agreeing order frame, .mk _ agreeing' order' frame' =>
    sameMembers Expr.same agreeing agreeing' && sameMembers Term.same order order' &&
      sameMembers WindowFrame.same frame frame'
  | _, _ => false

end Sql
end ReportQuery
