/-
# Windows by name

A window may have a name, and may be based on one that has a name: it takes over which rows
agree, and the order if that one has an order, and adds what that one does not have.  Of
several windows of one name the last one counts.
-/

import ReportQuery.Sql.Expression
import ReportQuery.Sql.Fault

namespace ReportQuery
namespace Sql

/-- The name of a window. -/
def NamedWindow.name : NamedWindow → String
  | .mk name _ => name

/-- The window of a name. -/
def findWindow (windows : List NamedWindow) (name : String) : Except Fault Window :=
  match windows.reverse.find? fun w => sameName w.name name with
  | some (.mk _ window) => .ok window
  | none => .error (.unknownWindow name)

/-- What a window says itself: the values that its rows agree in, its order and its frame. -/
def Window.parts : Window → List Expr × List Term × List WindowFrame
  | .named _ => ([], [], [])
  | .mk _ agreeing order frame => (agreeing, order, frame)

/-- Whether a window is only referred to by its name. -/
def Window.isNamed : Window → Bool
  | .named _ => true
  | .mk .. => false

/-- A window with what it takes over from the one that it is based on. -/
def Window.basedOn (windows : List NamedWindow) : Window → Except Fault Window
  | .mk (some base) agreeing order frame => do
    let (baseAgreeing, baseOrder, baseFrame) := (← findWindow windows base).parts
    if !agreeing.isEmpty then throw (.windowOverride "PARTITION clause" base)
    if !baseOrder.isEmpty && !order.isEmpty then throw (.windowOverride "ORDER BY clause" base)
    if !baseFrame.isEmpty then throw (.windowOverride "frame specification" base)
    return .mk none baseAgreeing (if baseOrder.isEmpty then order else baseOrder) frame
  | window => .ok window

/-- The window that is meant, among those that have names. -/
def Window.among (windows : List NamedWindow) : Window → Except Fault Window
  | .named name => findWindow windows name
  | window => window.basedOn windows

end Sql
end ReportQuery
