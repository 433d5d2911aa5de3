import ScriptedScene.Host.Basic

/-!
Values that cross between a host and its guests and back: deltas, handles and colours.
-/

namespace ScriptedScene

open Guest

/-- Why a value does not cross. -/
inductive ExchangeFault where
  | conversion (c : ConversionFault)
  /-- A getter on the way threw. -/
  | thrown
  deriving DecidableEq, Repr

def ExchangeFault.message : ExchangeFault → String
  | conversion c => c.message
  | thrown => "Exception generated by QuickJS"

namespace Exchange

/-- What a guest sees of a delta. -/
def ofDelta (delta : Binary32) : Description := .number delta.widen

/-- Evaluates an expression in the host's realm, converts the value for the host and gives it back to the
guest. -/
def through (h : Host) (e : Expr) (convert : Value → Run (Except ConversionFault α))
    (back : α → Run Value) : Except ExchangeFault (α × Description) :=
  let crossing : Run (Except ConversionFault (α × Description)) := do
    let v ← Program.evaluate h.calls e
    match ← convert v with
    | .error fault => return .error fault
    | .ok a => return .ok (a, ← Description.describe h.calls.call Description.depth (← back a))
  match (crossing.run (.silent .free) h.machine).1 with
  | .ok (.ok r) => .ok r
  | .ok (.error fault) => .error (.conversion fault)
  | .error _ => .error .thrown

/-- A colour from a guest and back. -/
def color (h : Host) (e : Expr) : Except ExchangeFault (Color × Description) :=
  through h e (Convert.color h.calls.call) Run.ofColor

/-- A handle from a guest and back. -/
def handle (h : Host) (e : Expr) : Except ExchangeFault (UInt32 × Description) :=
  through h e Convert.handle fun w => return Run.ofWord w

end Exchange

end ScriptedScene
