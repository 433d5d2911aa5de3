import ScriptedScene.Guest.Convert

/-!
The light module: functions that read and change the scene. The arguments are converted first, then a kind or a
handle is looked at, and then the scene is asked, once.
-/

namespace ScriptedScene.Guest

namespace Run

/-- The light that a handle stands for. -/
def lightOf (handle : UInt32) : Run LightId :=
  match LightId.ofRaw? handle with
  | some id => return id
  | none => throwFault .nullHandle

/-- The kind that is spelled so. -/
def kindOf (spelling : String) : Run LightKind :=
  match LightKind.parse spelling with
  | .ok kind => return kind
  | .error fault => throwFault (.scene fault)

end Run

namespace LightFunction

open Run

def all : List LightFunction :=
  [create, find, getKind, getColor, setColor, getIntensity, setIntensity, count]

def name : LightFunction → String
  | create => "create"
  | find => "find"
  | getKind => "getKind"
  | getColor => "getColor"
  | setColor => "setColor"
  | getIntensity => "getIntensity"
  | setIntensity => "setIntensity"
  | count => "count"

/-- How many arguments a call has to have. -/
def required : LightFunction → Nat
  | create | find | getKind | getColor | getIntensity => 1
  | setColor | setIntensity => 2
  | count => 0

/-- What a call asks of the scene, if its arguments are such that it asks anything. -/
def inquiry (call : Call) : LightFunction → List Value → Run Inquiry
  | create, [kind] => do
    let kind ← orThrow (Convert.text kind)
    return .change (.create (← kindOf kind) none)
  | create, kind :: name :: _ => do
    let kind ← orThrow (Convert.text kind)
    let name ← orThrow (Convert.text name)
    return .change (.create (← kindOf kind) (some name))
  | find, name :: _ => do
    return .find (← orThrow (Convert.text name))
  | getKind, handle :: _ | getColor, handle :: _ | getIntensity, handle :: _ => do
    return .light (← lightOf (← orThrow (Convert.handle handle)))
  | setColor, handle :: color :: _ => do
    let handle ← orThrow (Convert.handle handle)
    let color ← orThrow (Convert.color call color)
    return .change (.color (← lightOf handle) color)
  | setIntensity, handle :: intensity :: _ => do
    let handle ← orThrow (Convert.handle handle)
    let intensity ← orThrow (Convert.number32 intensity)
    return .change (.intensity (← lightOf handle) intensity)
  | count, _ => return .count
  | function, arguments => throwFault (.tooFewArguments arguments.length function.required)

/-- What a call returns of what the scene says. -/
def value : LightFunction → Reading → Run Value
  | create, .changed (some id) | find, .found (some id) => return ofWord id.raw
  | getKind, .light l => return .ofString l.kind.name
  | getColor, .light l => ofColor l.color
  | getIntensity, .light l => return .ofBinary l.intensity.widen
  | count, .count n => return ofWord (UInt32.ofNat n)
  | _, _ => return .undefined

/-- A call. -/
def run (call : Call) (f : LightFunction) (arguments : List Value) : Run Value := do
  let q ← (f.inquiry call arguments).recover fun e => do
    unasked f arguments
    fail e
  match ← consult f arguments q with
  | .ok reading => f.value reading
  | .error fault => throwFault fault

end LightFunction

end ScriptedScene.Guest
