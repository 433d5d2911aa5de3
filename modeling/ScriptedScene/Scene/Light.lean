import ScriptedScene.Binary.Basic

/-!
Lights: their kinds, their ids and what is known of each.
-/

namespace ScriptedScene

/-- What sort of light it is. -/
inductive LightKind where
  | directional
  | point
  | spot
  deriving DecidableEq, Repr

namespace LightKind

def all : List LightKind := [directional, point, spot]

/-- The one spelling of a kind. -/
def name : LightKind → String
  | directional => "directional"
  | point => "point"
  | spot => "spot"

/-- The kind that is spelled so. -/
def ofName? (s : String) : Option LightKind := all.find? fun kind => kind.name = s

end LightKind

/-- The id of a light in a store; the first light has id one. -/
structure LightId where
  raw : UInt32
  deriving DecidableEq, Repr

namespace LightId

/-- The id with the given number; zero is no light. -/
def ofRaw? (raw : UInt32) : Option LightId := if raw = 0 then none else some ⟨raw⟩

/-- How an id is shown. -/
def shown (id : LightId) : String := "#" ++ toString id.raw.toNat

end LightId

/-- A colour by its three components. -/
structure Color where
  red : Binary32
  green : Binary32
  blue : Binary32
  deriving DecidableEq, Repr

/-- The value one. -/
def Binary32.one : Binary32 := .ofNat 1

namespace Color

def white : Color := ⟨.one, .one, .one⟩

def components (c : Color) : List Binary32 := [c.red, c.green, c.blue]

/-- Whether all components are finite. -/
def isFinite (c : Color) : Bool := c.red.isFinite && c.green.isFinite && c.blue.isFinite

/-- The smallest component. -/
def least (c : Color) : Binary32 := c.red.lesser (c.green.lesser c.blue)

end Color

/-- A light. -/
structure Light where
  name : Option String
  kind : LightKind
  color : Color
  intensity : Binary32
  deriving DecidableEq, Repr

/-- A new light: without a name, white, of intensity one. -/
def Light.new (kind : LightKind) : Light := ⟨none, kind, .white, .one⟩

end ScriptedScene
