import ScriptedScene.Scene.Light
import ScriptedScene.Decimal.Style

/-!
Why a request to a scene is refused.
-/

namespace ScriptedScene

inductive SceneFault where
  | unknownLight (id : LightId)
  | unknownKind (name : String)
  | duplicateName (name : String)
  | invalidIntensity (value : Binary32)
  | invalidColor
  | full
  deriving DecidableEq, Repr

def SceneFault.message : SceneFault → String
  | unknownLight id => "light " ++ id.shown ++ " does not exist"
  | unknownKind name => "unknown light kind '" ++ name ++ "' (expected directional, point or spot)"
  | duplicateName name => "a light named '" ++ name ++ "' already exists"
  | invalidIntensity value =>
    "light intensity must be a finite non-negative number, got " ++ NumberStyle.plain.write value
  | invalidColor => "light color components must be finite and non-negative"
  | full => "scene has no room for more lights"

/-- The kind that is spelled so, or the fault of a spelling that is none. -/
def LightKind.parse (name : String) : Except SceneFault LightKind :=
  match ofName? name with
  | some kind => .ok kind
  | none => .error (.unknownKind name)

end ScriptedScene
