import ScriptedScene.Scene.Store
import ScriptedScene.Json.Typed
import ScriptedScene.Json.Writer

/-!
Lights, kinds and ids as JSON text.
-/

namespace ScriptedScene

open Json

namespace LightKind

/-- How a kind is spelled in JSON. -/
def variant : LightKind → String
  | directional => "directional"
  | point => "point"
  | spot => "spot"

/-- The kind of a given spelling, or the fault of one that is none. -/
def ofVariant (name : String) : Reader LightKind :=
  match all.find? fun kind => kind.variant = name with
  | some kind => return kind
  | none => Reader.mismatch (.unknownVariant name (all.map variant))

/-- A kind is its spelling, or an object with the spelling as its one key and `null` as the value. -/
def reader : Reader LightKind := do
  match ← Reader.peek? with
  | none => Reader.unfinished .value
  | some '"' => ofVariant (← Reader.text "variant identifier")
  | some '\x7b' =>
    Reader.advance
    match ← Reader.peek? with
    | none => Reader.unfinished .object
    | some '\x7d' => Reader.malformed .expectedValue
    | some '"' => pure ()
    | some _ => Reader.malformed .keyMustBeString
    let kind ← ofVariant (← Reader.text "variant identifier")
    Reader.colon
    match ← Reader.peek? with
    | some 'n' =>
      Reader.advance
      Reader.ident "ull".toList
    | _ => Reader.unexpected "unit"
    match ← Reader.peek? with
    | some '\x7d' => Reader.advance
    | some _ => Reader.malformed .expectedValue
    | none => Reader.unfinished .object
    return kind
  | some _ => Reader.malformed .expectedValue

def toJson (kind : LightKind) : String := quote kind.variant

end LightKind

namespace LightId

/-- An id is its number; zero is read like any other. -/
def reader : Reader LightId := do return ⟨UInt32.ofNat (← Reader.natural UInt32.size "u32")⟩

def toJson (id : LightId) : String := toString id.raw.toNat

end LightId

namespace Color

/-- What a colour is said to be. -/
def description : String := "a sequence of 3 f32 values"

/-- A component, which must be there; `index` counts those before it. -/
def component (index : Nat) : Reader Binary32 := do
  match ← Reader.element? (index == 0) Reader.binary32 with
  | some x => return x
  | none => Reader.mismatch (.invalidLength index description)

/-- A colour is a list of three numbers. -/
def reader : Reader Color := do
  match ← Reader.peek? with
  | some '[' =>
    Reader.advance
    let color : Color := ⟨← component 0, ← component 1, ← component 2⟩
    Reader.listEnd
    return color
  | _ => Reader.unexpected description

def toJson (c : Color) : String := list (c.components.map number32)

end Color

namespace Light

/-- The fields of a light read so far. -/
structure Fields where
  name : Option (Option String)
  kind : Option LightKind
  color : Option Color
  intensity : Option Binary32

/-- Reads the value of a field; unknown fields are skipped. -/
def Fields.read (key : String) (fields : Fields) : Reader Fields := do
  if key = "name" then
    return { fields with
      name := ← Reader.fieldValue "name" fields.name (Reader.optional (Reader.text "a string")) }
  else if key = "kind" then
    return { fields with kind := ← Reader.fieldValue "kind" fields.kind LightKind.reader }
  else if key = "color" then
    return { fields with color := ← Reader.fieldValue "color" fields.color Color.reader }
  else if key = "intensity" then
    return { fields with
      intensity := ← Reader.fieldValue "intensity" fields.intensity Reader.binary32 }
  else
    Reader.skipField
    return fields

/-- A field that must have been given. -/
def required (name : String) : Option α → Reader α
  | some a => return a
  | none => Reader.mismatch (.missingField name)

/-- A light from the fields of an object; only the name may be left out. -/
def Fields.finish (fields : Fields) : Reader Light := do
  return {
    name := fields.name.join
    kind := ← required "kind" fields.kind
    color := ← required "color" fields.color
    intensity := ← required "intensity" fields.intensity }

/-- A field of a light given as a list, which must be there; `index` counts those before it. -/
def element (index : Nat) (value : Reader α) : Reader α := do
  match ← Reader.element? (index == 0) value with
  | some a => return a
  | none => Reader.mismatch (.invalidLength index "struct Light with 4 elements")

/-- A light as an object, or as a list of its four fields. -/
def reader : Reader Light :=
  Reader.record "struct Light"
    (do (← Reader.members Fields.read ⟨none, none, none, none⟩).finish)
    (do return {
      name := ← element 0 (Reader.optional (Reader.text "a string"))
      kind := ← element 1 LightKind.reader
      color := ← element 2 Color.reader
      intensity := ← element 3 Reader.binary32 })

def toJson (light : Light) : String :=
  object [
    ("name", optional quote light.name),
    ("kind", light.kind.toJson),
    ("color", light.color.toJson),
    ("intensity", number32 light.intensity)]

end Light

end ScriptedScene
