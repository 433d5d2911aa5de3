import ScriptedScene.Scene.Fault

/-!
The store of lights. Lights are kept in the order of their creation, so a light's place gives its id;
an index leads from each name to the light that has it. A refused request leaves the store as it was.
-/

namespace ScriptedScene

/-- The lights of a scene with the index of their names. -/
structure Store where
  lights : Array Light
  names : List (String × LightId)
  deriving DecidableEq, Repr

namespace Store

def empty : Store := ⟨#[], []⟩

instance : Inhabited Store := ⟨empty⟩

def size (s : Store) : Nat := s.lights.size

/-- The id of the light at a place, if ids reach so far. -/
def idAt? (place : Nat) : Option LightId :=
  if place + 1 < UInt32.size then some ⟨UInt32.ofNat (place + 1)⟩ else none

/-- The place of the light with an id. -/
def place? (s : Store) (id : LightId) : Option Nat :=
  if 1 ≤ id.raw.toNat && id.raw.toNat ≤ s.size then some (id.raw.toNat - 1) else none

/-- The light that has a name. -/
def find? (s : Store) (name : String) : Option LightId := s.names.lookup name

/-- The light with an id. -/
def light (s : Store) (id : LightId) : Except SceneFault Light :=
  match s.place? id with
  | none => .error (.unknownLight id)
  | some place =>
    match s.lights[place]? with
    | some light => .ok light
    | none => .error (.unknownLight id)

/-- The store with one more light, which has the given id. -/
def add (s : Store) (id : LightId) (light : Light) : Store where
  lights := s.lights.push light
  names :=
    match light.name with
    | some name => (name, id) :: s.names
    | none => s.names

/-- A new light, under the given name if one is given. Names are used once. -/
def create (s : Store) (kind : LightKind) (name : Option String) :
    Except SceneFault (LightId × Store) :=
  let taken := name.filter fun name => (s.find? name).isSome
  match taken, idAt? s.size with
  | some name, _ => .error (.duplicateName name)
  | none, none => .error .full
  | none, some id => .ok (id, s.add id { Light.new kind with name })

/-- Changes the light with an id by a value, if the value fits. The value is looked at before the id. -/
def modify (s : Store) (id : LightId) (fits : Bool) (misfit : SceneFault) (change : Light → Light) :
    Except SceneFault Store :=
  if !fits then .error misfit
  else
    match s.place? id with
    | none => .error (.unknownLight id)
    | some place => .ok { s with lights := s.lights.modify place change }

/-- Gives a light a colour, which has to be finite and without a component below zero. -/
def setColor (s : Store) (id : LightId) (color : Color) : Except SceneFault Store :=
  s.modify id (color.isFinite && !color.least.lt (.zero false)) .invalidColor fun light => { light with color }

/-- Gives a light an intensity, which has to be finite and not below zero. -/
def setIntensity (s : Store) (id : LightId) (intensity : Binary32) : Except SceneFault Store :=
  s.modify id (intensity.isFinite && !intensity.lt (.zero false)) (.invalidIntensity intensity)
    fun light => { light with intensity }

/-- All lights with their ids, in the order of creation. -/
def entries (s : Store) : List (LightId × Light) :=
  s.lights.toList.zipIdx.filterMap fun (light, place) => (idAt? place).map fun id => (id, light)

/-- A request that changes the store. -/
inductive Change where
  | create (kind : LightKind) (name : Option String)
  | color (id : LightId) (color : Color)
  | intensity (id : LightId) (value : Binary32)
  deriving DecidableEq, Repr

/-- What a request is answered with: the id of the light that it makes, if it makes one, or why it is refused. -/
abbrev Answer := Except SceneFault (Option LightId)

/-- What becomes of a request: a refused one leaves the store as it was. -/
def settle (s : Store) : Except SceneFault (Option LightId × Store) → Answer × Store
  | .ok (id, s) => (.ok id, s)
  | .error fault => (.error fault, s)

/-- Makes a request: the answer and the store as it is then. -/
def request (s : Store) : Change → Answer × Store
  | .create kind name => s.settle ((s.create kind name).map fun (id, s) => (some id, s))
  | .color id color => s.settle ((s.setColor id color).map fun s => (none, s))
  | .intensity id value => s.settle ((s.setIntensity id value).map fun s => (none, s))

/-- The store after a change, or why it is refused. -/
def apply (s : Store) (c : Change) : Except SceneFault Store :=
  match s.request c with
  | (.ok _, s) => .ok s
  | (.error fault, _) => .error fault

end Store

end ScriptedScene
