import ScriptedScene.Guest.Catalogue

/-!
Objects, the functions among them, and variables.
-/

namespace ScriptedScene.Guest

/-- Where names are looked up: among variables, or among the properties of an object. -/
inductive Scope where
  | locals (cells : List (String × CellId))
  | object (ref : Ref)

/-- A function of the guest's own with what surrounds it where it is made. -/
structure Closure where
  kind : FunctionKind
  parameters : List String
  body : List Stmt
  /-- The scopes around the function, innermost first. -/
  scopes : List Scope
  strict : Bool
  /-- The receiver where the function is made, for functions that have none of their own. -/
  this : Value

/-- What happens when an object is called. -/
inductive Callable where
  | closure (c : Closure)
  /-- A class; it can only be constructed. -/
  | classBody (name : String)
  | builtin (b : Builtin)
  | host (f : HostFunction)

/-- What sort of object it is. -/
inductive Role where
  | plain
  /-- A list; its length may be fixed. -/
  | array (length : Nat) (adjustable : Bool)
  | typedArray (type : ElementType) (length : Nat)
  | error
  | function (f : Callable)
  /-- An object for a primitive. -/
  | boxed (value : Value)
  | promise
  | generator
  | arguments
  | date
  | pattern

/-- An object: where it inherits from, its own properties in the order of their making, and its sort. -/
structure Object where
  prototype : Option Ref
  properties : List (Units × Property)
  role : Role
  /-- What the object is called in its default text, if not by its sort. -/
  tag : Option String

instance : Inhabited Object := ⟨⟨none, [], .plain, none⟩⟩

namespace Object

/-- An object without properties. -/
def fresh (prototype : Option Ref) (role : Role) : Object := ⟨prototype, [], role, none⟩

def callable? (o : Object) : Option Callable :=
  match o.role with
  | .function f => some f
  | _ => none

def isError (o : Object) : Bool :=
  match o.role with
  | .error => true
  | _ => false

/-- The key under which lengths are found. -/
def lengthKey : Units := "length"

/-- The one unit of a text at the index that a key is. -/
def unitOf? (t : Units) (key : Units) : Option Value :=
  match key.index? with
  | some i => t.list[i]?.map fun u => .text ⟨[u]⟩
  | none => none

/-- The object's own property of a key. A list's length is one of them, and so are the units of a text. -/
def own? (o : Object) (key : Units) : Option Property :=
  match o.role with
  | .array n adjustable =>
    if key = lengthKey then some ⟨.data (.ofNat n) adjustable, false, false⟩ else o.properties.lookup key
  | .boxed (.text t) =>
    match unitOf? t key with
    | some v => some ⟨.data v false, true, false⟩
    | none => o.properties.lookup key
  | _ => o.properties.lookup key

/-- Whether the object alone says what is found under a key, even where it has nothing. -/
def isFinal (o : Object) (key : Units) : Bool :=
  match o.role with
  | .typedArray _ _ => key.isNumeric
  | _ => false

/-- Replaces the property of a key where it stands, or adds it at the end. -/
def putEntry (key : Units) (p : Property) : List (Units × Property) → List (Units × Property)
  | [] => [(key, p)]
  | (k, q) :: rest => if k = key then (key, p) :: rest else (k, q) :: putEntry key p rest

/-- The sort of a list after an element is put under a key. -/
def grownRole (key : Units) : Role → Role
  | .array n adjustable =>
    match key.index? with
    | some i => .array (max n (i + 1)) adjustable
    | none => .array n adjustable
  | role => role

/-- The object with a property under the key; a list grows as its elements do. -/
def put (o : Object) (key : Units) (p : Property) : Object :=
  { o with properties := putEntry key p o.properties, role := grownRole key o.role }

/-- The object without its property of a key. -/
def remove (o : Object) (key : Units) : Object :=
  { o with properties := o.properties.filter fun (k, _) => k ≠ key }

/-- Whether a property under a key would make a list longer whose length is fixed. -/
def isFull (o : Object) (key : Units) : Bool :=
  match o.role with
  | .array n false => key.index?.any (n ≤ ·)
  | _ => false

/-- The least length of a list, from a wanted one up, that leaves out no element which has to stay. -/
def leastLength (o : Object) (wanted : Nat) : Nat :=
  o.properties.foldl
    (fun n (k, p) =>
      match k.index? with
      | some i => if p.configurable then n else max n (i + 1)
      | none => n)
    wanted

/-- A list with a new length; elements past it are gone. -/
def withLength (o : Object) (n : Nat) (adjustable : Bool) : Object :=
  { o with
    role := .array n adjustable
    properties := o.properties.filter fun (k, _) =>
      match k.index? with
      | some i => i < n
      | none => true }

/-- The keys under which the units of a text are found. -/
def unitKeys : Role → List Units
  | .boxed (.text t) => (List.range t.length).map .ofNat
  | _ => []

/-- The keys of the object's own properties: indices in ascending order, then the others in the order of
their making. -/
def ownKeys (o : Object) : List Units :=
  let keys := unitKeys o.role ++ o.properties.map (·.1)
  let indices := keys.filterMap fun k => k.index?.map fun i => (i, k)
  let sorted := indices.mergeSort fun a b => a.1 ≤ b.1
  sorted.map (·.2) ++ keys.filter fun k => k.index?.isNone

end Object

/-- A variable: its value, if it has one yet, and whether it is a constant. -/
structure Cell where
  value : Option Value
  constant : Bool
  deriving DecidableEq, Repr

end ScriptedScene.Guest
