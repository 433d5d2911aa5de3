import ScriptedScene.Guest.Run
import ScriptedScene.Guest.Fault

/-!
Making and reading objects and variables, and throwing errors. An error object that is thrown while guest code
runs is given a stack, once.
-/

namespace ScriptedScene.Guest

namespace Memory

def object (m : Memory) (r : Ref) : Object := m.heap.getD r.index default

def isError (m : Memory) : Value → Bool
  | .object r => (m.object r).isError
  | _ => false

def callable? (m : Memory) : Value → Option Callable
  | .object r => (m.object r).callable?
  | _ => none

/-- The first property of a key on the chain from an object along the prototypes, of at most so many objects. -/
def findFrom (m : Memory) (key : Units) : Nat → Ref → Option Property
  | 0, _ => none
  | bound + 1, r =>
    let o := m.object r
    match o.own? key with
    | some p => some p
    | none =>
      if o.isFinal key then none
      else
        match o.prototype with
        | some parent => m.findFrom key bound parent
        | none => none

/-- The property of a key that an object has or inherits. -/
def find? (m : Memory) (r : Ref) (key : Units) : Option Property := m.findFrom key (m.heap.size + 1) r

/-- The first of an object's chain that is called by something else than its sort. -/
def tagFrom (m : Memory) : Nat → Ref → Option String
  | 0, _ => none
  | bound + 1, r =>
    let o := m.object r
    match o.tag, o.prototype with
    | some tag, _ => some tag
    | none, some parent => m.tagFrom bound parent
    | none, none => none

def tag? (m : Memory) (r : Ref) : Option String := m.tagFrom (m.heap.size + 1) r

/-- Whether `target` is among the first objects of the chain that starts at an object. -/
def chainMeets (m : Memory) (target : Ref) : Nat → Ref → Bool
  | 0, _ => false
  | bound + 1, r =>
    r = target ||
      match (m.object r).prototype with
      | some parent => m.chainMeets target bound parent
      | none => false

def cell (m : Memory) (id : CellId) : Cell := m.cells.getD id.index ⟨none, false⟩

def lexical? (m : Memory) (name : String) : Option CellId := m.lexicals.lookup name

end Memory

namespace Run

/-- Makes an object. -/
def alloc (o : Object) : Run Ref :=
  revise fun m =>
    match m with
    | ⟨heap, cells, lexicals, symbols⟩ => (⟨heap.size⟩, ⟨heap.push o, cells, lexicals, symbols⟩)

def object (r : Ref) : Run Object := ask (·.object r)

def updateObject (r : Ref) (f : Object → Object) : Run Unit :=
  revise fun m =>
    match m with
    | ⟨heap, cells, lexicals, symbols⟩ => ((), ⟨heap.modify r.index f, cells, lexicals, symbols⟩)

/-- Puts a property straight onto an object. -/
def putOwn (r : Ref) (key : Units) (p : Property) : Run Unit := updateObject r (·.put key p)

/-- Makes a variable. -/
def newCell (value : Option Value) (constant : Bool) : Run CellId :=
  revise fun m =>
    match m with
    | ⟨heap, cells, lexicals, symbols⟩ =>
      (⟨cells.size⟩, ⟨heap, cells.push ⟨value, constant⟩, lexicals, symbols⟩)

def cell (id : CellId) : Run Cell := ask (·.cell id)

/-- Gives a variable a value, whatever it is. -/
def fillCell (id : CellId) (value : Value) : Run Unit :=
  revise fun m =>
    match m with
    | ⟨heap, cells, lexicals, symbols⟩ =>
      ((), ⟨heap, cells.modify id.index fun c => { c with value := some value }, lexicals, symbols⟩)

/-- Declares a variable of the global scope. -/
def declareLexical (name : String) (id : CellId) : Run Unit :=
  revise fun m => ((), { m with lexicals := (name, id) :: m.lexicals })

/-- Makes a symbol. -/
def newSymbol (description : Option Units) : Run Value :=
  revise fun m => (.symbol m.symbols description, { m with symbols := m.symbols + 1 })

/-- The object behind a place that every realm has. -/
def intrinsic (i : Intrinsic) : Value := .object i.ref

/-- Makes a plain object. -/
def newObject (properties : List (Units × Property)) : Run Ref :=
  alloc ⟨some (Intrinsic.ref .objectPrototype), properties, .plain, none⟩

/-- A list with the given elements, of which some may be missing. -/
def arrayObject (elements : List (Option Value)) : Object where
  prototype := some (Intrinsic.ref .arrayPrototype)
  properties := elements.zipIdx.filterMap fun (e, i) => e.map fun v => (.ofNat i, .plain v)
  role := .array elements.length true
  tag := none

def newArray (elements : List (Option Value)) : Run Ref := alloc (arrayObject elements)

/-- The key of an error object's message. -/
def messageKey : Units := "message"

/-- The key of an error object's stack. -/
def stackKey : Units := "stack"

/-- The stack of an error object that was thrown by guest code. -/
def guestStack : Units := "    at <guest>\n"

/-- Makes an error object. -/
def newError (c : ErrorClass) (message : Units) : Run Value := do
  return .object (← alloc
    ⟨some (Intrinsic.ref (.errorPrototype c)), [(messageKey, .hidden (.text message))], .error, none⟩)

/-- Throws the error object of a fault. -/
def throwFault (f : Fault) : Run α := do
  fail (← newError f.errorClass f.message)

/-- The object for a primitive of a type. A text's object has its length for a property. -/
def boxOf (p : Primitive) (v : Value) : Object where
  prototype := some (Intrinsic.ref (.primitivePrototype p))
  properties :=
    match v with
    | .text t => [(Object.lengthKey, .fixed (.ofNat t.length))]
    | _ => []
  role := .boxed v
  tag := none

/-- The object that a value is, or one made for it. -/
def toObject (v : Value) : Run Ref :=
  match v with
  | .object r => return r
  | v =>
    match v.primitive? with
    | some p => alloc (boxOf p v)
    | none => throwFault .nullAsObject

/-- Gives an error object a stack if it has none of its own. -/
def addStack : Value → Run Unit
  | .object r => do
    let o ← object r
    if o.isError && (o.own? stackKey).isNone then putOwn r stackKey (.hidden (.text guestStack))
  | _ => return ()

/-- A run of guest code: what it throws is given a stack. -/
def traced (x : Run α) : Run α :=
  x.recover fun e => do
    addStack e
    fail e

end Run

/-- Calls a function: the callee, its receiver and the arguments. -/
abbrev Call := Value → Value → List Value → Run Value

end ScriptedScene.Guest
