import ScriptedScene.Guest.Coerce

/-!
Changing the properties of values: writing, defining and deleting them. A definition says what a property is to
be, and fails where that is not allowed; writing keeps what it does not concern, and outside of strict code it
does nothing where it is not allowed. A list keeps its length above its elements, and a typed array keeps what
fits its type.
-/

namespace ScriptedScene.Guest

namespace ElementType

/-- The whole number nearest to a value from below or above, a tie going to the even one; what is not a number
is zero. -/
def nearest (x : Binary64) : Int :=
  match x.datum with
  | .finite negative significand exponent =>
    let size := roundHalfEven (significand * twoTo exponent.toNat) (twoTo (-exponent).toNat)
    if negative then -size else size
  | .infinite negative => if negative then -1 else 256
  | .nan => 0

/-- A number as a whole one of so many bits, without its fraction and without what is above the bits. -/
def wrapped (bits : Nat) (x : Binary64) : Nat := ((x.truncate?.getD 0) % (twoTo bits : Int)).toNat

/-- A whole number of so many bits as one with a sign. -/
def signed (bits : Nat) (n : Nat) : Value :=
  .ofInt (if n < twoTo (bits - 1) then n else (n : Int) - twoTo bits)

/-- A number as an element of a type. -/
def element (t : ElementType) (x : Binary64) : Value :=
  match t with
  | int8 => signed 8 (wrapped 8 x)
  | uint8 => .ofNat (wrapped 8 x)
  | clamped8 => .ofInt (max 0 (min 255 (nearest x)))
  | int16 => signed 16 (wrapped 16 x)
  | uint16 => .ofNat (wrapped 16 x)
  | int32 => signed 32 (wrapped 32 x)
  | uint32 => .ofNat (wrapped 32 x)
  | float32 => .number x.narrow.widen
  | float64 => .number x

end ElementType

namespace Run

/-- Throws in strict code; elsewhere what cannot be done is not done. -/
def refuse (strict : Bool) (f : Fault) : Run Unit := if strict then throwFault f else return ()

/-- Calls the setter of a property. -/
def callSetter (call : Call) (strict : Bool) (receiver value : Value) : Option Ref → Run Unit
  | some setter => do
    let _ ← call (.object setter) receiver [value]
  | none => refuse strict .noSetter

/-- The length that a number gives a list. -/
def lengthOfNumber (x : Binary64) : Run Nat :=
  match x.toInt? with
  | some i => if 0 ≤ i && i < 4294967296 then return i.toNat else throwFault .invalidLength
  | none => if x.isZero then return 0 else throwFault .invalidLength

/-- The length that a value gives a list. What is no number is converted twice, and the whole number that comes
of it first has to be the number that comes of it then. -/
def lengthFor (call : Call) (v : Value) : Run Nat := do
  match v with
  | .null => return 0
  | .boolean b => return if b then 1 else 0
  | .bigint i => if 0 ≤ i && i < 4294967296 then return i.toNat else throwFault .invalidLength
  | .integer i => lengthOfNumber (.ofInt i.toInt)
  | .number x => lengthOfNumber x
  | v =>
    let whole := ElementType.wrapped 32 (← toNumber call v)
    let n ← lengthOfNumber (← toNumber call v)
    if n = whole then return n else throwFault .invalidLength

/-- Gives a list a new length. Elements past it go, from the last on, up to one that has to stay. -/
def setLength (strict : Bool) (r : Ref) (n : Nat) : Run Unit := do
  let o ← object r
  match o.role with
  | .array _ true =>
    let least := o.leastLength n
    updateObject r (·.withLength least true)
    if n < least then refuse strict .elementNotConfigurable
  | _ => refuse strict (.readOnly Object.lengthKey)

/-- Whether a key is the one under which a list has its length. -/
def isLengthOf (o : Object) (key : Units) : Bool :=
  match o.role with
  | .array _ _ => key = Object.lengthKey
  | _ => false

/-- A value as an object keeps it under a key. -/
def storedIn (call : Call) (o : Object) (key : Units) (v : Value) : Run Value :=
  match o.role with
  | .typedArray t _ => if key.isNumeric then do return t.element (← toNumber call v) else return v
  | _ => return v

/-- Adds a property to an object that has none of the key. -/
def addOn (strict : Bool) (r : Ref) (key : Units) (value : Value) : Run Unit := do
  if (← object r).isFull key then refuse strict (.readOnly Object.lengthKey)
  else putOwn r key (.plain value)

/-- Writes a property that an object has. -/
def overwrite (call : Call) (strict : Bool) (r : Ref) (key : Units) (value : Value) (o : Object)
    (p : Property) : Run Unit := do
  if isLengthOf o key then setLength strict r (← lengthFor call value)
  else
    match p.contents with
    | .data _ true => putOwn r key { p with contents := .data (← storedIn call o key value) true }
    | .data _ false => refuse strict (.readOnly key)
    | .shared id => fillCell id value
    | .accessor _ setter => callSetter call strict (.object r) value setter

/-- Writes a property of an object. What the object has itself is changed where it is; what it inherits may
forbid the writing or take it over. -/
def setOn (call : Call) (strict : Bool) (r : Ref) (key : Units) (value : Value) : Run Unit := do
  let o ← object r
  match o.own? key with
  | some p => overwrite call strict r key value o p
  | none =>
    if o.isFinal key then
      let _ ← toNumber call value
      refuse strict .writtenOutOfBounds
    else
      match ← ask (·.find? r key) with
      | some ⟨.data _ false, _, _⟩ => refuse strict (.readOnly key)
      | some ⟨.accessor _ setter, _, _⟩ => callSetter call strict (.object r) value setter
      | _ => addOn strict r key value

/-- Writes a property of any value. Nothing can be added to a primitive. -/
def set (call : Call) (strict : Bool) (base : Value) (key : Units) (value : Value) : Run Unit :=
  match base with
  | .object r => setOn call strict r key value
  | _ =>
    match base.prototypeOf? with
    | none => throwFault (.noPropertyToWrite key base.nullishName)
    | some i => do
      match ← ask (·.find? i.ref key) with
      | some ⟨.data _ false, _, _⟩ => refuse strict (.readOnly key)
      | some ⟨.accessor _ setter, _, _⟩ => callSetter call strict base value setter
      | _ => refuse strict .notObject

/-- Takes away a property of an object, if it may be taken away. -/
def deleteOn (strict : Bool) (r : Ref) (key : Units) : Run Bool := do
  match (← object r).own? key with
  | none => return true
  | some p =>
    if p.configurable then
      updateObject r (·.remove key)
      return true
    else
      refuse strict .cannotDelete
      return false

/-- Gives an object another prototype, unless the chain would close on itself. -/
def setPrototype (r : Ref) (prototype : Option Ref) : Run Unit := do
  let circular ← ask fun m =>
    match prototype with
    | some p => m.chainMeets r (m.heap.size + 1) p
    | none => false
  if circular then throwFault .circularPrototype
  else updateObject r fun o => { o with prototype }

/-- What a definition says of a property; what it does not say stays as it is. -/
structure Definition where
  value : Option Value
  getter : Option (Option Ref)
  setter : Option (Option Ref)
  writable : Option Bool
  enumerable : Option Bool
  configurable : Option Bool

namespace Definition

/-- Whether the definition says how the property is computed. -/
def isComputed (d : Definition) : Bool := d.getter.isSome || d.setter.isSome

/-- The property that a definition makes where there was none. -/
def property (d : Definition) : Property where
  contents :=
    if d.isComputed then .accessor d.getter.join d.setter.join
    else .data (d.value.getD .undefined) (d.writable.getD false)
  enumerable := d.enumerable.getD false
  configurable := d.configurable.getD false

/-- What a property holds as a definition changes it. A variable that is shared is so no longer once the
property cannot be written. -/
def contents (d : Definition) (m : Memory) : Contents → Contents
  | .data v w =>
    if d.isComputed then .accessor d.getter.join d.setter.join
    else .data (d.value.getD v) (d.writable.getD w)
  | .shared id =>
    if d.isComputed then .accessor d.getter.join d.setter.join
    else if d.writable = some false then .data (d.value.getD ((m.cell id).value.getD .undefined)) false
    else .shared id
  | .accessor g s =>
    if d.value.isSome || d.writable.isSome then .data (d.value.getD .undefined) (d.writable.getD false)
    else .accessor (d.getter.getD g) (d.setter.getD s)

/-- A property as a definition changes it. -/
def change (d : Definition) (m : Memory) (p : Property) : Property where
  contents := d.contents m p.contents
  enumerable := d.enumerable.getD p.enumerable
  configurable := d.configurable.getD p.configurable

/-- Whether a property that is not configurable may be described so: as it is, or as no longer writable. -/
def keepsFlags (d : Definition) (p : Property) : Bool :=
  d.configurable != some true && d.enumerable.getD p.enumerable == p.enumerable &&
    match p.contents with
    | .data _ writable => !d.isComputed && (writable || d.writable != some true)
    | .shared _ => !d.isComputed
    | .accessor _ _ => d.value.isNone && d.writable.isNone

/-- Whether a property that is not configurable may hold what the definition says: what it holds, or anything
while it is writable. -/
def keepsContents (d : Definition) : Contents → Bool
  | .data v false => d.value.all (·.alike v)
  | .data _ true | .shared _ => true
  | .accessor g s => d.getter.getD g == g && d.setter.getD s == s

/-- Whether the definition leaves an element of a typed array as all of them are. -/
def keepsElement (d : Definition) : Bool :=
  !d.isComputed && d.writable != some false && d.enumerable != some false && d.configurable != some false

end Definition

/-- Defines the length of a list. It may be fixed by that, even if it cannot be what is wanted. -/
def defineLength (call : Call) (r : Ref) (d : Definition) : Run Unit := do
  let changed ← outcome do
    match d.value with
    | some v => setLength true r (← lengthFor call v)
    | none => return ()
  if d.writable = some false then
    updateObject r fun o =>
      match o.role with
      | .array n _ => { o with role := .array n false }
      | _ => o
  match changed with
  | .ok () => return ()
  | .error e => fail e

/-- Why a typed array has no element under a numeric key. -/
def noElement (key : Units) : Fault :=
  match key.toNumber.toInt? with
  | some i => if i < 0 then .negativeElement else .outOfBounds
  | none => if key.toNumber.isZero then .negativeElement else .fractionalElement

/-- Defines an element of a typed array. -/
def defineElement (call : Call) (r : Ref) (key : Units) (d : Definition) (o : Object) : Run Unit := do
  if (o.own? key).isNone then throwFault (noElement key)
  else if d.keepsElement then
    match d.value with
    | some v => putOwn r key (.plain (← storedIn call o key v))
    | none => return ()
  else throwFault .invalidElementFlags

/-- Gives the variable that a property shares the value that a definition says. -/
def shareValue (d : Definition) : Contents → Run Unit
  | .shared id =>
    match d.value with
    | some v => fillCell id v
    | none => return ()
  | _ => return ()

/-- Defines a property of an object. One that can never change again stays as it is. -/
def define (call : Call) (r : Ref) (key : Units) (d : Definition) : Run Unit := do
  let o ← object r
  if o.isFinal key then defineElement call r key d o
  else
    match o.own? key with
    | none =>
      if o.isFull key then throwFault (.readOnly Object.lengthKey)
      else putOwn r key d.property
    | some p =>
      if !(p.configurable || d.keepsFlags p) then throwFault .notConfigurable
      else if isLengthOf o key then defineLength call r d
      else if !(p.configurable || d.keepsContents p.contents) then throwFault .notConfigurable
      else
        match p.contents, p.configurable with
        | .data _ false, false => return ()
        | contents, _ =>
          shareValue d contents
          putOwn r key (d.change (← ask id) p)

end Run

end ScriptedScene.Guest
