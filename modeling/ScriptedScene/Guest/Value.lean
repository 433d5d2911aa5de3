import ScriptedScene.Guest.Syntax

/-!
Values, and the properties that hold them. A number is kept in one of two forms, and the form can be told: what
is computed from whole numbers is kept whole, what is computed from binary values is not.
-/

namespace ScriptedScene.Guest

/-- The place of an object in the memory. -/
structure Ref where
  index : Nat
  deriving DecidableEq, Repr

/-- The place of a variable in the memory. -/
structure CellId where
  index : Nat
  deriving DecidableEq, Repr

inductive Value where
  | undefined
  | null
  | boolean (b : Bool)
  /-- A number that is kept as a whole one of 32 bits, with a sign. -/
  | integer (i : Int32)
  /-- A number that is kept as a binary value. It may be whole all the same. -/
  | number (x : Binary64)
  | bigint (i : Int)
  | text (t : Units)
  | symbol (id : Nat) (description : Option Units)
  | object (ref : Ref)
  deriving DecidableEq, Repr

instance : Inhabited Value := ⟨.undefined⟩

namespace Value

/-- The number that a value is, however it is kept. -/
def number? : Value → Option Binary64
  | integer i => some (.ofInt i.toInt)
  | number x => some x
  | _ => none

/-- Whether a whole number fits into 32 bits with a sign. -/
def fits (i : Int) : Bool := -2147483648 ≤ i && i < 2147483648

/-- A whole number, kept as one if it fits. -/
def ofInt (i : Int) : Value := if fits i then .integer (.ofInt i) else .number (.ofInt i)

def ofNat (n : Nat) : Value := ofInt n

/-- A number, kept as a whole one if it is one that fits. -/
def ofBinary (x : Binary64) : Value :=
  match x.toInt? with
  | some i => if fits i then .integer (.ofInt i) else .number x
  | none => .number x

def ofString (s : String) : Value := .text (.ofString s)

def isNullish : Value → Bool
  | undefined | null => true
  | _ => false

end Value

/-- What a property holds: a value, or the functions that read and write it. -/
inductive Contents where
  | data (value : Value) (writable : Bool)
  /-- The value of a variable, which is read and written in both places. -/
  | shared (cell : CellId)
  | accessor (getter setter : Option Ref)
  deriving DecidableEq, Repr

structure Property where
  contents : Contents
  enumerable : Bool
  configurable : Bool
  deriving DecidableEq, Repr

namespace Property

/-- A property as assignment makes it. -/
def plain (value : Value) : Property := ⟨.data value true, true, true⟩

/-- A property that is not listed among the keys. -/
def hidden (value : Value) : Property := ⟨.data value true, false, true⟩

/-- A property that cannot be changed in any way. -/
def fixed (value : Value) : Property := ⟨.data value false, false, false⟩

/-- A property that cannot be assigned to, but can be defined anew. -/
def described (value : Value) : Property := ⟨.data value false, false, true⟩

/-- A property that is computed, and not listed among the keys. -/
def computed (getter setter : Option Ref) : Property := ⟨.accessor getter setter, false, true⟩

/-- A property as a declaration of the global scope makes it. -/
def declared (value : Value) : Property := ⟨.data value true, true, false⟩

end Property

end ScriptedScene.Guest
