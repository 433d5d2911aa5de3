import ScriptedScene.Decimal.Style

/-!
What can be wrong with a JSON text that is read straight into a type. Reading is one pass from left to
right, so a fault is the first thing met: the text is malformed there, it ends too early, or the value
is not of the type wanted.
-/

namespace ScriptedScene.Json

/-- A place where the text is not JSON. -/
inductive Malformed where
  | expectedValue
  | expectedIdent
  | expectedColon
  | expectedListCommaOrEnd
  | expectedObjectCommaOrEnd
  | trailingComma
  | trailingCharacters
  | keyMustBeString
  | invalidNumber
  | numberOutOfRange
  | invalidEscape
  | controlCharacter
  | loneLeadingSurrogate
  | unexpectedEndOfHexEscape
  deriving DecidableEq, Repr

/-- What the text ends inside of. -/
inductive Unfinished where
  | value
  | object
  | list
  | string
  deriving DecidableEq, Repr

/-- The kind of value met where another was wanted. -/
inductive Found where
  | null
  | boolean (b : Bool)
  | integer (i : Int)
  | float (x : Binary64)
  | string (s : String)
  | sequence
  | map
  deriving DecidableEq, Repr

/-- A value that is JSON but not of the type wanted. -/
inductive Mismatch where
  | invalidType (found : Found) (expected : String)
  | invalidValue (found : Found) (expected : String)
  | invalidLength (length : Nat) (expected : String)
  | duplicateField (name : String)
  | missingField (name : String)
  | unknownVariant (name : String) (variants : List String)
  deriving DecidableEq, Repr

/-- The first problem of a text. -/
inductive Fault where
  | malformed (m : Malformed)
  | unfinished (u : Unfinished)
  | mismatch (m : Mismatch)
  deriving DecidableEq, Repr

end ScriptedScene.Json
