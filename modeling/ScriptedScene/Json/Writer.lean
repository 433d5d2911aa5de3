import ScriptedScene.Json.Fault

/-!
Writing JSON text: strings, numbers and the wording of faults.
-/

namespace ScriptedScene

/-- Numbers of 32 bits in JSON text. -/
def NumberStyle.json32 : NumberStyle where
  selection := .nearestEven
  positional := some (-5, 13)
  keepsPoint := true
  signsExponent := true
  signsZero := true
  nan := "null"
  infinity := "null"

/-- Numbers of 64 bits in JSON text. -/
def NumberStyle.json64 : NumberStyle := { NumberStyle.json32 with positional := some (-4, 16) }

namespace Json

/-- A digit of base sixteen. -/
def lowerHexDigit (n : Nat) : Char := if n < 10 then Char.ofNat (48 + n) else Char.ofNat (87 + n)

/-- How a character stands inside a JSON string. -/
def escapedChar (c : Char) : List Char :=
  if c == '"' || c == '\\' then ['\\', c]
  else if c == '\x08' then ['\\', 'b']
  else if c == '\x0c' then ['\\', 'f']
  else if c == '\n' then ['\\', 'n']
  else if c == '\r' then ['\\', 'r']
  else if c == '\t' then ['\\', 't']
  else if c < ' ' then ['\\', 'u', '0', '0', lowerHexDigit (c.toNat / 16), lowerHexDigit (c.toNat % 16)]
  else [c]

/-- A JSON string. -/
def quote (s : String) : String := String.ofList ('"' :: s.toList.flatMap escapedChar ++ ['"'])

/-- A 32-bit number; JSON has no word for one that is not finite. -/
def number32 (x : Binary32) : String := if x.isFinite then NumberStyle.json32.write x else "null"

/-- The members of an object, given as keys and written values. -/
def object (members : List (String × String)) : String :=
  "\x7b" ++ ",".intercalate (members.map fun (key, value) => quote key ++ ":" ++ value) ++ "\x7d"

def list (elements : List String) : String := "[" ++ ",".intercalate elements ++ "]"

def null : String := "null"

def optional (write : α → String) : Option α → String
  | none => null
  | some a => write a

def boolean (b : Bool) : String := if b then "true" else "false"

end Json

end ScriptedScene
