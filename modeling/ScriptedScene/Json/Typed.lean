import ScriptedScene.Json.Number

/-!
Reading JSON text into a wanted type. A record is read from an object, in any order of its fields and
with unknown ones skipped, or from a list of its fields in order.
-/

namespace ScriptedScene.Json.Reader

/-- What stands next in place of a wanted value. A scalar is read to its end, so a fault inside it
comes first. -/
def found : Reader Found := do
  match ← peek? with
  | none => unfinished .value
  | some c =>
    if c == 'n' then advance; ident "ull".toList; return .null
    else if c == 't' then advance; ident "rue".toList; return .boolean true
    else if c == 'f' then advance; ident "alse".toList; return .boolean false
    else if c == '-' then advance; return (← number true).found
    else if c.isDigit then return (← number false).found
    else if c == '"' then advance; return .string (← string)
    else if c == '[' then return .sequence
    else if c == '\x7b' then return .map
    else malformed .expectedValue

/-- Faults with what stands next, in place of what was expected. -/
def unexpected (expected : String) : Reader α := do
  mismatch (.invalidType (← found) expected)

/-- A string; `expected` says what for. -/
def text (expected : String) : Reader String := do
  match ← peek? with
  | some '"' =>
    advance
    string
  | _ => unexpected expected

def boolean : Reader Bool := do
  match ← peek? with
  | some 't' =>
    advance
    ident "rue".toList
    return true
  | some 'f' =>
    advance
    ident "alse".toList
    return false
  | _ => unexpected "a boolean"

/-- A number of any kind; `expected` says what for. -/
def numeral (expected : String) : Reader Number := do
  match ← peek? with
  | some c =>
    if c == '-' then advance; number true
    else if c.isDigit then number false
    else unexpected expected
  | none => unfinished .value

/-- A whole number from zero up to below `bound`. -/
def natural (bound : Nat) (expected : String) : Reader Nat := do
  match ← numeral expected with
  | .whole i =>
    if 0 ≤ i && i < bound then return i.toNat
    else mismatch (.invalidValue (.integer i) expected)
  | .binary x => mismatch (.invalidType (.float x) expected)

/-- A number as the nearest 32-bit value. -/
def binary32 : Reader Binary32 := do
  match ← numeral "f32" with
  | .whole i => return .ofInt i
  | .binary x => return x.narrow

/-- Nothing, written `null`, or a value. -/
def optional (value : Reader α) : Reader (Option α) := do
  match ← peek? with
  | some 'n' =>
    advance
    ident "ull".toList
    return none
  | _ => return some (← value)

/-! ## Lists -/

/-- Moves to the next element of a list, if there is one. -/
def nextElement (first : Bool) : Reader Bool := do
  match ← peek? with
  | none => unfinished .list
  | some ']' => return false
  | some c =>
    if first then return true
    else if c == ',' then
      advance
      match ← peek? with
      | none => unfinished .value
      | some ']' => malformed .trailingComma
      | some _ => return true
    else malformed .expectedListCommaOrEnd

/-- The next element of a list, if there is one. -/
def element? (first : Bool) (value : Reader α) : Reader (Option α) := do
  if ← nextElement first then return some (← value) else return none

/-- The end of a list whose wanted elements have been read. -/
def listEnd : Reader Unit := do
  match ← peek? with
  | none => unfinished .list
  | some ']' => advance
  | some ',' =>
    advance
    match ← peek? with
    | some ']' => malformed .trailingComma
    | _ => malformed .trailingCharacters
  | some _ => malformed .trailingCharacters

/-! ## Objects -/

/-- The next key of an object, if there is one. -/
def key? (first : Bool) : Reader (Option String) := do
  match ← peek? with
  | none => unfinished .object
  | some c =>
    if c == '\x7d' then return none
    else if first then
      if c == '"' then
        advance
        return some (← string)
      else malformed .keyMustBeString
    else if c == ',' then
      advance
      match ← peek? with
      | none => unfinished .value
      | some '"' =>
        advance
        return some (← string)
      | some '\x7d' => malformed .trailingComma
      | some _ => malformed .keyMustBeString
    else malformed .expectedObjectCommaOrEnd

def colon : Reader Unit := do
  match ← peek? with
  | none => unfinished .object
  | some ':' => advance
  | some _ => malformed .expectedColon

/-- The value of a field, which must not have been given before. -/
def fieldValue (name : String) (given : Option α) (value : Reader α) : Reader (Option α) := do
  if given.isSome then mismatch (.duplicateField name)
  colon
  return some (← value)

/-- A field nobody asked for. -/
def skipField : Reader Unit := do
  colon
  skipValue

/-- The members of an object in turn, each handed to `field` with what has been read so far, in at
most `fuel` steps. -/
def membersFrom (field : String → σ → Reader σ) : Nat → (first : Bool) → σ → Reader σ
  | 0, _, _ => unfinished .object
  | fuel + 1, first, read => do
    match ← key? first with
    | none => return read
    | some name => membersFrom field fuel false (← field name read)

/-- All members of an object. Each step takes a character, so as many steps as characters suffice. -/
def members (field : String → σ → Reader σ) (start : σ) : Reader σ := fun cs =>
  membersFrom field (cs.length + 1) true start cs

/-- The end of an object whose members have been read. -/
def objectEnd : Reader Unit := do
  match ← peek? with
  | none => unfinished .object
  | some '\x7d' => advance
  | some ',' => malformed .trailingComma
  | some _ => malformed .trailingCharacters

/-- A record in either of its two forms. -/
def record (expected : String) (fromMembers fromElements : Reader α) : Reader α := do
  match ← peek? with
  | some '\x7b' =>
    advance
    let a ← fromMembers
    objectEnd
    return a
  | some '[' =>
    advance
    let a ← fromElements
    listEnd
    return a
  | _ => unexpected expected

/-- The whole of a text as one value. -/
def run (value : Reader α) (text : String) : Except Fault α :=
  match value text.toList with
  | .error fault => .error fault
  | .ok (a, rest) =>
    if rest.all isSpace then .ok a else .error (.malformed .trailingCharacters)

end ScriptedScene.Json.Reader
