import ScriptedScene.Json.Fault

/-!
Reading JSON text from left to right. A reader takes the characters that are left and either faults or
gives a value and the characters after it. Strings and numbers are read here; a value nobody asked for
is skipped, which checks its grammar but no more.
-/

namespace ScriptedScene.Json

/-- Reads a value from the front of the characters that are left. -/
abbrev Reader (α : Type) := StateT (List Char) (Except Fault) α

namespace Reader

def malformed (m : Malformed) : Reader α := throw (.malformed m)

def unfinished (u : Unfinished) : Reader α := throw (.unfinished u)

def mismatch (m : Mismatch) : Reader α := throw (.mismatch m)

/-- The blanks that may stand between tokens. -/
def isSpace (c : Char) : Bool := c == ' ' || c == '\n' || c == '\t' || c == '\r'

/-- The next character, left in place. -/
def next? : Reader (Option Char) := fun cs => .ok (cs.head?, cs)

/-- The next character that is no blank, left in place. -/
def peek? : Reader (Option Char) := fun cs =>
  let rest := cs.dropWhile isSpace
  .ok (rest.head?, rest)

/-- Drops the next character. -/
def advance : Reader Unit := fun cs => .ok ((), cs.tail)

/-- Takes the next character; the text must not end here. -/
def take (inside : Unfinished) : Reader Char := fun
  | [] => .error (.unfinished inside)
  | c :: rest => .ok (c, rest)

/-- The run of digits that stands next. -/
def digits : Reader (List Char) := fun cs => .ok (cs.takeWhile Char.isDigit, cs.dropWhile Char.isDigit)

/-- The rest of a name such as `null`, whose first letter has been taken. -/
def ident : List Char → Reader Unit
  | [] => pure ()
  | expected :: more => do
    let c ← take .value
    if c == expected then ident more else malformed .expectedIdent

/-! ## Strings -/

/-- The value of a hexadecimal digit. -/
def hexDigit? (c : Char) : Option Nat :=
  if c.isDigit then some (c.toNat - '0'.toNat)
  else if 'a' ≤ c && c ≤ 'f' then some (c.toNat - 'a'.toNat + 10)
  else if 'A' ≤ c && c ≤ 'F' then some (c.toNat - 'A'.toNat + 10)
  else none

/-- The four digits after `\u`. The text is unfinished only if fewer than four bytes are left. -/
def hexEscape : Reader Nat := fun cs =>
  if (cs.take 4).foldl (fun n c => n + c.utf8Size) 0 < 4 then .error (.unfinished .string)
  else
    match cs with
    | a :: b :: c :: d :: rest =>
      match hexDigit? a, hexDigit? b, hexDigit? c, hexDigit? d with
      | some a, some b, some c, some d => .ok (((a * 16 + b) * 16 + c) * 16 + d, rest)
      | _, _, _, _ => .error (.malformed .invalidEscape)
    | _ => .error (.malformed .invalidEscape)

/-- The character that one letter after a backslash stands for. -/
def shortEscape? (c : Char) : Option Char :=
  if c == '"' || c == '\\' || c == '/' then some c
  else if c == 'b' then some '\x08'
  else if c == 'f' then some '\x0c'
  else if c == 'n' then some '\n'
  else if c == 'r' then some '\r'
  else if c == 't' then some '\t'
  else none

/-- The character of a hexadecimal escape whose digits give `unit`; a leading surrogate has to be
followed by the escape of a trailing one. -/
def surrogateEscape (unit : Nat) : Reader Char := do
  if 0xDC00 ≤ unit && unit ≤ 0xDFFF then malformed .loneLeadingSurrogate
  else if unit < 0xD800 || 0xDFFF < unit then return Char.ofNat unit
  else
    let slash ← take .string
    if slash != '\\' then malformed .unexpectedEndOfHexEscape
    let mark ← take .string
    if mark != 'u' then malformed .unexpectedEndOfHexEscape
    let trail ← hexEscape
    if trail < 0xDC00 || 0xDFFF < trail then malformed .loneLeadingSurrogate
    return Char.ofNat (0x10000 + (unit - 0xD800) * 0x400 + (trail - 0xDC00))

/-- The character that an escape stands for, its backslash taken. -/
def escape : Reader Char := do
  let c ← take .string
  if c == 'u' then surrogateEscape (← hexEscape)
  else
    match shortEscape? c with
    | some c => return c
    | none => malformed .invalidEscape

/-- An escape in a string that nobody asked for: a hexadecimal one need not stand for a character. -/
def skipEscape : Reader Unit := do
  let c ← take .string
  if c == 'u' then discard hexEscape
  else if (shortEscape? c).isNone then malformed .invalidEscape

/-- The characters of a string up to its closing quote, read in at most `fuel` steps. -/
def stringBody : Nat → List Char → Reader String
  | 0, _ => unfinished .string
  | fuel + 1, read => do
    let c ← take .string
    if c == '"' then return String.ofList read.reverse
    else if c == '\\' then stringBody fuel ((← escape) :: read)
    else if c < ' ' then malformed .controlCharacter
    else stringBody fuel (c :: read)

/-- A string whose opening quote has been taken. Each step takes a character, so as many steps as
characters suffice. -/
def string : Reader String := fun cs => stringBody (cs.length + 1) [] cs

/-- Passes over the characters of a string up to its closing quote. -/
def skipStringBody : Nat → Reader Unit
  | 0 => unfinished .string
  | fuel + 1 => do
    let c ← take .string
    if c == '"' then return
    else if c == '\\' then
      skipEscape
      skipStringBody fuel
    else if c < ' ' then malformed .controlCharacter
    else skipStringBody fuel

/-- A string that nobody asked for, its opening quote taken. -/
def skipString : Reader Unit := fun cs => skipStringBody (cs.length + 1) cs

/-! ## Values that nobody asked for -/

/-- The exponent of a skipped number, its mark still to be taken. -/
def skipExponent : Reader Unit := do
  advance
  match ← next? with
  | some '+' | some '-' => advance
  | _ => pure ()
  if (← digits).isEmpty then malformed .invalidNumber

/-- An exponent, if a mark for one stands next. -/
def skipExponentPart : Reader Unit := do
  match ← next? with
  | some 'e' | some 'E' => skipExponent
  | _ => pure ()

/-- A skipped number without its minus. -/
def skipNumber : Reader Unit := do
  match ← digits with
  | [] => malformed .invalidNumber
  | '0' :: _ :: _ => malformed .invalidNumber
  | _ => pure ()
  match ← next? with
  | some '.' =>
    advance
    if (← digits).isEmpty then malformed .invalidNumber
    skipExponentPart
  | _ => skipExponentPart

/-- What a skipped value is nested in. -/
inductive Enclosure where
  | list
  | object
  deriving DecidableEq, Repr

/-- A skipped value that holds no others, or the opening bracket of one that does. -/
def skipToken : Reader (Option Enclosure) := do
  match ← peek? with
  | none => unfinished .value
  | some c =>
    if c == '[' then advance; return some .list
    else if c == '\x7b' then advance; return some .object
    else if c == '"' then advance; skipString; return none
    else if c == 'n' then advance; ident "ull".toList; return none
    else if c == 't' then advance; ident "rue".toList; return none
    else if c == 'f' then advance; ident "alse".toList; return none
    else if c == '-' then advance; skipNumber; return none
    else if c.isDigit then skipNumber; return none
    else malformed .expectedValue

/-- A key and its colon inside a skipped object. -/
def skipKey : Reader Unit := do
  match ← peek? with
  | none => unfinished .object
  | some '"' =>
    advance
    skipString
  | some _ => malformed .keyMustBeString
  match ← peek? with
  | none => unfinished .object
  | some ':' => advance
  | some _ => malformed .expectedColon

/-- Before the next member of a skipped list or object. -/
def enter : Enclosure → Reader Unit
  | .list => pure ()
  | .object => skipKey

/-- After a value or an opening bracket, with the open enclosures innermost first: closes what ends
here. Gives the enclosures still open, in the innermost of which another value follows. -/
def closeAll : (afterValue : Bool) → List Enclosure → Reader (List Enclosure)
  | _, [] => return []
  | afterValue, inner :: outer => do
    match ← peek? with
    | none => unfinished (match inner with | .list => .list | .object => .object)
    | some c =>
      if c == ',' && afterValue then
        advance
        return inner :: outer
      else if (c == ']' && inner == .list) || (c == '\x7d' && inner == .object) then
        advance
        closeAll true outer
      else if afterValue then
        malformed (match inner with
          | .list => .expectedListCommaOrEnd
          | .object => .expectedObjectCommaOrEnd)
      else return inner :: outer

/-- Passes over values until every enclosure is closed, in at most `fuel` steps. -/
def skipValues : Nat → List Enclosure → Reader Unit
  | 0, _ => unfinished .value
  | fuel + 1, enclosures => do
    let enclosures ←
      match ← skipToken with
      | none => closeAll true enclosures
      | some opened => closeAll false (opened :: enclosures)
    match enclosures with
    | [] => return
    | inner :: _ =>
      enter inner
      skipValues fuel enclosures

/-- Passes over one value of any nesting depth. Each step takes a character, so as many steps as
characters suffice. -/
def skipValue : Reader Unit := fun cs => skipValues (cs.length + 1) [] cs

end Reader

end ScriptedScene.Json
