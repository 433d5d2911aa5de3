import ScriptedScene.Json.Writer
import ScriptedScene.Text.Quoted

/-!
The wording of JSON faults.
-/

namespace ScriptedScene.Json

def Malformed.message : Malformed → String
  | expectedValue => "expected value"
  | expectedIdent => "expected ident"
  | expectedColon => "expected \x60:\x60"
  | expectedListCommaOrEnd => "expected \x60,\x60 or \x60]\x60"
  | expectedObjectCommaOrEnd => "expected \x60,\x60 or \x60\x7d\x60"
  | trailingComma => "trailing comma"
  | trailingCharacters => "trailing characters"
  | keyMustBeString => "key must be a string"
  | invalidNumber => "invalid number"
  | numberOutOfRange => "number out of range"
  | invalidEscape => "invalid escape"
  | controlCharacter => "control character (\\u0000-\\u001F) found while parsing a string"
  | loneLeadingSurrogate => "lone leading surrogate in hex escape"
  | unexpectedEndOfHexEscape => "unexpected end of hex escape"

def Unfinished.message : Unfinished → String
  | value => "EOF while parsing a value"
  | object => "EOF while parsing an object"
  | list => "EOF while parsing a list"
  | string => "EOF while parsing a string"

/-- A text in grave accents. -/
def ticked (s : String) : String := "\x60" ++ s ++ "\x60"

def Found.message : Found → String
  | null => "null"
  | boolean b => "boolean " ++ ticked (Json.boolean b)
  | integer i => "integer " ++ ticked (toString i)
  | float x => "floating point " ++ ticked (NumberStyle.json64.write x)
  | string s => "string " ++ Text.quoted s
  | sequence => "sequence"
  | map => "map"

def Mismatch.message : Mismatch → String
  | invalidType found expected => "invalid type: " ++ found.message ++ ", expected " ++ expected
  | invalidValue found expected => "invalid value: " ++ found.message ++ ", expected " ++ expected
  | invalidLength length expected => "invalid length " ++ toString length ++ ", expected " ++ expected
  | duplicateField name => "duplicate field " ++ ticked name
  | missingField name => "missing field " ++ ticked name
  | unknownVariant name variants =>
    "unknown variant " ++ ticked name ++ ", expected one of " ++ ", ".intercalate (variants.map ticked)

namespace Fault

def message : Fault → String
  | malformed m => m.message
  | unfinished u => u.message
  | mismatch m => m.message

/-- Which of the three classes a fault belongs to. -/
def category : Fault → String
  | malformed _ => "syntax"
  | unfinished _ => "eof"
  | mismatch _ => "data"

end Fault

end ScriptedScene.Json
