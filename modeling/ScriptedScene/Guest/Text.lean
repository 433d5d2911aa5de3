import ScriptedScene.Guest.Fault

/-!
Program text. Only the plainest statements can be written as text: throwing, declaring and assigning numbers,
quoted texts, names and sums of them. All else is given as syntax.
-/

namespace ScriptedScene.Guest.Text

inductive Token where
  | number (x : Binary64)
  | quoted (t : Units)
  | word (s : String)
  | mark (c : Char)
  deriving DecidableEq, Repr

/-- How a token stands in a text. -/
def Token.shown : Token → String
  | number x => NumberStyle.guest.write x
  | quoted _ => "string"
  | word s => s
  | mark c => c.toString

/-- Whether a character separates tokens and is none. -/
def isGap (c : Char) : Bool := c.toNat < 0x10000 && Units.isBlank c.toNat.toUInt16

/-- Whether a character may stand in a name or a number. -/
def isWordChar (c : Char) : Bool :=
  c.isAlphanum || c == '_' || c == '$' || c == '.' || (0x80 ≤ c.toNat && !isGap c)

/-- A run of word characters as a token. -/
def ofRun (cs : List Char) : Token :=
  match cs with
  | c :: _ =>
    if c.isDigit || c == '.' then
      match Decimal.read? cs with
      | some d => .number (d.toBinary false)
      | none => .word (String.ofList cs)
    else .word (String.ofList cs)
  | [] => .word ""

/-- The tokens of a text, with at most as many steps as given. -/
def scanFrom : Nat → List Char → Except TextFault (List Token)
  | 0, _ => .ok []
  | _, [] => .ok []
  | bound + 1, c :: rest =>
    if isGap c then scanFrom bound rest
    else if c == '/' && rest.head? == some '/' then
      scanFrom bound (rest.dropWhile fun c => !(c == '\n' || c == '\r' || c == '\u2028' || c == '\u2029'))
    else if c == '"' || c == '\'' then
      let body := rest.takeWhile (· != c)
      match rest.dropWhile (· != c) with
      | [] => .error .unterminatedString
      | _ :: rest =>
        if body.contains '\n' then .error .unterminatedString
        else (scanFrom bound rest).map (.quoted (.ofString (String.ofList body)) :: ·)
    else if isWordChar c then
      (scanFrom bound (rest.dropWhile isWordChar)).map (ofRun (c :: rest.takeWhile isWordChar) :: ·)
    else (scanFrom bound rest).map (.mark c :: ·)

def scan (s : String) : Except TextFault (List Token) := scanFrom s.length s.toList

/-- The expression that a token is, if it is one by itself. -/
def simple : List Token → Except TextFault (Expr × List Token)
  | .number x :: rest => .ok (.number x, rest)
  | .quoted t :: rest => .ok (.text t, rest)
  | .word s :: rest => .ok (Expr.path s, rest)
  | t :: _ => .error (.unexpectedToken t.shown)
  | [] => .error (.unexpectedToken "")

/-- The rest of a sum, given the terms before it. -/
def sumFrom : Nat → Expr → List Token → Except TextFault (Expr × List Token)
  | bound + 1, e, .mark '+' :: rest =>
    match simple rest with
    | .error f => .error f
    | .ok (term, rest) => sumFrom bound (.operation .add e term) rest
  | _, e, rest => .ok (e, rest)

/-- An expression: an assignment to a name, or a sum. -/
def expression : Nat → List Token → Except TextFault (Expr × List Token)
  | bound + 1, .word n :: .mark '=' :: rest =>
    (expression bound rest).map fun (e, rest) => (.assign (.name n) e, rest)
  | bound, tokens =>
    match simple tokens with
    | .error f => .error f
    | .ok (e, rest) => sumFrom bound e rest

/-- A declaration of a kind, after the word for it. -/
def declaration (bound : Nat) (kind : DeclarationKind) : List Token → Except TextFault (Stmt × List Token)
  | .word n :: .mark '=' :: rest =>
    (expression bound rest).map fun (e, rest) => (.declaration kind n e, rest)
  | .word n :: rest =>
    if kind = .constant then .error .missingInitializer
    else .ok (.declaration kind n Expr.undefined, rest)
  | t :: _ => .error (.unexpectedToken t.shown)
  | [] => .error (.unexpectedToken "")

/-- The statement at the start, which is not empty. -/
def statement (bound : Nat) : List Token → Except TextFault (Stmt × List Token)
  | .word "function" :: _ => .error .functionName
  | .word "throw" :: rest => (expression bound rest).map fun (e, rest) => (.throwing e, rest)
  | .word "const" :: rest => declaration bound .constant rest
  | .word "let" :: rest => declaration bound .scoped rest
  | .word "var" :: rest => declaration bound .hoisted rest
  | tokens => (expression bound tokens).map fun (e, rest) => (.expression e, rest)

/-- The statements of a text, with at most as many steps as given. -/
def statements : Nat → List Token → Except TextFault Program
  | 0, _ => .ok []
  | _, [] => .ok []
  | bound + 1, .mark ';' :: rest => statements bound rest
  | bound + 1, tokens =>
    match statement (bound + 1) tokens with
    | .error f => .error f
    | .ok (s, rest) => (statements bound rest).map (s :: ·)

/-- The program that a text is. -/
def program (s : String) : Except TextFault Program :=
  match scan s with
  | .error f => .error f
  | .ok tokens => statements tokens.length tokens

end ScriptedScene.Guest.Text
