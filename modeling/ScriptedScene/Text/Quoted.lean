import ScriptedScene.Text.Printable

/-!
Text in reports. Quoted text is in double quotes, with quotes, backslashes and line ends escaped, and every
character that would not show as itself written by its number. Shown text is as it is, but for the controls
that a terminal acts on.
-/

namespace ScriptedScene.Text

/-- A character by its number in base sixteen. -/
def numberedChar (c : Char) : List Char :=
  "\\u\x7b".toList ++ Nat.toDigits 16 c.toNat ++ ['\x7d']

/-- How a character stands inside quotes. -/
def quotedChar (c : Char) : List Char :=
  if c == '"' || c == '\\' then ['\\', c]
  else if c == '\n' then ['\\', 'n']
  else if c == '\r' then ['\\', 'r']
  else if c == '\t' then ['\\', 't']
  else if c == '\x00' then ['\\', '0']
  else if isPrintable c then [c]
  else numberedChar c

/-- The controls that a terminal acts on, below the numbers that a byte with its high bit set has. -/
def isTerminalControl (c : Char) : Bool :=
  c == '\x07' || c == '\x08' || c == '\x0c' || c == '\x1b' || c == '\x7f'

/-- How a character stands in a line that is shown: what a terminal would act on is written by its
number, and all else, line ends among it, as it is. -/
def shownChar (c : Char) : List Char :=
  if isTerminalControl c then
    ['\\', 'x'] ++ [Nat.digitChar (c.toNat / 16), Nat.digitChar (c.toNat % 16)]
  else if 0x80 ≤ c.toNat && c.toNat ≤ 0x9F then numberedChar c
  else [c]

/-- The text without what a terminal would act on. -/
def shown (s : String) : String := String.ofList (s.toList.flatMap shownChar)

/-- The text in quotes. -/
def quoted (s : String) : String := String.ofList ('"' :: s.toList.flatMap quotedChar ++ ['"'])

end ScriptedScene.Text
