import ScriptedScene.Command

/-!
The command as a program: reading files, printing lines, and waiting between ticks if that is asked for.
-/

namespace ScriptedScene.Main

open Guest

/-- How the command is called. -/
def usage : String :=
  "Usage: wasgi <SCRIPT> [--ticks <TICKS>] [--rate <RATE>] [--config <CONFIG>] [--realtime]"

/-- The interpreter as the program takes it. Its numbers are rough: the memory that is too little for it, the bytes of the
stack that a call takes, the bytes that the stack has if nothing is said of it, and how deep calls nest at most. Zero
bytes stand for a stack without a limit. -/
def engine : Engine where
  creates limits := !limits.memory.any (· ≤ 1000)
  depth limits :=
    match limits.stack.getD 262144 with
    | 0 => 20000
    | bytes => min 20000 (bytes / 256)

/-- Why a file could not be read. -/
def faultOf : IO.Error → FileFault
  | .noFileOrDirectory _ _ _ => .notFound
  | .noSuchThing _ _ _ => .notFound
  | .inappropriateType _ _ _ => .isDirectory
  | e => .other (toString e)

/-- The bytes of a file. -/
def readBytes (path : String) : IO (Except FileFault (List UInt8)) := do
  try
    return .ok (← IO.FS.readBinFile path).toList
  catch e => return .error (faultOf e)

/-- The text of a file. -/
def textOf (content : Except FileFault (List UInt8)) : Except FileFault String :=
  match content with
  | .error fault => .error fault
  | .ok bytes =>
    match decodeUtf8 bytes with
    | some s => .ok s
    | none => .error .invalidUtf8

def printAll (lines : List String) : IO Unit := lines.forM fun l => IO.println l

/-- Runs the ticks that are left, each after the other was printed. -/
def tickAll (o : Command.Options) (s : Command.Session) : Nat → IO Command.Session
  | 0 => return s
  | n + 1 => do
    let (lines, s) := s.tick
    printAll lines
    if o.realtime then IO.sleep (s.clock.tick.nanos / 1000000).toUInt32
    tickAll o s n

def run (arguments : List String) : IO UInt32 := do
  match Command.Options.ofArguments? arguments with
  | none =>
    IO.eprintln usage
    return 2
  | some o =>
    let config ←
      match o.config with
      | some path => do pure (textOf (← readBytes path))
      | none => pure (.error .notFound)
    match Command.start engine o config (sourceOfFile (← readBytes o.script)) with
    | (lines, .error err) =>
      printAll lines
      err.forM fun l => IO.eprintln l
      return 1
    | (lines, .ok session) =>
      printAll lines
      printAll (← tickAll o session o.ticks.toNat).closing
      return 0

end ScriptedScene.Main

def main (arguments : List String) : IO UInt32 := ScriptedScene.Main.run arguments
