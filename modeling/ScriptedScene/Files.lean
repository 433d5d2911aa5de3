/-!
The files a program can read, and why reading one as text fails.
-/

namespace ScriptedScene

/-- Why a file cannot be read as text. -/
inductive FileFault where
  | notFound
  | isDirectory
  | invalidUtf8
  | other (message : String)
  deriving DecidableEq, Repr

def FileFault.message : FileFault → String
  | notFound => "No such file or directory (os error 2)"
  | isDirectory => "Is a directory (os error 21)"
  | invalidUtf8 => "stream did not contain valid UTF-8"
  | other message => message

/-- The text that bytes spell in UTF-8. -/
def decodeUtf8 (bytes : List UInt8) : Option String := String.fromUTF8? ⟨bytes.toArray⟩

end ScriptedScene
