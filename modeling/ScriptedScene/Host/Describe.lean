import ScriptedScene.Guest.Invoke

/-!
Descriptions of guest values for the host's side.
-/

namespace ScriptedScene

open Guest

/-- What a guest value is, as far as a host is told. -/
inductive Description where
  | number (x : Binary64)
  | boolean (b : Bool)
  | text (s : String)
  /-- A text with a lone surrogate after so many bytes. -/
  | brokenText (offset : Nat)
  | list (elements : List Description)
  /-- A value that is told by its kind alone. -/
  | kind (name : String)

namespace Description

/-- What stands for a value that cannot be read. -/
def throws : Description := .kind "throws"

open Run

/-- How deep lists in lists are described. -/
def depth : Nat := 64

/-- The kind of an object that is no list. -/
def objectKind (o : Object) : String :=
  match o.role with
  | .function _ => "function"
  | .error => "exception"
  | .promise => "promise"
  | _ => "object"

/-- Describes a value; an element of a list is read when its turn comes. -/
def describe (call : Call) : Nat → Value → Run Description
  | _, .undefined => return .kind "undefined"
  | _, .null => return .kind "null"
  | _, .boolean b => return .boolean b
  | _, .integer i => return .number (.ofInt i.toInt)
  | _, .number x => return .number x
  | _, .bigint _ => return .kind "big_int"
  | _, .symbol _ _ => return .kind "symbol"
  | _, .text t =>
    match t.decode with
    | .ok s => return .text s
    | .error offset => return .brokenText offset
  | depth, .object r => do
    let o ← Run.object r
    match o.role, depth with
    | .array n _, depth + 1 =>
      return .list (← each
        (fun i => do
          match ← outcome (get call (.object r) (.ofNat i)) with
          | .ok v => describe call depth v
          | .error _ => return throws)
        (List.range n))
    | _, _ => return .kind (objectKind o)

/-- Describes a property of the global object. -/
def ofGlobal (call : Call) (name : String) : Run Description := do
  match ← outcome (get call (intrinsic .global) (.ofString name)) with
  | .ok v => describe call depth v
  | .error _ => return throws

end Description

end ScriptedScene
