import ScriptedScene.Host.Basic

/-!
The boundary to an embedder that knows only numbers: one slot that holds at most one host, and calls that answer
with zero or with the number of a fault. While a call uses the slot, every other call that needs it is refused.
-/

namespace ScriptedScene

open Guest

/-- The source in the bytes of a text that ends at its first NUL; bytes after that do not matter. -/
def sourceOfBytes? (bytes : List UInt8) : Option Source :=
  (decodeUtf8 (bytes.takeWhile (· != 0))).map .text

/-- The source that a file holds. -/
def sourceOfFile (content : Except FileFault (List UInt8)) : Except FileFault Source :=
  match content with
  | .error fault => .error fault
  | .ok bytes =>
    match decodeUtf8 bytes with
    | some s => .ok (.text s)
    | none => .error .invalidUtf8

/-- Where a host was put, if there is one, and whether a call is using it. -/
structure Slot where
  host : Option Host
  held : Bool

namespace Slot

def empty : Slot := ⟨none, false⟩

/-- Puts a new host with the standard modules into the slot. -/
def install (s : Slot) (engine : Engine) (c : Config) (scene : Store) : Except HostFault Unit × Slot :=
  if s.held then (.error .busy, s)
  else
    match s.host with
    | some _ => (.error .alreadyInitialized, s)
    | none =>
      match Host.create engine c scene with
      | .ok h => (.ok (), { s with host := some h })
      | .error fault => (.error fault, s)

/-- Uses the host in the slot. -/
def withHost (s : Slot) (f : Host → Except HostFault α × Host) : Except HostFault α × Slot :=
  if s.held then (.error .busy, s)
  else
    match s.host with
    | none => (.error .notInitialized, s)
    | some h =>
      match f h with
      | (r, h) => (r, { s with host := some h })

/-- Makes calls on the slot while it is held, as whoever uses the host may do. They change nothing. -/
def whileHeld (s : Slot) (calls : Slot → α) : Except HostFault α × Slot :=
  s.withHost fun h => (.ok (calls { s with held := true }), h)

/-- Runs a program in the host. -/
def loadSource (s : Slot) (hold : Hold) (source : Source) : Except HostFault Unit × Slot :=
  s.withHost (·.evaluate hold source)

/-- Runs the program that the bytes hold; there may be no bytes. What the bytes are is looked at before the
slot is. -/
def load (s : Slot) (hold : Hold) (code : Option (List UInt8)) : Except HostFault Unit × Slot :=
  match code.bind sourceOfBytes? with
  | none => (.error .invalidSource, s)
  | some source => s.loadSource hold source

/-- Calls the hook for one tick. -/
def update (s : Slot) (hold : Hold) (delta : Binary32) : Except HostFault Unit × Slot :=
  s.withHost (·.tick hold delta)

end Slot

end ScriptedScene
