import ScriptedScene.Guest.Fault
import ScriptedScene.Guest.Value
import ScriptedScene.Scene.Inquiry

/-!
What guests ask of a scene while the host may hold it, and the calls of the light functions that ask it.
-/

namespace ScriptedScene

/-- How the host holds the scene while a guest runs. -/
inductive Guest.Hold where
  | free
  /-- The host reads the scene. -/
  | shared
  /-- The host changes the scene. -/
  | exclusive
  deriving DecidableEq, Repr

open Guest

/-- What stands in the way of an inquiry while the host holds the scene: changes wait for any hold to end, and readings
for the host's own changes. -/
def Inquiry.obstacle? : Inquiry → Hold → Option Fault
  | .change _, .free => none
  | .change _, _ => some .sceneBorrowed
  | _, .exclusive => some .sceneBeingModified
  | _, _ => none

/-- What a scene that may be held says to an inquiry. -/
def Store.consult (s : Store) (hold : Hold) (q : Inquiry) : Except Fault (Reading × Store) :=
  match q.obstacle? hold with
  | some fault => .error fault
  | none =>
    match s.answer q with
    | .ok a => .ok a
    | .error fault => .error (.scene fault)

theorem Inquiry.free_of_change {c : Store.Change} {hold : Hold} (free : (Inquiry.change c).obstacle? hold = none) :
    hold = .free := by
  cases hold with
  | free => rfl
  | shared => cases free
  | exclusive => cases free

theorem Store.consult_eq_ok_iff {s : Store} {hold : Hold} {q : Inquiry} {a : Reading × Store} :
    s.consult hold q = .ok a ↔ q.obstacle? hold = none ∧ s.answer q = .ok a := by
  unfold Store.consult
  cases q.obstacle? hold with
  | some fault => simp
  | none => cases s.answer q <;> simp

namespace Guest

/-- How a call of a light function ends. -/
inductive LightEnd where
  /-- The arguments are not such that anything could be asked of the scene. -/
  | unasked
  /-- The scene was asked. The call throws if it answers with a fault, and else returns. -/
  | asked (q : Inquiry) (answer : Except Fault Reading)

/-- A call of a light function, once it is over. -/
structure LightCall where
  function : LightFunction
  arguments : List Value
  ended : LightEnd

/-- The change that a call makes to the scene, if it returns and makes one. -/
def LightCall.change? (c : LightCall) : Option Store.Change :=
  match c.ended with
  | .asked (.change c) (.ok _) => some c
  | _ => none

/-- The scene moves by the change of the call that asked it. -/
theorem LightCall.replay_change {s t : Store} {hold : Hold} {q : Inquiry} {reading : Reading}
    (answered : s.consult hold q = .ok (reading, t)) (f : LightFunction) (arguments : List Value) :
    s.replay (change? ⟨f, arguments, .asked q (.ok reading)⟩).toList = .ok t := by
  have answer := (Store.consult_eq_ok_iff.mp answered).2
  cases q with
  | change c => simpa [change?, Store.replay] using Store.apply_of_answer answer
  | find name => exact congrArg Except.ok (Store.eq_of_answer answer nofun).symm
  | light id => exact congrArg Except.ok (Store.eq_of_answer answer nofun).symm
  | count => exact congrArg Except.ok (Store.eq_of_answer answer nofun).symm

/-- Nothing changes a scene that is held. -/
theorem LightCall.change?_held {s t : Store} {hold : Hold} {q : Inquiry} {reading : Reading}
    (answered : s.consult hold q = .ok (reading, t)) (held : hold ≠ .free) (f : LightFunction) (arguments : List Value) :
    change? ⟨f, arguments, .asked q (.ok reading)⟩ = none := by
  cases q with
  | change c => exact absurd (Inquiry.free_of_change (Store.consult_eq_ok_iff.mp answered).1) held
  | find name => rfl
  | light id => rfl
  | count => rfl

end Guest

end ScriptedScene
