import ScriptedScene.Proofs.Guest.Arguments

/-! The scene in a cell that is borrowed from. A light function borrows the scene when its arguments are converted, for as
long as the scene answers and, if it answers with a fault, until the error for that is made. Nothing of a guest runs
meanwhile, and what was borrowed is given back. So every call finds the cell as the embedder has left it, however calls
nest. -/
namespace ScriptedScene
open Guest

namespace Guest

/-- What is borrowed from a cell: so many have it to read, or one has it to change it. -/
inductive Borrow where
  | readers (n : Nat)
  | writer
  deriving DecidableEq

namespace Borrow

def share? : Borrow → Option Borrow
  | readers n => some (readers (n + 1))
  | writer => none

def take? : Borrow → Option Borrow
  | readers 0 => some writer
  | readers (_ + 1) | writer => none

/-- The cell when who came last gives back. -/
def giveBack : Borrow → Borrow
  | readers n => readers (n - 1)
  | writer => readers 0

/-- How a guest finds the scene held that is borrowed so. -/
def hold : Borrow → Hold
  | readers 0 => .free
  | readers (_ + 1) => .shared
  | writer => .exclusive

end Borrow

end Guest

namespace Inquiry
variable {q : Inquiry} {b lent : Borrow}

def borrow? : Inquiry → Borrow → Option Borrow
  | change _ => Borrow.take?
  | find _ | light _ | count => Borrow.share?

def refusal : Inquiry → Fault
  | change _ => .sceneBorrowed
  | find _ | light _ | count => .sceneBeingModified

def isChange : Inquiry → Bool
  | change _ => true
  | find _ | light _ | count => false

/-- A hold stands in the way exactly where the scene cannot be borrowed. -/
theorem obstacle?_eq (q : Inquiry) (b : Borrow) :
    q.obstacle? b.hold = if (q.borrow? b).isSome then none else some q.refusal := by
  rcases b with (_ | n) | _ <;> cases q <;> rfl

theorem giveBack_eq (borrowed : q.borrow? b = some lent) : lent.giveBack = b := by
  have shared {n : Nat} (borrowed : (Borrow.readers n).share? = some lent) : lent.giveBack = .readers n := by
    obtain rfl := Option.some.inj borrowed
    rfl
  rcases b with (_ | n) | _ <;> cases q
  case readers.zero.change => cases borrowed; rfl
  all_goals first | exact shared borrowed | cases borrowed

theorem obstacle?_of_free {hold : Hold} (q : Inquiry) (free : hold = .free) : q.obstacle? hold = none := by
  rw [free]
  cases q <;> rfl

theorem obstacle?_of_reads {hold : Hold} (reads : q.isChange = false) (some : hold ≠ .exclusive) :
    q.obstacle? hold = none := by
  cases q with
  | change c => cases reads
  | _ => cases hold <;> first | rfl | exact absurd rfl some

end Inquiry

namespace Guest

def Fault.thrown (f : Fault) : Object :=
  ⟨some (Intrinsic.ref (.errorPrototype f.errorClass)), [(Run.messageKey, .hidden (.text f.message))], .error, none⟩

namespace Run
variable {outside : Outside} {f : LightFunction} {arguments : List Value} {n : Machine} {q : Inquiry}

theorem consult_refused {fault : Fault} (obstacle : q.obstacle? outside.hold = some fault) :
    (consult f arguments q).run outside n =
      (.ok (.error fault), n.mark (.light ⟨f, arguments, .asked q (.error fault)⟩)) := by
  simp only [consult, Machine.consult, Store.consult, obstacle]

theorem consult_answered (f : LightFunction) (arguments : List Value) (n : Machine)
    (unhindered : q.obstacle? outside.hold = none) :
    (consult f arguments q).run outside n =
      match n.scene.answer q with
      | .ok (reading, scene) =>
        (.ok (.ok reading), { n with scene }.mark (.light ⟨f, arguments, .asked q (.ok reading)⟩))
      | .error fault =>
        (.ok (.error (.scene fault)), n.mark (.light ⟨f, arguments, .asked q (.error (.scene fault))⟩)) := by
  simp only [consult, Machine.consult, Store.consult, unhindered]
  cases n.scene.answer q <;> rfl

end Run

namespace LightFunction
open Run
variable {call : Call} {outside : Outside} {f : LightFunction} {arguments : List Value} {m n : Machine} {q : Inquiry}

def refusal (f : LightFunction) : Fault := if f.changes then .sceneBorrowed else .sceneBeingModified

theorem isChange_of_asks (asks : Asks call outside f arguments m q n) : q.isChange = f.changes ∧ q.refusal = f.refusal := by
  cases asks with
  | light reads _ => rcases reads with rfl | rfl | rfl <;> exact ⟨rfl, rfl⟩
  | _ => exact ⟨rfl, rfl⟩

/-- What is done while the scene is borrowed: it is asked, and if it answers with a fault, the error for it is made. -/
def askLent (f : LightFunction) (arguments : List Value) (q : Inquiry) (outside : Outside) (m : Machine) :
    Except Value Reading × Machine :=
  match m.scene.answer q with
  | .ok (reading, scene) => (.ok reading, { m with scene }.mark (.light ⟨f, arguments, .asked q (.ok reading)⟩))
  | .error fault =>
    (throwFault (.scene fault)).run outside (m.mark (.light ⟨f, arguments, .asked q (.error (.scene fault))⟩))

/-- A call, step by step, with what is borrowed from the scene's cell. What lies outside of guest code depends on that. -/
def runInCell (around : Borrow → Outside) (f : LightFunction) (call : Call) (arguments : List Value) (b : Borrow)
    (m : Machine) : Except Value Value × Borrow × Machine :=
  -- Only here guest code may run, and call light functions that borrow and give back in turn.
  match (f.inquiry call arguments).run (around b) m with
  | (.error e, n) => (.error e, b, n.mark (.light ⟨f, arguments, .unasked⟩))
  | (.ok q, n) =>
    match q.borrow? b with
    | none =>
      match (throwFault q.refusal).run (around b) (n.mark (.light ⟨f, arguments, .asked q (.error q.refusal)⟩)) with
      | (result, n) => (result, b, n)
    | some lent =>
      match f.askLent arguments q (around lent) n with
      | (.error e, n) => (.error e, lent.giveBack, n)
      | (.ok reading, n) =>
        match (f.value reading).run (around lent.giveBack) n with
        | (result, n) => (result, lent.giveBack, n)

/-- While the scene is borrowed, nothing outside is turned to and no value is called: of all that is put on record, there
is the call itself and nothing else. -/
theorem askLent_alone (f : LightFunction) (arguments : List Value) (q : Inquiry) (m : Machine) :
    ∃ answer result scene memory, ∀ outside, f.askLent arguments q outside m =
      (result, { m.mark (.light ⟨f, arguments, .asked q answer⟩) with scene, memory }) := by
  unfold askLent
  cases answer : m.scene.answer q with
  | ok told => exact ⟨.ok told.1, .ok told.1, told.2, m.memory, fun _ => rfl⟩
  | error fault =>
    obtain ⟨result, memory, thrown⟩ := Alone.throwFault (α := Reading) (.scene fault)
      (m.mark (.light ⟨f, arguments, .asked q (.error (.scene fault))⟩))
    exact ⟨_, result, m.scene, memory, thrown⟩

/-- The step-by-step call is the call, and leaves the cell as it finds it. -/
theorem runInCell_eq {around : Borrow → Outside} (held : ∀ b, (around b).hold = b.hold) (f : LightFunction) (call : Call)
    (arguments : List Value) (b : Borrow) (m : Machine) :
    f.runInCell around call arguments b m =
      (((f.run call arguments).run (around b) m).1, b, ((f.run call arguments).run (around b) m).2) := by
  unfold runInCell
  rcases converted : (f.inquiry call arguments).run (around b) m with ⟨e | q, n⟩
  · rw [run_of_unasked converted]
  · rw [run_of_asked converted]
    have obstacle := held b ▸ q.obstacle?_eq b
    dsimp only
    cases borrowed : q.borrow? b with
    | none =>
      rw [borrowed, Option.isSome_none, if_neg Bool.false_ne_true] at obstacle
      rw [bind_ok (consult_refused obstacle)]
    | some lent =>
      rw [borrowed, Option.isSome_some, if_pos rfl] at obstacle
      have asked := consult_answered f arguments n obstacle
      have back := Inquiry.giveBack_eq borrowed
      unfold askLent
      cases answer : n.scene.answer q with
      | ok told =>
        rw [answer] at asked
        rw [bind_ok asked]
        simp only [back]
      | error fault =>
        rw [answer] at asked
        rw [bind_ok asked]
        simp only [back]
        rfl

/-- Readings are as without a hold, unless it is one that changes the scene. -/
theorem run_reads (reads : f.changes = false) (call : Call) (arguments : List Value) {left right : Outside}
    (first : left.hold ≠ .exclusive) (second : right.hold ≠ .exclusive) (m : Machine) :
    (f.run call arguments).run left m = (f.run call arguments).run right m := by
  obtain ⟨e | q, memory, converted⟩ := inquiry_alone reads call arguments m
  · rw [run_of_unasked (converted left), run_of_unasked (converted right)]
  · rw [run_of_asked (converted left), run_of_asked (converted right)]
    have still : q.isChange = false := (isChange_of_asks (asks_of_inquiry (converted left))).1.trans reads
    have asked : (consult f arguments q).run left { m with memory } = (consult f arguments q).run right { m with memory } := by
      rw [consult_answered _ _ _ (Inquiry.obstacle?_of_reads still first),
        consult_answered _ _ _ (Inquiry.obstacle?_of_reads still second)]
    rcases answered : (consult f arguments q).run right { m with memory } with ⟨e | fault | reading, n⟩
    · rw [bind_error (asked.trans answered), bind_error answered]
    · rw [bind_ok (asked.trans answered), bind_ok answered]
      rfl
    · obtain ⟨result, memory, shown⟩ := value_alone f reading n
      rw [bind_ok (asked.trans answered), bind_ok answered]
      exact (shown left).trans (shown right).symm

theorem run_refused (asks : Asks call outside f arguments m q n) (obstacle : q.obstacle? outside.hold = some f.refusal) :
    ∃ e memory, (f.run call arguments).run outside m =
        (.error e, { n.mark (.light ⟨f, arguments, .asked q (.error f.refusal)⟩) with memory }) ∧
      memory.IsFault e f.refusal ∧ ∀ r, n.memory.Has r → memory.object r = n.memory.object r := by
  -- The error object is a new one, so the objects that there were stay.
  refine ⟨.object n.memory.next, n.memory.added f.refusal.thrown, ?_, ⟨_, rfl, Memory.added_object_next _ _⟩,
    fun r has => (Memory.Keeps.added n.memory n.memory.next _).object r has has.ne_next⟩
  rw [run_of_asked (inquiry_of_asks asks), bind_ok (consult_refused obstacle)]
  rfl

/-- A call that has asked is over with what it was told: it shows that, or throws the scene's own fault. -/
def Answered (f : LightFunction) (arguments : List Value) (q : Inquiry) (n : Machine) (ran : Except Value Value × Machine) :
    Prop :=
  match n.scene.answer q with
  | .ok (reading, scene) => ∃ v memory,
    ran = (.ok v, { n.mark (.light ⟨f, arguments, .asked q (.ok reading)⟩) with memory, scene }) ∧ f.Shows memory reading v
  | .error fault => ∃ e memory,
    ran = (.error e, { n.mark (.light ⟨f, arguments, .asked q (.error (.scene fault))⟩) with memory }) ∧
      memory.IsFault e (.scene fault)

theorem run_answered (asks : Asks call outside f arguments m q n) (unhindered : q.obstacle? outside.hold = none) :
    f.Answered arguments q n ((f.run call arguments).run outside m) := by
  have asked := consult_answered f arguments n unhindered
  rw [run_of_asked (inquiry_of_asks asks)]
  unfold Answered
  cases answer : n.scene.answer q with
  | ok told =>
    obtain ⟨reading, scene⟩ := told
    rw [answer] at asked
    obtain ⟨v, memory, shown, shows⟩ := value_run asks answer
      ({ n with scene }.mark (.light ⟨f, arguments, .asked q (.ok reading)⟩))
    rw [bind_ok asked]
    exact ⟨v, memory, shown, shows⟩
  | error fault =>
    rw [answer] at asked
    obtain ⟨e, memory, thrown, made⟩ := throwFault_run (α := Value) (.scene fault) outside
      (n.mark (.light ⟨f, arguments, .asked q (.error (.scene fault))⟩))
    rw [bind_ok asked]
    exact ⟨e, memory, thrown, made⟩

/-- Without a hold, a call throws what the scene refuses it with, or it has not come to ask the scene. -/
theorem run_free (free : outside.hold = .free) {e : Value} (ran : (f.run call arguments).run outside m = (.error e, n)) :
    (∃ fault, n.memory.IsFault e (.scene fault)) ∨
      ∃ k, Blames call outside f arguments e k ∧ n = k.mark (.light ⟨f, arguments, .unasked⟩) := by
  rcases converted : (f.inquiry call arguments).run outside m with ⟨e' | q, k⟩
  · rw [run_of_unasked converted] at ran
    cases ran
    exact .inr ⟨k, inquiry_blames f call arguments outside m e k converted, rfl⟩
  · have answered := run_answered (asks_of_inquiry converted) (q.obstacle?_of_free free)
    rw [ran] at answered
    unfold Answered at answered
    split at answered
    · obtain ⟨v, memory, other, -⟩ := answered
      cases other
    · obtain ⟨e', memory, same, made⟩ := answered
      cases same
      exact .inl ⟨_, made⟩

theorem run_held (held : outside.hold ≠ .free) (f : LightFunction) (call : Call) (arguments : List Value) (m : Machine) :
    ((f.run call arguments).run outside m).2.scene = m.scene := by
  obtain ⟨events, leads⟩ := (f.run call arguments).follows outside m
  have replayed := leads.scene
  rw [leads.held held] at replayed
  exact (Except.ok.inj replayed).symm

/-- When a function is refused for a hold on the scene: changes wait for any hold to end, and readings for one that changes
the scene. -/
def Waits (f : LightFunction) (hold : Hold) : Prop := hold = .exclusive ∨ hold = .shared ∧ f.changes = true

theorem obstacle?_of_waits (asks : Asks call outside f arguments m q n) (waits : f.Waits outside.hold) :
    q.obstacle? outside.hold = some f.refusal := by
  obtain ⟨change, refusal⟩ := isChange_of_asks asks
  rw [← refusal]
  rcases waits with exclusive | ⟨shared, changes⟩
  · rw [exclusive]
    cases q <;> rfl
  · rw [← change] at changes
    rw [shared]
    cases q <;> first | rfl | cases changes

/-- How a light function does with a scene that may be held, whatever it is called with and whatever guests do. -/
structure Lent (f : LightFunction) : Prop where
  /-- Guest code finds the scene's cell as it is left to the call, and so does what comes after the call. -/
  cell (around : Borrow → Outside) (held : ∀ b, (around b).hold = b.hold) (call : Call) (arguments : List Value)
    (b : Borrow) (m : Machine) :
    f.runInCell around call arguments b m =
      (((f.run call arguments).run (around b) m).1, b, ((f.run call arguments).run (around b) m).2)
  /-- The call alone is put on record while the scene is borrowed for it. -/
  alone (arguments : List Value) (q : Inquiry) (m : Machine) :
    ∃ answer result scene memory, ∀ outside, f.askLent arguments q outside m =
      (result, { m.mark (.light ⟨f, arguments, .asked q answer⟩) with scene, memory })
  unasked (call : Call) (arguments : List Value) (outside : Outside) (m n : Machine) (e : Value)
    (converted : (f.inquiry call arguments).run outside m = (.error e, n)) :
    (f.run call arguments).run outside m = (.error e, n.mark (.light ⟨f, arguments, .unasked⟩))
  /-- Without a hold it throws nothing but the scene's own faults and what its arguments are to blame for. -/
  unheld (call : Call) (arguments : List Value) (outside : Outside) (m n : Machine) (e : Value) (free : outside.hold = .free)
    (ran : (f.run call arguments).run outside m = (.error e, n)) :
    (∃ fault, n.memory.IsFault e (.scene fault)) ∨
      ∃ k, Blames call outside f arguments e k ∧ n = k.mark (.light ⟨f, arguments, .unasked⟩)
  /-- While the scene is read, readings are what they are without a hold. -/
  shared (reading : f.changes = false) (call : Call) (arguments : List Value) (left right : Outside)
    (first : left.hold ≠ .exclusive) (second : right.hold ≠ .exclusive) (m : Machine) :
    (f.run call arguments).run left m = (f.run call arguments).run right m
  refused (call : Call) (arguments : List Value) (outside : Outside) (m n : Machine) (q : Inquiry)
    (waits : f.Waits outside.hold) (asks : Asks call outside f arguments m q n) :
    ∃ e memory, (f.run call arguments).run outside m =
        (.error e, { n.mark (.light ⟨f, arguments, .asked q (.error f.refusal)⟩) with memory }) ∧
      memory.IsFault e f.refusal ∧ ∀ r, n.memory.Has r → memory.object r = n.memory.object r
  still (call : Call) (arguments : List Value) (outside : Outside) (m : Machine) (held : outside.hold ≠ .free) :
    ((f.run call arguments).run outside m).2.scene = m.scene
  answered (call : Call) (arguments : List Value) (outside : Outside) (m n : Machine) (q : Inquiry)
    (free : outside.hold = .free) (asks : Asks call outside f arguments m q n) :
    f.Answered arguments q n ((f.run call arguments).run outside m)
  /-- After a refusal the same can be asked, and the scene says to it what it would have said. -/
  again (call call' : Call) (arguments : List Value) (outside outside' : Outside) (m n : Machine) (q : Inquiry)
    (waits : f.Waits outside.hold) (asks : Asks call outside f arguments m q n)
    (settled : f = .setColor → m.memory.Settled arguments) (free : outside'.hold = .free) :
    let refused := ((f.run call arguments).run outside m).2
    refused.scene = m.scene ∧ f.Answered arguments q m ((f.run call' arguments).run outside' m) ∧
      f.Answered arguments q refused ((f.run call' arguments).run outside' refused)

theorem Waits.held {hold : Hold} (waits : f.Waits hold) : hold ≠ .free := by
  rcases waits with rfl | ⟨rfl, -⟩ <;> exact nofun

/-- A call that was refused, and the same call made later without a hold, or made without one at first. -/
theorem run_again (asks : Asks call outside f arguments m q n) (waits : f.Waits outside.hold)
    (settled : f = .setColor → m.memory.Settled arguments) {call' : Call} {outside' : Outside} (free : outside'.hold = .free) :
    let refused := ((f.run call arguments).run outside m).2
    refused.scene = m.scene ∧ f.Answered arguments q m ((f.run call' arguments).run outside' m) ∧
      f.Answered arguments q refused ((f.run call' arguments).run outside' refused) := by
  have unhindered := q.obstacle?_of_free free
  obtain ⟨rfl, never⟩ := asks_again asks settled call' outside' fun _ _ => rfl
  obtain ⟨e, memory, ran, -, same⟩ := run_refused asks (obstacle?_of_waits asks waits)
  have later := (asks_again (k := ((f.run call arguments).run outside n).2) asks settled call' outside'
    (by rw [ran]; exact same)).2
  exact ⟨run_held waits.held f call arguments n, run_answered never unhindered, run_answered later unhindered⟩

theorem lent (f : LightFunction) : f.Lent where
  cell _ held := runInCell_eq held f
  alone := askLent_alone f
  unasked _ _ _ _ _ _ := run_of_unasked
  unheld _ _ _ _ _ _ free ran := run_free free ran
  shared reading call arguments _ _ := run_reads reading call arguments
  refused _ _ _ _ _ _ waits asks := run_refused asks (obstacle?_of_waits asks waits)
  still call arguments _ m held := run_held held f call arguments m
  answered _ _ _ _ _ q free asks := run_answered asks (q.obstacle?_of_free free)
  again _ _ _ _ _ _ _ _ waits asks settled free := run_again asks waits settled free

end LightFunction

end Guest
end ScriptedScene
