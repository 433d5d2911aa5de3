import ScriptedScene.Guest.Machine

/-!
Two machines in lockstep. What a guest does is made of a few kinds of steps: it works on its memory, asks the scene, and
turns to what lies outside. A relation that every kind of step keeps is kept by a whole run, and two runs from related
machines come to the same result. With both sides the same this says what a run keeps; with two different outsides it
says that the difference does not matter.
-/

namespace ScriptedScene.Guest

/-- A relation between machines under one outside and machines under another that no step of a guest ends, and under
which a guest sees the same on both sides. -/
structure Lockstep (left right : Outside) where
  Paired : Machine → Machine → Prop
  hold : left.hold = right.hold
  depth : left.depth = right.depth
  sameMemory : ∀ {m n}, Paired m n → m.memory = n.memory
  sameScene : ∀ {m n}, Paired m n → m.scene = n.scene
  revise : ∀ {m n}, Paired m n → ∀ memory, Paired { m with memory } { n with memory }
  say : ∀ {m n}, Paired m n → ∀ method texts,
    Paired (left.deliver (method.record texts) (m.mark (.console method texts)))
      (right.deliver (method.record texts) (n.mark (.console method texts)))
  serve : ∀ {m n}, Paired m n → ∀ name arguments,
    (left.serve name arguments m).1 = (right.serve name arguments n).1 ∧
      Paired (left.serve name arguments m).2 (right.serve name arguments n).2
  consult : ∀ {m n}, Paired m n → ∀ f arguments q,
    Paired (m.consult left.hold f arguments q).2 (n.consult right.hold f arguments q).2
  unasked : ∀ {m n}, Paired m n → ∀ f arguments,
    Paired (m.mark (.light ⟨f, arguments, .unasked⟩)) (n.mark (.light ⟨f, arguments, .unasked⟩))
  called : ∀ {m n}, Paired m n → ∀ depth, left.depth ≤ depth → ∀ f receiver arguments,
    Paired (m.mark (.called depth f receiver arguments)) (n.mark (.called depth f receiver arguments))

/-- Around code in one call more, fewer steps can be made. -/
def Lockstep.deeper {left right : Outside} (k : Lockstep left right) : Lockstep left.deeper right.deeper where
  Paired := k.Paired
  hold := k.hold
  depth := congrArg (· + 1) k.depth
  sameMemory := k.sameMemory
  sameScene := k.sameScene
  revise := k.revise
  say := k.say
  serve := k.serve
  consult := k.consult
  unasked := k.unasked
  called paired depth deep := k.called paired depth (Nat.le_of_succ_le deep)

/-- A property of machines that every step of a guest keeps. -/
structure Invariant (outside : Outside) where
  Holds : Machine → Prop
  revise : ∀ {m}, Holds m → ∀ memory, Holds { m with memory }
  say : ∀ {m}, Holds m → ∀ method texts,
    Holds (outside.deliver (method.record texts) (m.mark (.console method texts)))
  serve : ∀ {m}, Holds m → ∀ name arguments, Holds (outside.serve name arguments m).2
  consult : ∀ {m}, Holds m → ∀ f arguments q, Holds (m.consult outside.hold f arguments q).2
  unasked : ∀ {m}, Holds m → ∀ f arguments, Holds (m.mark (.light ⟨f, arguments, .unasked⟩))
  called : ∀ {m}, Holds m → ∀ depth, outside.depth ≤ depth → ∀ f receiver arguments,
    Holds (m.mark (.called depth f receiver arguments))

/-- A machine in lockstep with itself. -/
def Invariant.lockstep {outside : Outside} (i : Invariant outside) : Lockstep outside outside where
  Paired m n := m = n ∧ i.Holds m
  hold := rfl
  depth := rfl
  sameMemory paired := congrArg Machine.memory paired.1
  sameScene paired := congrArg Machine.scene paired.1
  revise := by rintro m _ ⟨rfl, holds⟩ memory; exact ⟨rfl, i.revise holds memory⟩
  say := by rintro m _ ⟨rfl, holds⟩ method texts; exact ⟨rfl, i.say holds method texts⟩
  serve := by rintro m _ ⟨rfl, holds⟩ name arguments; exact ⟨rfl, rfl, i.serve holds name arguments⟩
  consult := by rintro m _ ⟨rfl, holds⟩ f arguments q; exact ⟨rfl, i.consult holds f arguments q⟩
  unasked := by rintro m _ ⟨rfl, holds⟩ f arguments; exact ⟨rfl, i.unasked holds f arguments⟩
  called := by
    rintro m _ ⟨rfl, holds⟩ depth deep f receiver arguments
    exact ⟨rfl, i.called holds depth deep f receiver arguments⟩

/-- What becomes of a machine follows it. -/
def Invariant.follows (outside : Outside) (start : Machine) : Invariant outside where
  Holds m := Follows outside.hold start m
  revise follows memory := follows.trans (.memory outside.hold _ memory)
  say follows method texts :=
    (follows.trans (.console outside.hold _ method texts)).trans (outside.receive_visited _ _).follows
  serve follows name arguments := follows.trans (outside.serve_visited name arguments _).follows
  consult follows f arguments q := follows.trans (.consult outside.hold _ f arguments q)
  unasked follows _ _ := follows.trans (.mark outside.hold _ _ rfl rfl fun _ => trivial)
  called follows _ _ _ _ _ := follows.trans (.mark outside.hold _ _ rfl rfl fun _ => trivial)

end ScriptedScene.Guest
