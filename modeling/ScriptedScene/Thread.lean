import ScriptedScene.Boundary

/-!
One thread at the boundary. Its calls nest: whoever is lent the host may make calls at the boundary, and so may whoever
receives the host's records while guest code runs. A guest knows nothing of the boundary, so what is done at the records
of its run can be told after the run, record by record.
-/

namespace ScriptedScene

open Guest

mutual

/-- A call at the boundary. -/
inductive Crossing where
  /-- Puts a new host into the slot, given what is done whenever a record has come to its log. -/
  | install (engine : Engine) (c : Config) (sink : List LogRecord → Errand) (scene : Store)
  | load (hold : Hold) (code : Option (List UInt8))
  | update (hold : Hold) (delta : Binary32)
  | withHost (use : Use)

/-- What is done with the host by whoever is lent it. -/
inductive Use where
  | done (reply : Reply)
  | call (hold : Hold) (request : Request) (next : Reply → Use)
  /-- Runs something in the guest's realm. -/
  | within (hold : Hold) (x : Run Value) (next : Except Value Value → Use)
  | cross (c : Crossing) (next : Reply → Use)

/-- What is done when a record has come to the log. -/
inductive Errand where
  | done
  | cross (c : Crossing) (next : Reply → Errand)

end

/-- A call at the boundary as it was answered. -/
structure Crossed where
  /-- How many calls of the thread were open around it. -/
  standing : Nat
  found : Slot
  crossing : Crossing
  reply : Reply
  left : Slot

structure Thread where
  slot : Slot
  /-- What is done whenever a record has come to the log of the host in the slot. -/
  sink : List LogRecord → Errand
  /-- The calls at the boundary in the order in which they were answered. -/
  answered : List Crossed

namespace Thread

def new : Thread := ⟨.empty, fun _ => .done, []⟩

/-- Lends the host in the slot, if there is one and it is not lent. -/
def lend (t : Thread) (use : Host → Thread → Reply × Host × Thread) : Reply × Thread :=
  let lent := t.slot.withHost fun h =>
    match use h { t with slot := { t.slot with held := true } } with
    | (reply, h, t) => (.ok (reply, t), h)
  match lent with
  | (.ok (reply, t), slot) => (reply, { t with slot })
  | (.error fault, slot) => (.error fault, { t with slot })

/-- Does what is to be done at the records that a host has more than before, given how an errand is run. -/
def heed (t : Thread) (run : Errand → Thread → Thread) (before after : Host) : Thread :=
  (List.range' (before.log.size + 1) (after.log.size - before.log.size)).foldl
    (fun t n => run (t.sink (after.log.records.toList.take n)) t) t

/-- Puts a call on record, with what it found and what the thread is now. -/
def note (t : Thread) (standing : Nat) (found : Slot) (c : Crossing) (reply : Reply) : Thread :=
  { t with answered := t.answered ++ [⟨standing, found, c, reply, t.slot⟩] }

end Thread

/-- Runs something in a host's realm. -/
def Host.within (h : Host) (hold : Hold) (x : Run α) : Except Value α × Host :=
  match x.run (h.outside hold) h.machine with
  | (result, machine) => (result, { h with machine })

/-- Makes a call to a host that is lent, and does what is to be done at the records that it wrote. -/
def Thread.ask (t : Thread) (run : Errand → Thread → Thread) (h : Host) (hold : Hold) (request : Request) :
    Reply × Host × Thread :=
  match h.perform hold request with
  | (reply, k) => (reply, k, t.heed run h k)

mutual

/-- Makes a call around which so many are open, given how errands are run. -/
def Crossing.perform (run : Nat → Errand → Thread → Thread) (standing : Nat) : Crossing → Thread → Reply × Thread
  | .install engine c sink scene, t =>
    match t.slot.install engine c scene with
    | (.ok (), slot) => (.ok (), { t with slot, sink }.note standing t.slot (.install engine c sink scene) (.ok ()))
    | (.error fault, slot) =>
      (.error fault, { t with slot }.note standing t.slot (.install engine c sink scene) (.error fault))
  | .load hold code, t =>
    match code.bind sourceOfBytes? with
    | none => (.error .invalidSource, t.note standing t.slot (.load hold code) (.error .invalidSource))
    | some source =>
      match t.lend fun h u => u.ask (run (standing + 1)) h hold (.evaluate source) with
      | (reply, u) => (reply, u.note standing t.slot (.load hold code) reply)
  | .update hold delta, t =>
    match t.lend fun h u => u.ask (run (standing + 1)) h hold (.tick delta) with
    | (reply, u) => (reply, u.note standing t.slot (.update hold delta) reply)
  | .withHost use, t =>
    match t.lend fun h u => use.perform run (standing + 1) h u with
    | (reply, u) => (reply, u.note standing t.slot (.withHost use) reply)

/-- Uses a host inside of so many calls. -/
def Use.perform (run : Nat → Errand → Thread → Thread) (standing : Nat) : Use → Host → Thread → Reply × Host × Thread
  | .done reply, h, t => (reply, h, t)
  | .call hold request next, h, t =>
    match t.ask (run standing) h hold request with
    | (reply, h, t) => (next reply).perform run standing h t
  | .within hold x next, h, t =>
    match h.within hold x with
    | (result, k) => (next result).perform run standing k (t.heed (run standing) h k)
  | .cross c next, h, t =>
    match c.perform run standing t with
    | (reply, t) => (next reply).perform run standing h t

/-- Runs an errand inside of so many calls. -/
def Errand.perform (run : Nat → Errand → Thread → Thread) (standing : Nat) : Errand → Thread → Thread
  | .done, t => t
  | .cross c next, t =>
    match c.perform run standing t with
    | (reply, t) => (next reply).perform run standing t

end

/-- How errands are run that nest so many deep; below that none are. -/
def Errand.runAt : Nat → Nat → Errand → Thread → Thread
  | 0, _, _, t => t
  | depth + 1, standing, e, t => e.perform (runAt depth) standing t

/-- The thread after some calls in turn, whose errands nest so many deep. -/
def Thread.after (t : Thread) (depth : Nat) (calls : List Crossing) : Thread :=
  calls.foldl (fun t c => (c.perform (Errand.runAt depth) 0 t).2) t

end ScriptedScene
