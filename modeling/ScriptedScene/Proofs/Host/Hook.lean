import ScriptedScene.Proofs.Guest.Calls
import ScriptedScene.Proofs.Guest.Numbers
import ScriptedScene.Proofs.Host.Counting

/-! What a tick calls. The global object is asked for the hook's name, once, where a getter may run; what it gives is
called, once, if it can be called. If that fails, the thrown value is asked for its text, and functions of it may be
called for that, but never without a receiver; the hook is. So the calls without a receiver that ticks make are the
hook's, and their arguments tell the deltas in order. -/
namespace ScriptedScene
open Guest

namespace Guest.Memory
variable {m n : Memory}

/-- Properties are found on the heap. -/
theorem find?_heap (heap : m.heap = n.heap) (r : Ref) (key : Units) : m.find? r key = n.find? r key := by
  have same (bound : Nat) (r : Ref) : m.findFrom key bound r = n.findFrom key bound r := by
    induction bound generalizing r with
    | zero => rfl
    | succ bound ih =>
      have object : m.object r = n.object r := by rw [Memory.object, heap, Memory.object]
      simp only [findFrom, object, ih]
  rw [find?, find?, heap, same]

end Guest.Memory

namespace Diagnostic
open Run
variable {call : Call} {outside : Outside} {m : Machine} {α : Type}

theorem textOf_addressed (recorded : call.Recorded) (v : Value) : (textOf call v).Addressed := by
  refine .bind (.toText recorded v) fun t => ?_
  split
  · exact .pure _
  · exact .pure _

theorem textOfProperty_addressed (recorded : call.Recorded) (v : Value) (key : Units) :
    (textOfProperty call v key).Addressed := by
  refine .bind (.get recorded v key) fun property => ?_
  split
  · exact .pure _
  · exact textOf_addressed recorded property

theorem answer?_addresses {x : Run (Option α)} (addressed : x.Addressed) (running : m.ledger.running) :
    Addresses outside.depth m (x.answer? outside m).2 := by
  have asked := addressed outside m running
  unfold answer?
  revert asked
  rcases x.run outside m with ⟨_ | _, _⟩ <;> exact id

theorem messageOf_addresses (recorded : call.Recorded) (v : Value) (text : Option String) (running : m.ledger.running) :
    Addresses outside.depth m (messageOf call v text outside m).2 := by
  cases text with
  | some text => exact .refl outside.depth running
  | none => exact answer?_addresses (textOfProperty_addressed recorded v messageKey) running

/-- What is told of a thrown value is asked of that value. -/
theorem ofThrown_addresses (recorded : call.Recorded) (v : Value) (running : m.ledger.running) :
    Addresses outside.depth m (ofThrown call v outside m).2 := by
  have asked : Addresses outside.depth m ((textOf call v).answer? outside m).2 :=
    answer?_addresses (textOf_addressed recorded v) running
  unfold ofThrown
  revert asked
  rcases (textOf call v).answer? outside m with ⟨text, told⟩
  intro asked
  dsimp only
  split
  · have message := asked.trans (messageOf_addresses recorded v text asked.running)
    exact message.trans (answer?_addresses (textOfProperty_addressed recorded v stackKey) message.running)
  · exact asked

theorem ofCaught_addresses (recorded : call.Recorded) (caught : Caught) (running : m.ledger.running) :
    Addresses outside.depth m (ofCaught call outside caught m).2 := by
  cases caught with
  | thrown v => exact ofThrown_addresses recorded v running
  | engine message => exact .refl outside.depth running

end Diagnostic

namespace Host

/-- What the global object has or inherits under the hook's name. -/
def hookProperty? (h : Host) : Option Property := h.machine.memory.find? (Intrinsic.ref .global) (.ofString h.config.hook)

/-- What reading the hook's name comes to in the next tick. -/
def readHook (h : Host) (hold : Hold) : Except Value Value × Machine :=
  (Run.readProperty h.calls.call (Run.intrinsic .global) h.hookProperty?).run (h.outside hold) h.machine.enter

/-- The hook that the next tick finds, if it finds one that can be called. -/
def hook? (h : Host) (hold : Hold) : Option Value :=
  match h.readHook hold with
  | (.ok f, m) => if (m.memory.callable? f).isSome then some f else none
  | (.error _, _) => none

/-- The call of the getter under the hook's name, if there is one. -/
def getterCalls (h : Host) : List FunctionCall :=
  match h.hookProperty?.map Property.contents with
  | some (.accessor (some getter) _) => [⟨.object getter, Run.intrinsic .global, []⟩]
  | _ => []

/-- The hook's call with a delta, if it is found. -/
def hookCalls (h : Host) (hold : Hold) (delta : Binary32) : List FunctionCall :=
  (h.hook? hold).toList.map fun f => ⟨f, .undefined, [.ofBinary delta.widen]⟩

/-- A value is stored under the hook's name. Where nothing is, what is read there is undefined. -/
def Stores (h : Host) (v : Value) : Prop :=
  h.hookProperty? = none ∧ v = .undefined ∨ ∃ p writable, h.hookProperty? = some p ∧ p.contents = .data v writable

/-- The host with other variables in the global scope besides the properties of the global object. -/
def withLexicals (h : Host) (lexicals : List (String × CellId)) : Host :=
  { h with machine := { h.machine with memory := { h.machine.memory with lexicals } } }

variable {h : Host}

theorem calls_recorded (h : Host) : h.calls.call.Recorded := Calls.recorded _

theorem outside_depth (h : Host) (hold : Hold) : (h.outside hold).depth = 0 := by
  unfold outside
  cases h.embedder.depth <;> rfl

theorem readHook_opens (h : Host) (hold : Hold) : Opens 0 h.machine.enter h.getterCalls (h.readHook hold).2 := by
  have still : Opens 0 h.machine.enter [] h.machine.enter := .refl 0 rfl
  unfold getterCalls readHook
  cases h.hookProperty? with
  | none => exact still
  | some p =>
    obtain ⟨contents, enumerable, configurable⟩ := p
    cases contents with
    | data v writable => exact still
    | shared id => exact still
    | accessor getter setter =>
      cases getter with
      | none => exact still
      | some getter =>
        have opens := h.calls_recorded.opens (h.outside hold) (.object getter) (Run.intrinsic .global) []
          (m := h.machine.enter) rfl
        rwa [outside_depth] at opens

/-- Looking the hook up is one reading of the global object. -/
theorem findHook_run (h : Host) (hold : Hold) :
    (findHook h.calls.call h.config.hook).run (h.outside hold) h.machine.enter =
      ((h.readHook hold).1.map fun _ => h.hook? hold, (h.readHook hold).2) := by
  have read : (Run.get h.calls.call (Run.intrinsic .global) (.ofString h.config.hook)).run (h.outside hold) h.machine.enter =
      h.readHook hold := rfl
  unfold findHook hook?
  cases ran : h.readHook hold with
  | mk result m =>
    rw [ran] at read
    cases result with
    | error e => exact Run.bind_error read _
    | ok f =>
      rw [Run.bind_ok read, Run.bind_ok (rfl : (Run.isCallable f).run (h.outside hold) m = (.ok _, m))]
      by_cases callable : (m.memory.callable? f).isSome
      · simp only [callable, if_true]
        rfl
      · simp only [callable, Bool.false_eq_true, if_false]
        rfl

theorem callHook_opens (h : Host) (hold : Hold) (delta : Binary32) :
    Opens 0 h.machine.enter (h.getterCalls ++ h.hookCalls hold delta)
      ((callHook h.calls h.config.hook delta).run (h.outside hold) h.machine.enter).2 := by
  have reads := readHook_opens h hold
  have found := findHook_run h hold
  unfold hookCalls callHook
  cases ran : h.readHook hold with
  | mk result m =>
    rw [ran] at reads found
    cases result with
    | error e =>
      -- A getter that throws leaves no hook to call.
      have none : h.hook? hold = none := by simp only [hook?, ran]
      rw [Run.bind_error found, none, Option.toList_none, List.map_nil, List.append_nil]
      exact reads
    | ok f =>
      rw [Run.bind_ok found]
      cases hook : h.hook? hold with
      | none =>
        rw [Option.toList_none, List.map_nil, List.append_nil]
        exact reads
      | some f =>
        have opens := h.calls_recorded.opens (h.outside hold) f .undefined [.ofBinary delta.widen] reads.running
        rw [outside_depth] at opens
        have whole := reads.trans opens
        dsimp only at whole ⊢
        cases called : (h.calls.call f .undefined [.ofBinary delta.widen]).run (h.outside hold) m with
        | mk result n =>
          rw [called] at whole
          cases result with
          | error e =>
            rw [Run.bind_error called]
            exact whole
          | ok v =>
            rw [Run.bind_ok called]
            exact whole

/-- What a tick adds to the trace: the getter's call, the hook's, and after a failure what is asked of the thrown value
for its text. -/
theorem tick_opens (idle : h.running = false) (hold : Hold) (delta : Binary32) :
    ∃ events told,
      (h.tick hold delta).2.machine.trace.toList = h.machine.trace.toList ++ events ∧
      events.filterMap (Event.opens? 0) = h.getterCalls ++ h.hookCalls hold delta ++ told ∧
      (∀ c ∈ told, c.receiver ≠ .undefined) ∧
      ((h.tick hold delta).1 = .ok () → told = []) := by
  have opens := callHook_opens h hold delta
  rw [tick_eq idle]
  unfold Run.caught
  revert opens
  rcases (callHook h.calls h.config.hook delta).run (h.outside hold) h.machine.enter with ⟨v | called, m⟩
  · intro opens
    -- The hook's own call is over: what follows at its depth comes of the thrown value.
    have asked : Addresses (h.outside hold).depth m (Diagnostic.ofCaught h.calls.call (h.outside hold) (.thrown v) m).2 :=
      Diagnostic.ofCaught_addresses h.calls_recorded (.thrown v) opens.running
    rw [outside_depth] at asked
    obtain ⟨told, asks, addressed⟩ := asked
    obtain ⟨-, events, trace, calls⟩ := (opens.trans asks).deliver (h.outside hold)
      ((Diagnostic.ofCaught h.calls.call (h.outside hold) (.thrown v) m).1.report tickLabel)
    exact ⟨events, told, trace, calls, addressed, nofun⟩
  · rintro ⟨-, events, trace, calls⟩
    exact ⟨events, [], trace, by simpa using calls, by simp, fun _ => rfl⟩

/-- What is stored is read without calling anything. -/
theorem Stores.readHook {v : Value} (stores : h.Stores v) (hold : Hold) : h.readHook hold = (.ok v, h.machine.enter) := by
  unfold Host.readHook
  rcases stores with ⟨property, rfl⟩ | ⟨⟨contents, enumerable, configurable⟩, writable, property, rfl⟩
  · rw [property]
    rfl
  · rw [property]
    rfl

theorem Stores.hook? {v : Value} (stores : h.Stores v) (hold : Hold) :
    h.hook? hold = if (h.machine.memory.callable? v).isSome then some v else none := by
  unfold Host.hook?
  rw [stores.readHook hold]
  rfl

/-- Where there is no hook to call and no getter to ask for one, a tick counts and does nothing else. -/
theorem tick_hookless (idle : h.running = false) {v : Value} (stores : h.Stores v)
    (plain : h.machine.memory.callable? v = none) (hold : Hold) (delta : Binary32) :
    (h.tick hold delta).1 = .ok () ∧ (h.tick hold delta).2.machine.memory = h.machine.memory ∧
      (h.tick hold delta).2.machine.scene = h.machine.scene ∧ (h.tick hold delta).2.log = h.log := by
  have read := stores.readHook hold
  have none : h.hook? hold = none := by simp [stores.hook?, plain]
  have found := findHook_run h hold
  rw [read, none] at found
  have called : (callHook h.calls h.config.hook delta).caught (h.outside hold) h.machine.enter =
      (.ok false, h.machine.enter) := by
    unfold callHook Run.caught
    rw [Run.bind_ok found]
    rfl
  rw [tick_eq idle, called]
  exact ⟨rfl, rfl, rfl, rfl⟩

end Host

namespace Made

/-- What the host itself calls while a tick runs. -/
def hostCalls (call : Made) : List FunctionCall :=
  match call.request with
  | .tick _ => call.events.filterMap (Event.opens? 0)
  | .evaluate _ | .evaluateFile _ _ => []

/-- The delta of a tick that finds a hook. -/
def heard? (call : Made) : Option Binary32 :=
  match call.request with
  | .tick delta => if (call.host.hook? call.hold).isSome then some delta else none
  | .evaluate _ | .evaluateFile _ _ => none

/-- What a tick calls without a receiver. -/
def invocations (call : Made) : List FunctionCall := call.hostCalls.filter (·.receiver = .undefined)

/-- A tick reads the hook's name on the global object once and calls what it finds once, if that can be called. -/
structure Dispatches (call : Made) (delta : Binary32) : Prop where
  calls : ∃ told, call.hostCalls = call.host.getterCalls ++ call.host.hookCalls call.hold delta ++ told ∧
    (∀ c ∈ told, c.receiver ≠ .undefined) ∧ (call.reply = .ok () → told = [])
  found : ∀ v, call.host.Stores v →
    call.host.hook? call.hold = if (call.host.machine.memory.callable? v).isSome then some v else none
  missing : ∀ v, call.host.Stores v → call.host.machine.memory.callable? v = none →
    call.reply = .ok () ∧ call.after.machine.memory = call.host.machine.memory ∧ call.after.scene = call.host.scene ∧
      call.after.log = call.host.log
  unseen : ∀ lexicals, (call.host.withLexicals lexicals).hookProperty? = call.host.hookProperty?

theorem dispatches {h : Host} (idle : h.running = false) (hold : Hold) (delta : Binary32) :
    Dispatches ⟨h, hold, .tick delta⟩ delta where
  calls := by
    obtain ⟨seen, told, trace, calls, addressed, silent⟩ := h.tick_opens idle hold delta
    have all : Made.events ⟨h, hold, .tick delta⟩ = seen := events_eq trace
    refine ⟨told, ?_, addressed, silent⟩
    simp only [hostCalls, all]
    exact calls
  found _ stores := stores.hook? hold
  missing _ stores plain := h.tick_hookless idle stores plain hold delta
  unseen lexicals :=
    Memory.find?_heap (m := (h.withLexicals lexicals).machine.memory) (n := h.machine.memory) rfl _ _

/-- Getters are called on the global object, and thrown values on themselves. -/
theorem invocations_eq (call : Made) (idle : call.host.running = false) :
    call.invocations.map FunctionCall.arguments = call.heard?.toList.map fun delta => [.ofBinary delta.widen] := by
  obtain ⟨h, hold, request⟩ := call
  cases request with
  | evaluate source => rfl
  | evaluateFile path content => rfl
  | tick delta =>
    obtain ⟨told, calls, addressed, -⟩ := (dispatches idle hold delta).calls
    have asked : told.filter (·.receiver = .undefined) = [] := by
      simpa [List.filter_eq_nil_iff] using addressed
    have getter : h.getterCalls.filter (·.receiver = .undefined) = [] := by
      unfold Host.getterCalls
      split <;> simp [Run.intrinsic]
    rw [invocations, calls, List.filter_append, List.filter_append, asked, getter, List.append_nil, List.nil_append]
    unfold Host.hookCalls heard?
    cases h.hook? hold <;> rfl

end Made

namespace Host
variable {h : Host}

/-- Whatever is evaluated in between and whatever it does to the hook, and whether hooks fail or not: what hooks hear is
the deltas of the ticks that found one, in order, and each of them exactly. -/
theorem ticks_call_hook (reachable : h.Reachable) (requests : List (Hold × Request)) :
    (∀ call ∈ h.course requests, ∀ delta, call.request = .tick delta → call.Dispatches delta) ∧
    ((h.course requests).flatMap Made.invocations).map FunctionCall.arguments =
      ((h.course requests).filterMap Made.heard?).map (fun delta => [.ofBinary delta.widen]) ∧
    ∀ delta : Binary32, (Value.ofBinary delta.widen).number? = some delta.widen ∧
      delta.widen.datum.Same delta.datum := by
  have idle := course_idle reachable.idle requests
  refine ⟨?_, ?_, fun delta => ⟨Value.number?_ofBinary _, Binary.widen_same delta⟩⟩
  · rintro ⟨g, hold, request⟩ member delta rfl
    exact Made.dispatches (idle _ member) hold delta
  · generalize h.course requests = made at idle
    induction made with
    | nil => rfl
    | cons call rest ih =>
      have first := call.invocations_eq (idle call List.mem_cons_self)
      have later := ih fun call member => idle call (List.mem_cons_of_mem _ member)
      rw [List.flatMap_cons, List.map_append, first, later, List.filterMap_cons]
      cases call.heard? <;> rfl

/-- A program that leaves a hook behind. -/
def hooking : Source := .program [.function .function "onupdate" ["delta"] [.throwing (.name "delta")] false]

/-- A hook is called in every tick once it is there, also when it threw in the tick before. -/
theorem ticks_call_hook_throwing : ∃ h : Host, h.Reachable ∧
    ((h.course [(.free, .tick .one), (.free, .evaluate hooking), (.free, .tick .one), (.free, .tick (.zero true))]).flatMap
      Made.invocations).map FunctionCall.arguments =
        [[.ofBinary Binary32.one.widen], [.ofBinary (Binary.widen (.zero true))]] := by
  have heard : (build .ample .silent .default Module.standard .empty).toOption.any (fun h =>
      (h.course [(.free, .tick .one), (.free, .evaluate hooking), (.free, .tick .one), (.free, .tick (.zero true))]).filterMap
        Made.heard? = [.one, .zero true]) = true := by decide +kernel
  obtain ⟨h, built, heard⟩ := exists_built heard
  refine ⟨h, .built built, ?_⟩
  rw [(ticks_call_hook (.built built) _).2.1, of_decide_eq_true heard]
  rfl

end Host
end ScriptedScene
