import ScriptedScene.Proofs.Guest.Lights
import ScriptedScene.Proofs.Host.Counting
import ScriptedScene.Proofs.Host.Lockstep

/-! The light functions as they are called in whole runs. The calls on record can be played on the scene as it was: each
of them was told what the scene said then, and the scene moved by those that returned and had a change to make, in
order. No matter how calls nest, where they are caught and what becomes of the rest of a program. -/
namespace ScriptedScene
open Guest

namespace Guest

/-- A call of a light function can be played on a scene: the scene says what the call was told, and comes to the other. -/
def LightCall.Plays (c : LightCall) (hold : Hold) (s t : Store) : Prop :=
  match c.ended with
  | .unasked => t = s
  | .asked q (.ok reading) => s.consult hold q = .ok (reading, t)
  | .asked q (.error fault) => s.consult hold q = .error fault ∧ t = s

/-- Calls of light functions can be played on a scene in turn. -/
inductive Played (hold : Hold) : Store → List LightCall → Store → Prop
  | nil {s : Store} : Played hold s [] s
  | cons {s t u : Store} {c : LightCall} {rest : List LightCall} (first : c.Plays hold s t) (later : Played hold t rest u) :
    Played hold s (c :: rest) u

namespace Played
variable {hold : Hold} {s t u : Store} {cs ds : List LightCall}

theorem append (h : Played hold s cs t) (k : Played hold t ds u) : Played hold s (cs ++ ds) u := by
  induction h with
  | nil => exact k
  | cons first _ ih => exact .cons first (ih k)

/-- Only the calls that returned and had a change to make move the scene. -/
theorem replay (h : Played hold s cs t) : s.replay (cs.filterMap LightCall.change?) = .ok t := by
  induction h with
  | nil => rfl
  | @cons s t u c rest first _ ih =>
    -- One call alone: it moved the scene by its change, or it had none and the scene stayed.
    have step : s.replay c.change?.toList = .ok t := by
      obtain ⟨f, arguments, ended⟩ := c
      unfold LightCall.Plays at first
      cases ended with
      | unasked =>
        cases first
        rfl
      | asked q answer =>
        cases answer with
        | error fault =>
          obtain ⟨-, rfl⟩ := first
          cases q <;> rfl
        | ok reading => exact LightCall.replay_change first f arguments
    rw [List.filterMap_cons]
    cases change : c.change? with
    | none =>
      rw [change] at step
      cases step
      exact ih
    | some change' =>
      rw [change] at step
      simp only [Store.replay, Option.toList, List.foldlM_cons, List.foldlM_nil, bind_pure] at step ih ⊢
      rw [step]
      exact ih

end Played

/-- From one machine to another, while a call of the host runs, the calls on record can be played on the scene. -/
structure Proxies (hold : Hold) (before after : Machine) : Prop where
  running : after.ledger.running
  played : ∃ events, after.trace.toList = before.trace.toList ++ events ∧
    Played hold before.scene (events.filterMap Event.light?) after.scene

namespace Proxies
variable {hold : Hold} {a b c : Machine}

theorem refl (hold : Hold) (running : a.ledger.running) : Proxies hold a a := ⟨running, [], by simp, .nil⟩

theorem trans (h : Proxies hold a b) (k : Proxies hold b c) : Proxies hold a c := by
  obtain ⟨-, es, first, played⟩ := h
  obtain ⟨running, fs, second, next⟩ := k
  refine ⟨running, es ++ fs, by rw [second, first, List.append_assoc], ?_⟩
  rw [List.filterMap_append]
  exact played.append next

theorem quiet (running : a.ledger.running) (visit : Quiet a b) : Proxies hold a b := by
  obtain ⟨told, silent, rfl⟩ := visit
  have none : told.filterMap Event.light? = [] :=
    List.filterMap_eq_nil_iff.mpr fun e member => (silent e member).silent.2.1
  exact ⟨running, told, by simp, none ▸ .nil⟩

theorem mark (running : a.ledger.running) (e : Event) (other : e.light? = none) : Proxies hold a (a.mark e) :=
  ⟨running, [e], by simp [Machine.mark], by simpa [other] using .nil⟩

theorem light (running : a.ledger.running) {c : LightCall} {scene : Store} (plays : c.Plays hold a.scene scene) :
    Proxies hold a { a.mark (.light c) with scene } :=
  ⟨running, [.light c], by simp [Machine.mark], .cons plays .nil⟩

theorem deliver (running : a.ledger.running) (outside : Outside) (r : LogRecord) : Proxies hold a (outside.deliver r a) :=
  have written : Proxies hold a (a.write r) := ⟨running, [], by simp [Machine.write], .nil⟩
  written.trans (quiet running ((outside.receive_visited r (a.write r)).quiet running))

theorem consult (running : a.ledger.running) (f : LightFunction) (arguments : List Value) (q : Inquiry) :
    Proxies hold a (a.consult hold f arguments q).2 := by
  unfold Machine.consult
  cases answer : a.scene.consult hold q with
  | error fault => exact light running (c := ⟨f, arguments, .asked q (.error fault)⟩) ⟨answer, rfl⟩
  | ok told => exact light running (c := ⟨f, arguments, .asked q (.ok told.1)⟩) answer

end Proxies

/-- Every call of a light function is on record, with what it was told. -/
def Invariant.proxies (outside : Outside) (start : Machine) : Invariant outside where
  Holds m := Proxies outside.hold start m
  revise h _ := ⟨h.running, h.played⟩
  say h method texts :=
    have marked := h.trans (.mark h.running (.console method texts) rfl)
    marked.trans (.deliver marked.running outside (method.record texts))
  serve h name arguments := h.trans (.quiet h.running ((outside.serve_visited name arguments _).quiet h.running))
  consult h f arguments q := h.trans (.consult h.running f arguments q)
  unasked h f arguments := h.trans (.light h.running (c := ⟨f, arguments, .unasked⟩) rfl)
  called h depth _ f receiver arguments := h.trans (.mark h.running (.called depth f receiver arguments) rfl)

end Guest

namespace Made

/-- The calls of light functions that were made while a call ran. -/
def lightCalls (call : Made) : List LightCall := call.events.filterMap Event.light?

theorem played (call : Made) (idle : call.host.running = false) :
    Played call.hold call.host.scene call.lightCalls call.after.scene := by
  obtain ⟨h, hold, request⟩ := call
  obtain ⟨n, counters, ⟨-, seen, trace, played⟩, after⟩ := Machine.perform_keeps
    (.proxies (h.outside hold) h.machine.enter) (fun kept r => kept.trans (.deliver kept.running (h.outside hold) r)) h.engine
    h.config request idle (.refl _ rfl)
  rw [Host.outside_hold] at played
  have same : (h.perform hold request).2.machine = (n.count counters).leave := after
  have all : Made.events ⟨h, hold, request⟩ = seen := events_eq ((congrArg (·.trace.toList) same).trans trace)
  have scene : (h.perform hold request).2.scene = n.scene := by
    rw [Host.scene, same]
    rfl
  simp only [lightCalls, all, Made.after, scene]
  exact played

end Made

namespace Host
variable {h : Host}

/-- The scene after some calls in turn is the one before with the changes made that were asked for while they ran. -/
theorem course_replay (idle : h.running = false) (requests : List (Hold × Request)) :
    h.scene.replay (((h.course requests).flatMap Made.lightCalls).filterMap LightCall.change?) =
      .ok (h.after requests).scene := by
  induction requests generalizing h with
  | nil => rfl
  | cons first rest ih =>
    obtain ⟨hold, request⟩ := first
    have step := (Made.played ⟨h, hold, request⟩ idle).replay
    have later := ih (perform_running h hold request idle)
    simp only [Store.replay] at step later ⊢
    rw [course, List.flatMap_cons, List.filterMap_append, List.foldlM_append, step]
    exact later

/-- The light functions are a faithful way to the scene in some calls of a host in turn. -/
structure LightsProxied (h : Host) (requests : List (Hold × Request)) : Prop where
  /-- Every call of a light function was told what the scene said then. -/
  played : ∀ call ∈ h.course requests, Played call.hold call.host.scene call.lightCalls call.after.scene
  /-- The scene is the one before with the changes made of the calls that returned, in order. -/
  replayed : h.scene.replay (((h.course requests).flatMap Made.lightCalls).filterMap LightCall.change?) =
    .ok (h.after requests).scene
  /-- A call asks what its arguments say and shows what it is told, or it throws and of its own changes nothing. -/
  each : ∀ (f : LightFunction) (call : Call) (arguments : List Value) (outside : Outside) (m : Machine),
    Proxied call outside f arguments m ((f.run call arguments).run outside m)
  /-- Ids are handles for their own lights, as long as a guest gets to see them without a sign. -/
  handles : ∀ id other : LightId,
    (Run.ofWord id.raw).Designates other ↔ other = id ∧ id.raw ≠ 0 ∧ id.raw.toNat < 2147483648
  /-- The scene's faults become error objects of their class. -/
  classes : ∀ fault : SceneFault, (Fault.scene fault).errorClass =
    match fault with
    | .unknownLight _ => .referenceError
    | .invalidIntensity _ => .rangeError
    | .unknownKind _ | .duplicateName _ | .invalidColor => .typeError
    | .full => .internalError
  /-- A kind that there is none of is told of before the scene is asked. -/
  kinds : ∀ (t : Units) (spelling : String) (rest : List Value), t.decode = .ok spelling →
    LightKind.ofName? spelling = none →
    (rest = [] ∨ ∃ u name others, rest = .text u :: others ∧ u.decode = .ok name) →
    ∀ (call : Call) (outside : Outside) (m : Machine), ∃ e memory,
      (LightFunction.create.run call (.text t :: rest)).run outside m =
        (.error e, { m with memory }.mark (.light ⟨.create, .text t :: rest, .unasked⟩)) ∧
      memory.IsFault e (.scene (.unknownKind spelling))

/-- Whatever programs do with the light functions, no matter how calls nest and where they are caught. -/
theorem lights_proxied (reachable : h.Reachable) (requests : List (Hold × Request)) : h.LightsProxied requests where
  played call member := call.played (course_idle reachable.idle requests call member)
  replayed := course_replay reachable.idle requests
  each f call arguments outside m := f.run_proxied call arguments outside m
  handles _ _ := Value.designates_ofWord_iff
  classes fault := by cases fault <;> rfl
  kinds _ _ _ text unknown named call outside m := LightFunction.create_unknownKind text unknown named call outside m

/-- Makes a light and gives it an intensity, which is no number at first. -/
def lighting : Source :=
  let light (f : Units) (arguments : List Expr) : Expr :=
    .call (.member (.member (.name "WebSG") "light") f) arguments
  .program [
    .declaration .constant "lamp" (light "create" [.text "spot"]),
    .guarded [.expression (light "setIntensity" [.name "lamp", .text "bright"])] "e" [],
    .expression (light "setIntensity" [.name "lamp", .number (.zero false)])]

/-- The two calls that return are the scene's history, whatever became of the one between them. -/
theorem lights_proxied_lighting : ∃ h : Host, h.Reachable ∧
    Store.empty.replay [.create .spot none, .intensity ⟨1⟩ (.zero false)] =
      .ok (h.after [(.free, .evaluate lighting)]).scene := by
  have told : (build .ample (.asking [.tick .one]) .default Module.standard .empty).toOption.any (fun h => h.scene = .empty ∧
      ((h.course [(.free, .evaluate lighting)]).flatMap Made.lightCalls).filterMap LightCall.change? =
        [.create .spot none, .intensity ⟨1⟩ (.zero false)]) = true := by decide +kernel
  obtain ⟨h, built, told⟩ := exists_built told
  obtain ⟨scene, changes⟩ := of_decide_eq_true told
  have replay := (lights_proxied (.built built) [(.free, .evaluate lighting)]).replayed
  rw [scene, changes] at replay
  exact ⟨h, .built built, replay⟩

end Host
end ScriptedScene
