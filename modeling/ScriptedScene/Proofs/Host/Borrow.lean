import ScriptedScene.Proofs.Guest.Borrow
import ScriptedScene.Proofs.Host.Lights

/-! Holds on the scene in whole runs. However calls of light functions nest, each finds the scene's cell as the embedder
has left it. While the embedder holds the scene, it stays as it is; when the hold ends, nothing is left of it, so that the
scene's history is that of the calls without a hold. -/
namespace ScriptedScene
open Guest

namespace Guest

/-- A call of a light function can be played on a scene in its cell: it borrows the scene and gives it back, or it cannot
and is refused. -/
def LightCall.PlaysInCell (c : LightCall) (b : Borrow) (s : Store) (b' : Borrow) (t : Store) : Prop :=
  match c.ended with
  | .unasked => b' = b ∧ t = s
  | .asked q answer =>
    match q.borrow? b with
    | none => answer = .error q.refusal ∧ b' = b ∧ t = s
    | some lent => b' = lent.giveBack ∧
      match s.answer q with
      | .ok (reading, scene) => answer = .ok reading ∧ t = scene
      | .error fault => answer = .error (.scene fault) ∧ t = s

/-- Calls of light functions can be played in turn on a scene in its cell. -/
inductive PlayedInCell : Borrow → Store → List LightCall → Borrow → Store → Prop
  | nil {b : Borrow} {s : Store} : PlayedInCell b s [] b s
  | cons {b b' b'' : Borrow} {s t u : Store} {c : LightCall} {rest : List LightCall} (first : c.PlaysInCell b s b' t)
    (later : PlayedInCell b' t rest b'' u) : PlayedInCell b s (c :: rest) b'' u

namespace LightCall.Plays
variable {c : LightCall} {hold : Hold} {s t : Store} {q : Inquiry} {answer : Except Fault Reading} {b : Borrow}

theorem told (plays : c.Plays hold s t) (asked : c.ended = .asked q answer) : answer = (s.consult hold q).map Prod.fst := by
  unfold LightCall.Plays at plays
  rw [asked] at plays
  cases answer with
  | ok reading =>
    dsimp only at plays
    rw [plays]
    rfl
  | error fault =>
    rw [plays.1]
    rfl

/-- A scene that is held does not move. -/
theorem still (plays : c.Plays hold s t) (held : hold ≠ .free) : t = s := by
  unfold LightCall.Plays at plays
  split at plays
  · exact plays
  · obtain ⟨unhindered, answer⟩ := Store.consult_eq_ok_iff.mp plays
    exact Store.eq_of_answer answer fun c same => held (Inquiry.free_of_change (same ▸ unhindered))
  · exact plays.2

theorem unchanged (plays : c.Plays hold s t) (held : hold ≠ .free) : c.change? = none := by
  obtain ⟨f, arguments, ended⟩ := c
  rcases ended with _ | ⟨q, fault | reading⟩
  · rfl
  · cases q <;> rfl
  · exact LightCall.change?_held plays held f arguments

theorem inCell (plays : c.Plays b.hold s t) : c.PlaysInCell b s b t := by
  unfold LightCall.PlaysInCell
  cases ended : c.ended with
  | unasked =>
    unfold LightCall.Plays at plays
    rw [ended] at plays
    exact ⟨rfl, plays⟩
  | asked q answer =>
    have told := plays.told ended
    unfold LightCall.Plays at plays
    rw [ended] at plays
    have obstacle := q.obstacle?_eq b
    dsimp only
    cases borrowed : q.borrow? b with
    | none =>
      rw [borrowed, Option.isSome_none, if_neg Bool.false_ne_true] at obstacle
      have refused : s.consult b.hold q = .error q.refusal := by simp only [Store.consult, obstacle]
      rw [refused] at told
      subst told
      exact ⟨rfl, rfl, plays.2⟩
    | some lent =>
      rw [borrowed, Option.isSome_some, if_pos rfl] at obstacle
      refine ⟨(Inquiry.giveBack_eq borrowed).symm, ?_⟩
      cases said : s.answer q with
      | ok reading =>
        have told' : s.consult b.hold q = .ok reading := Store.consult_eq_ok_iff.mpr ⟨obstacle, said⟩
        rw [told'] at told
        subst told
        dsimp only [Except.map] at plays
        rw [told'] at plays
        exact ⟨rfl, congrArg Prod.snd (Except.ok.inj plays).symm⟩
      | error fault =>
        have refused : s.consult b.hold q = .error (.scene fault) := by simp only [Store.consult, obstacle, said]
        rw [refused] at told
        subst told
        exact ⟨rfl, plays.2⟩

end LightCall.Plays

namespace Played
variable {hold : Hold} {s t : Store} {cs : List LightCall} {b : Borrow}

theorem inCell (h : Played b.hold s cs t) : PlayedInCell b s cs b t := by
  generalize same : b.hold = hold at h
  induction h with
  | nil => exact .nil
  | cons first _ ih => exact .cons (LightCall.Plays.inCell (same ▸ first)) ih

theorem still (h : Played hold s cs t) (held : hold ≠ .free) : t = s := by
  induction h with
  | nil => rfl
  | cons first _ ih => exact ih.trans (first.still held)

theorem unchanged (h : Played hold s cs t) (held : hold ≠ .free) : cs.filterMap LightCall.change? = [] := by
  induction h with
  | nil => rfl
  | cons first _ ih => rw [List.filterMap_cons_none (first.unchanged held), ih]

/-- Each call was told what some scene says. -/
theorem each (h : Played hold s cs t) : ∀ c ∈ cs, ∃ s' t', c.Plays hold s' t' ∧ (hold ≠ .free → s' = s) := by
  induction h with
  | nil => simp
  | cons first _ ih =>
    intro c member
    rcases List.mem_cons.mp member with rfl | later
    · exact ⟨_, _, first, fun _ => rfl⟩
    · obtain ⟨s', t', plays, same⟩ := ih c later
      exact ⟨s', t', plays, fun held => (same held).trans (first.still held)⟩

end Played

end Guest

namespace Made

/-- How light functions did while a call ran, for the hold that the embedder had on the scene. -/
structure Lent (call : Made) : Prop where
  cell (b : Borrow) (left : b.hold = call.hold) :
    PlayedInCell b call.host.scene call.lightCalls b call.after.scene
  /-- No function is refused for a hold where there is none. -/
  unheld (free : call.hold = .free) :
    ∀ c ∈ call.lightCalls, ∀ q fault, c.ended = .asked q (.error fault) → ∃ own, fault = .scene own
  /-- While the scene is read, changes are refused, and readings are what they are without a hold. -/
  reading (shared : call.hold = .shared) :
    ∀ c ∈ call.lightCalls, ∀ q answer, c.ended = .asked q answer →
      answer = if q.isChange then .error .sceneBorrowed else (call.host.scene.consult .free q).map Prod.fst
  /-- While the scene is changed, all that is asked of it is refused. -/
  changing (exclusive : call.hold = .exclusive) :
    ∀ c ∈ call.lightCalls, ∀ q answer, c.ended = .asked q answer →
      answer = .error (if q.isChange then .sceneBorrowed else .sceneBeingModified)
  still (held : call.hold ≠ .free) : call.after.scene = call.host.scene

theorem lent (call : Made) (idle : call.host.running = false) : call.Lent := by
  have played := call.played idle
  constructor
  case cell => exact fun b left => (left ▸ played).inCell
  case unheld =>
    intro free c member q fault ended
    obtain ⟨s, t, plays, -⟩ := played.each c member
    unfold LightCall.Plays at plays
    rw [ended] at plays
    have refused := plays.1
    rw [Store.consult, q.obstacle?_of_free free] at refused
    cases answer : s.answer q with
    | ok told =>
      rw [answer] at refused
      cases refused
    | error own =>
      rw [answer] at refused
      exact ⟨own, (Except.error.inj refused).symm⟩
  case reading =>
    intro shared c member q answer ended
    obtain ⟨s, t, plays, same⟩ := played.each c member
    have held : call.hold ≠ .free := by
      rw [shared]
      decide
    rw [plays.told ended, same held, shared]
    cases q <;> rfl
  case changing =>
    intro exclusive c member q answer ended
    obtain ⟨s, t, plays, -⟩ := played.each c member
    rw [plays.told ended, exclusive]
    cases q <;> rfl
  case still => exact played.still

end Made

namespace Host
variable {h : Host}

/-- Of a course's changes, none is made while the embedder holds the scene. -/
theorem changes_unheld (calls : List Made) (idle : ∀ call ∈ calls, call.host.running = false) :
    ((calls.filter (·.hold = .free)).flatMap Made.lightCalls).filterMap LightCall.change? =
      (calls.flatMap Made.lightCalls).filterMap LightCall.change? := by
  induction calls with
  | nil => rfl
  | cons call rest ih =>
    have later := ih fun other member => idle other (List.mem_cons_of_mem _ member)
    rw [List.flatMap_cons, List.filterMap_append, ← later]
    by_cases free : call.hold = .free
    · rw [List.filter_cons_of_pos (by simpa using free), List.flatMap_cons, List.filterMap_append]
    · have none : call.lightCalls.filterMap LightCall.change? = [] :=
        (call.played (idle call List.mem_cons_self)).unchanged free
      rw [List.filter_cons_of_neg (by simpa using free), none, List.nil_append]

/-- What guests notice of the embedder's holds on the scene in some calls of a host in turn. -/
structure SceneLent (h : Host) (requests : List (Hold × Request)) : Prop where
  /-- A light function borrows the scene for as long as the scene answers; guest code runs before that or after, and so a
  call that comes of another finds the scene's cell as that did. -/
  functions : ∀ f : LightFunction, f.Lent
  calls : ∀ call ∈ h.course requests, call.Lent
  /-- The scene's history is that of the calls without a hold. -/
  replayed :
    h.scene.replay ((((h.course requests).filter (·.hold = .free)).flatMap Made.lightCalls).filterMap LightCall.change?) =
      .ok (h.after requests).scene
  /-- What waits for a hold to end is refused in the engine's own class of errors. -/
  refusals : ∀ f : LightFunction, f.refusal.errorClass = .internalError ∧ f.refusal.message =
    if f.changes then "scene is borrowed by the host" else "scene is being modified by the host"
  /-- The one fault of the scene's own that is of this class says something else. -/
  distinct : ∀ own : SceneFault, (Fault.scene own).errorClass = .internalError →
    ∀ f : LightFunction, (Fault.scene own).message ≠ f.refusal.message

/-- Holds on the scene are noticed in nothing but refusals: readings while the scene is read are what they are without a
hold, what is refused leaves the scene as it is, and when the hold is over, the same calls are told what they would have
been told. -/
theorem scene_lent (reachable : h.Reachable) (requests : List (Hold × Request)) : h.SceneLent requests := by
  have idle := course_idle reachable.idle requests
  constructor
  case functions => exact LightFunction.lent
  case calls => exact fun call member => call.lent (idle call member)
  case replayed =>
    rw [changes_unheld _ idle]
    exact course_replay reachable.idle requests
  case refusals =>
    intro f
    unfold LightFunction.refusal
    cases f.changes <;> exact ⟨rfl, by decide +kernel⟩
  case distinct =>
    intro own internal f
    unfold LightFunction.refusal
    cases own with
    | full => cases f.changes <;> decide +kernel
    | _ => cases internal

/-- Makes a light, if it can, and counts the lights. -/
def spotting : Source :=
  let light (f : Units) (arguments : List Expr) : Stmt :=
    .expression (.call (.member (.member (.name "WebSG") "light") f) arguments)
  .program [.guarded [light "create" [.text "spot"]] "e" [], light "count" []]

/-- The same program twice. While the embedder reads the scene, there is no light to be made. -/
theorem scene_lent_twice : ∃ h : Host, h.Reachable ∧
    (h.course [(.shared, .evaluate spotting), (.free, .evaluate spotting)]).map (·.lightCalls.length) = [2, 2] ∧
    Store.empty.replay [.create .spot none] =
      .ok (h.after [(.shared, .evaluate spotting), (.free, .evaluate spotting)]).scene := by
  have told : (build .ample (.asking [.tick .one]) .default Module.standard .empty).toOption.any (fun h => h.scene = .empty ∧
      (h.course [(.shared, .evaluate spotting), (.free, .evaluate spotting)]).map (·.lightCalls.length) = [2, 2] ∧
      (((h.course [(.shared, .evaluate spotting), (.free, .evaluate spotting)]).filter (·.hold = .free)).flatMap
        Made.lightCalls).filterMap LightCall.change? = [.create .spot none]) = true := by decide +kernel
  obtain ⟨h, built, told⟩ := exists_built told
  obtain ⟨scene, calls, changes⟩ := of_decide_eq_true told
  have replay := (scene_lent (.built built) [(.shared, .evaluate spotting), (.free, .evaluate spotting)]).replayed
  rw [scene, changes] at replay
  exact ⟨h, .built built, calls, replay⟩

end Host
end ScriptedScene
