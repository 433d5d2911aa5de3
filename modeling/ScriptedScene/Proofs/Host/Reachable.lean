import ScriptedScene.Host.Basic

/-! The hosts that an embedder has in its hands between two calls. None of them runs a call, whatever was asked of them
and whatever the guests and the embedder did then. -/
namespace ScriptedScene
namespace Host
open Guest

/-- A host as it was built, or after something that can be done to it from outside. -/
inductive Reachable : Host → Prop
  | built {engine : Engine} {e : Embedder} {c : Config} {modules : List Module} {scene : Store} {h : Host}
    (built : build engine e c modules scene = .ok h) : Reachable h
  | performed {h : Host} (reachable : Reachable h) (hold : Hold) (request : Request) :
    Reachable (h.perform hold request).2
  | read {h : Host} (reachable : Reachable h) (hold : Hold) (names : List String) : Reachable (h.read hold names).2
  | withScene {h : Host} (reachable : Reachable h) (scene : Store) : Reachable (h.withScene scene)
  | withLog {h : Host} (reachable : Reachable h) (log : Log) : Reachable (h.withLog log)

variable {engine : Engine} {e : Embedder} {c : Config} {modules : List Module} {scene : Store} {h : Host}

theorem build_new (built : build engine e c modules scene = .ok h) : h.running = false ∧ h.counters = .zero := by
  unfold build at built
  split at built
  · cases built
  · split at built <;> cases built
    exact ⟨rfl, rfl⟩

/-- What is computed of a host that is built says that it can be built. -/
theorem exists_built {p : Host → Bool} (computed : (build engine e c modules scene).toOption.any p = true) :
    ∃ h, build engine e c modules scene = .ok h ∧ p h = true := by
  cases built : build engine e c modules scene with
  | error fault =>
    rw [built] at computed
    cases computed
  | ok h =>
    rw [built] at computed
    exact ⟨h, rfl, computed⟩

/-- The standard modules can be installed, and a host of them has an embedder that asks back. -/
theorem build_asking : ∃ h, build .ample (.asking [.tick .one]) .default Module.standard .empty = .ok h := by
  have made : (build .ample (.asking [.tick .one]) .default Module.standard .empty).toOption.any (fun _ => true) = true := by
    decide +kernel
  obtain ⟨h, built, -⟩ := exists_built made
  exact ⟨h, built⟩

theorem outside_hold (h : Host) (hold : Hold) : (h.outside hold).hold = hold := by
  unfold outside
  induction h.embedder.depth with
  | zero => rfl
  | succ depth ih => exact ih

theorem perform_running (h : Host) (hold : Hold) (request : Request) (idle : h.running = false) :
    (h.perform hold request).2.running = false := by
  obtain ⟨events, written, performed⟩ :=
    (Machine.perform_guarded h.engine h.config (h.outside hold) request h.machine).2 (by simpa [running] using idle)
  exact performed.running.trans idle

theorem read_running (h : Host) (hold : Hold) (names : List String) (idle : h.running = false) :
    (h.read hold names).2.running = false := by
  have follows := (Run.each (Description.ofGlobal h.calls.call) names).follows (.silent hold) h.machine
  unfold read
  revert follows
  rcases (Run.each (Description.ofGlobal h.calls.call) names).run (.silent hold) h.machine with ⟨_ | _, _⟩
  · rintro ⟨_, follows⟩
    exact follows.running.trans idle
  · rintro ⟨_, follows⟩
    exact follows.running.trans idle

theorem Reachable.idle (reachable : h.Reachable) : h.running = false := by
  induction reachable with
  | built built => exact (build_new built).1
  | performed reachable hold request idle => exact perform_running _ hold request idle
  | read reachable hold names idle => exact read_running _ hold names idle
  | withScene reachable scene idle => exact idle
  | withLog reachable log idle => exact idle

end Host
end ScriptedScene
