import ScriptedScene.Command
import ScriptedScene.Proofs.Clock.Drift
import ScriptedScene.Proofs.Host.Console
import ScriptedScene.Proofs.Host.Lights
import ScriptedScene.Proofs.Scene.Index

/-! A run of the command, by the calls that it makes of its host. It fails in one of four places before the first tick, or
it makes as many ticks as it is asked for, all of one delta. What a tick prints is what guests said while it ran and, if the
hook threw, the report of that and a warning with the tick's number. The end tells what the host counted, and lists the
lights that the calls have left. -/
namespace ScriptedScene
open Guest

namespace Store
variable {s t : Store}

theorem Sound.replay (sound : s.Sound) {changes : List Change} (replayed : s.replay changes = .ok t) : t.Sound := by
  induction changes generalizing s with
  | nil =>
    cases replayed
    exact sound
  | cons c rest ih =>
    have next := sound.request c
    simp only [Store.replay, List.foldlM_cons, apply] at replayed
    revert next replayed
    rcases s.request c with ⟨_ | made, u⟩
    · intro _ refused
      cases refused
    · intro next replayed
      exact ih next replayed

theorem Sound.entries_ids (sound : s.Sound) : s.entries.map (fun entry => entry.1.raw.toNat) = List.range' 1 s.size := by
  have numbered := congrArg (List.map Prod.snd) sound.entries_eq
  rw [List.map_map, List.zipIdx_map_snd, Array.length_toList] at numbered
  exact numbered

end Store

namespace Host
variable {h : Host}

/-- What the modules do to the scene while they are installed can be asked of a scene. -/
theorem build_sound {engine : Engine} {e : Embedder} {c : Config} {modules : List Module} {scene : Store}
    (built : build engine e c modules scene = .ok h) (sound : scene.Sound) : h.scene.Sound := by
  obtain ⟨events, installed⟩ := (Module.install engine c modules).follows (.silent .free) (Machine.new scene)
  have kept := sound.replay installed.scene
  unfold build at built
  revert kept
  split at built
  · cases built
  · split at built
    · rename_i machine made
      cases built
      rw [made]
      exact id
    · cases built
    · cases built

theorem create_new {engine : Engine} {c : Config} (created : create engine c .empty = .ok h) :
    h.running = false ∧ h.counters = .zero ∧ h.scene.Sound := by
  unfold create withModules at created
  obtain ⟨idle, zero⟩ := build_new created
  exact ⟨idle, zero, build_sound created .empty⟩

theorem after_sound (idle : h.running = false) (sound : h.scene.Sound) (requests : List (Hold × Request)) :
    (h.after requests).scene.Sound :=
  sound.replay (course_replay idle requests)

theorem course_requests (h : Host) (requests : List (Hold × Request)) :
    (h.course requests).map (fun call => (call.hold, call.request)) = requests := by
  induction requests generalizing h with
  | nil => rfl
  | cons first rest ih => exact congrArg (first :: ·) (ih _)

end Host

namespace Command

theorem newLines_eq {before after : Host} {records : List LogRecord}
    (written : after.log.records.toList = before.log.records.toList ++ records) :
    newLines before after = records.flatMap recordLines := by
  have suffix : (after.log.records.extract before.log.size after.log.size).toList =
      after.log.records.toList.drop before.log.size := by
    rw [Array.toList_extract, List.extract_eq_take_drop]
    exact List.take_of_length_le (by simp [Log.size])
  rw [newLines, suffix, written, Log.size, ← Array.length_toList, List.drop_left]

/-- What a tick prints, given its number: a failure is reported by the host and then warned of by the command. -/
def tickLines (call : Made) (position : Nat) : List String :=
  call.said.flatMap recordLines ++
    match call.failure? with
    | some d => recordLines (d.report tickLabel) ++
        linesOf ("WARN wasgi: " ++ Text.shown ("update hook failed: " ++ d.message) ++ " tick=" ++ toString position)
    | none => []

theorem warning_eq (d : Diagnostic) (position : Nat) : warning (.invocation d) position =
    linesOf ("WARN wasgi: " ++ Text.shown ("update hook failed: " ++ d.message) ++ " tick=" ++ toString position) := by
  have start : "WARN" ++ " " ++ "wasgi" ++ ": " = "WARN wasgi: " := by decide
  have tick : " " ++ "tick" ++ "=" = " tick=" := by decide
  unfold warning line field
  rw [start, tick, ← String.append_assoc]
  rfl

/-- What is told of a whole session. -/
def summaryLine (ticks hookCalls failures : Nat) (simulated : Span) : String :=
  "INFO wasgi: simulation finished ticks=" ++ toString ticks ++ " hook_calls=" ++ toString hookCalls ++
    " failures=" ++ toString failures ++ " simulated=" ++ simulated.shown

theorem summary_eq (counters : Counters) (simulated : Span) :
    summary counters simulated =
      summaryLine counters.ticks.toNat counters.hookCalls.toNat counters.failures.toNat simulated := by
  have ticks : line "INFO" "wasgi" "simulation finished" ++ " " ++ "ticks" ++ "=" =
      "INFO wasgi: simulation finished ticks=" := by decide
  have hookCalls : " " ++ "hook_calls" ++ "=" = " hook_calls=" := by decide
  have failures : " " ++ "failures" ++ "=" = " failures=" := by decide
  have span : " " ++ "simulated" ++ "=" = " simulated=" := by decide
  unfold summary field summaryLine
  rw [hookCalls, failures, span, ← ticks]
  simp only [String.append_assoc]
  rfl

/-- The calls of a number of ticks of one delta. -/
def requests (delta : Binary32) (n : Nat) : List (Hold × Request) := List.replicate n (.free, .tick delta)

namespace Session

def next (s : Session) : Made := ⟨s.host, .free, .tick s.clock.delta⟩

theorem tick_eq (s : Session) (idle : s.host.running = false) :
    s.tick = (tickLines s.next (s.clock.ticks + 1), ⟨s.next.after, s.clock.advance⟩) := by
  have reports : s.host.Reports .free tickLabel .invocation _ (s.next.reply, s.next.after) :=
    Host.tick_reports idle .free s.clock.delta
  have written : newLines s.host s.next.after =
      (s.next.said ++ (s.next.failure?.map (·.report tickLabel)).toList).flatMap recordLines :=
    newLines_eq (Made.reports_written (fun _ => rfl) reports)
  have parts : s.host.tick .free s.clock.delta = (s.next.reply, s.next.after) := rfl
  obtain ⟨threw, other⟩ := s.host.tick_reply idle .free s.clock.delta
  unfold tick tickLines
  rw [parts]
  by_cases hook : s.host.hookEnd .free s.clock.delta = .threw
  · obtain ⟨d, answer⟩ := threw hook
    have told : s.next.reply = .error (.invocation d) := answer
    have failure : s.next.failure? = some d := by rw [Made.failure?, told]; rfl
    rw [failure] at written ⊢
    rw [Option.map_some, Option.toList_some, List.flatMap_append, List.flatMap_singleton] at written
    rw [told]
    dsimp only
    rw [written, warning_eq, List.append_assoc]
    rfl
  · have passed : s.next.reply = .ok () := other hook
    have failure : s.next.failure? = none := by rw [Made.failure?, passed]
    rw [failure] at written ⊢
    rw [Option.map_none, Option.toList_none, List.append_nil] at written
    rw [passed]
    dsimp only
    rw [written, List.append_nil]

/-- Ticks are gathered from the last to the first, numbered on from the clock's. -/
theorem ticks_eq (s : Session) (idle : s.host.running = false) (lines : List String) (n : Nat) :
    s.ticks lines n =
      ((((s.host.course (requests s.clock.delta n)).zipIdx (s.clock.ticks + 1)).flatMap
          fun (call, position) => tickLines call position).reverse ++ lines,
        ⟨s.host.after (requests s.clock.delta n), s.clock.advanceBy n⟩) := by
  induction n generalizing s lines with
  | zero => rfl
  | succ n ih =>
    have later := Host.perform_running s.host .free (.tick s.clock.delta) idle
    rw [ticks, s.tick_eq idle]
    dsimp only
    rw [ih ⟨s.next.after, s.clock.advance⟩ later]
    have course : s.host.course (requests s.clock.delta (n + 1)) =
        s.next :: s.next.after.course (requests s.clock.delta n) := rfl
    rw [course, List.zipIdx_cons, List.flatMap_cons, List.reverse_append, List.append_assoc]
    rfl

end Session
variable {engine : Engine} {o : Options} {config : Except FileFault String} {script : Except FileFault Source}
  {c : Config} {host loaded : Host} {source : Source}

/-- What comes before the first tick goes well, in this order. -/
structure Loads (engine : Engine) (o : Options) (config : Except FileFault String) (script : Except FileFault Source)
    (c : Config) (host : Host) (source : Source) (loaded : Host) : Prop where
  configured : configuration o config = .ok c
  created : Host.create engine c .empty = .ok host
  read : script = .ok source
  evaluated : host.evaluate .free source = (.ok (), loaded)

/-- The lines of what is written before the script's guest has a say. -/
def opening (o : Options) (c : Config) : List String :=
  greeting :: readyLine c Module.standard ++ loadingLine o.script

/-- What is written before the first tick, if nothing fails. -/
def preamble (o : Options) (c : Config) (host : Host) (source : Source) : List String :=
  opening o c ++ (Made.said ⟨host, .free, .evaluate source⟩).flatMap recordLines

/-- Where a command fails before the first tick, with the lines of its log and those of its error. -/
inductive Fails (engine : Engine) (o : Options) (config : Except FileFault String) (script : Except FileFault Source) :
    List String → List String → Prop
  | configuration {fault : Config.Fault} (refused : configuration o config = .error fault) :
    Fails engine o config script [greeting] (failureLines fault.message (configCauses fault))
  | creation {c : Config} {fault : HostFault} (configured : Command.configuration o config = .ok c)
    (refused : Host.create engine c .empty = .error fault) :
    Fails engine o config script [greeting] (failureLines "failed to start script host" (hostCauses fault))
  | reading {c : Config} {host : Host} {cause : FileFault} (configured : Command.configuration o config = .ok c)
    (created : Host.create engine c .empty = .ok host) (unread : script = .error cause) :
    Fails engine o config script (greeting :: readyLine c Module.standard)
      (failureLines ("failed to load " ++ o.script) (hostCauses (.unreadable o.script cause)))
  | evaluation {c : Config} {host : Host} {source : Source} {d : Diagnostic}
    (configured : Command.configuration o config = .ok c) (created : Host.create engine c .empty = .ok host)
    (read : script = .ok source) (threw : (host.evaluate .free source).1 = .error (.evaluation d)) :
    Fails engine o config script (preamble o c host source ++ recordLines (d.report evaluationLabel))
      (failureLines ("failed to load " ++ o.script) (hostCauses (.evaluation d)))

theorem evaluation_lines (idle : host.running = false) (source : Source) :
    newLines host (host.evaluate .free source).2 =
      (Made.said ⟨host, .free, .evaluate source⟩ ++
        ((Made.failure? ⟨host, .free, .evaluate source⟩).map (·.report evaluationLabel)).toList).flatMap recordLines :=
  have reports : host.Reports .free evaluationLabel .evaluation _
      (Made.reply ⟨host, .free, .evaluate source⟩, Made.after ⟨host, .free, .evaluate source⟩) :=
    Host.evaluate_reports idle .free source
  newLines_eq (Made.reports_written (fun _ => rfl) reports)

theorem start_of_loads (loads : Loads engine o config script c host source loaded) :
    start engine o config script = (preamble o c host source, .ok ⟨loaded, .new o.rate⟩) := by
  have idle := (Host.create_new loads.created).1
  have failure : Made.failure? ⟨host, .free, .evaluate source⟩ = none := by
    rw [Made.failure?, Made.reply, Host.perform_evaluate, loads.evaluated]
  have lines := evaluation_lines idle source
  rw [failure, loads.evaluated, Option.map_none, Option.toList_none, List.append_nil] at lines
  have evaluated : host.evaluateFile .free o.script script = (.ok (), loaded) := by
    rw [loads.read]
    exact loads.evaluated
  unfold start
  rw [loads.configured]
  dsimp only
  rw [loads.created]
  dsimp only
  rw [evaluated, loads.read]
  dsimp only
  rw [lines]
  rfl

theorem start_of_fails {out err : List String} (fails : Fails engine o config script out err) :
    start engine o config script = (out, .error err) := by
  unfold start
  cases fails with
  | configuration refused => rw [refused]
  | creation configured refused =>
    rw [configured]
    dsimp only
    rw [refused]
  | @reading c host cause configured created unread =>
    -- The host was not called, so its log has no more to show.
    have nothing : newLines host host = [] := newLines_eq (List.append_nil _).symm
    rw [configured]
    dsimp only
    rw [created, unread]
    dsimp only [Host.evaluateFile]
    rw [Host.perform_unreadable]
    dsimp only
    rw [nothing, List.append_nil, List.append_nil]
  | @evaluation c host source d configured created read threw =>
    have idle := (Host.create_new created).1
    have failure : Made.failure? ⟨host, .free, .evaluate source⟩ = some d := by
      rw [Made.failure?, Made.reply, Host.perform_evaluate, threw]
      rfl
    have lines := evaluation_lines idle source
    rw [failure, Option.map_some, Option.toList_some, List.flatMap_append, List.flatMap_singleton] at lines
    have evaluated : host.evaluateFile .free o.script script = (.error (.evaluation d), (host.evaluate .free source).2) := by
      rw [read]
      exact Prod.ext threw rfl
    rw [configured]
    dsimp only
    rw [created]
    dsimp only
    rw [evaluated, read]
    dsimp only
    rw [lines, ← List.append_assoc]
    rfl

/-- A command starts its session, or fails in one of the ways that there are. -/
theorem loads_or_fails (engine : Engine) (o : Options) (config : Except FileFault String)
    (script : Except FileFault Source) :
    (∃ c host source loaded, Loads engine o config script c host source loaded) ∨
      ∃ out err, Fails engine o config script out err := by
  cases configured : configuration o config with
  | error fault => exact .inr ⟨_, _, .configuration configured⟩
  | ok c =>
    cases created : Host.create engine c .empty with
    | error fault => exact .inr ⟨_, _, .creation configured created⟩
    | ok host =>
      cases read : script with
      | error cause => exact .inr ⟨_, _, .reading configured created rfl⟩
      | ok source =>
        rcases host.evaluate_reply (Host.create_new created).1 .free source with passed | ⟨d, threw⟩
        · exact .inl ⟨c, host, source, _, configured, created, rfl, Prod.ext passed rfl⟩
        · exact .inr ⟨_, _, .evaluation configured created rfl threw⟩

theorem run_of_fails {out err : List String} (fails : Fails engine o config script out err) :
    run engine o config script = ⟨1, out, err⟩ := by
  unfold run
  rw [start_of_fails fails]

def ticked (o : Options) (loaded : Host) : List Made := loaded.course (requests (Clock.new o.rate).delta o.ticks.toNat)

def final (o : Options) (loaded : Host) : Host := loaded.after (requests (Clock.new o.rate).delta o.ticks.toNat)

theorem Loads.idle (loads : Loads engine o config script c host source loaded) : loaded.running = false := by
  have kept := Host.perform_running host .free (.evaluate source) (Host.create_new loads.created).1
  rw [Host.perform_evaluate, loads.evaluated] at kept
  exact kept

theorem Loads.counters (loads : Loads engine o config script c host source loaded) : loaded.counters = .zero := by
  obtain ⟨idle, zero, -⟩ := Host.create_new loads.created
  have kept := host.evaluate_counters idle .free source
  rw [loads.evaluated, zero] at kept
  exact kept

theorem Loads.sound (loads : Loads engine o config script c host source loaded) : loaded.scene.Sound := by
  obtain ⟨idle, -, sound⟩ := Host.create_new loads.created
  have kept := Host.after_sound idle sound [(.free, .evaluate source)]
  simp only [Host.after, List.foldl_cons, List.foldl_nil, Host.perform_evaluate, loads.evaluated] at kept
  exact kept

theorem run_of_loads (loads : Loads engine o config script c host source loaded) :
    run engine o config script = ⟨0, preamble o c host source ++
      ((ticked o loaded).zipIdx 1).flatMap (fun (call, position) => tickLines call position) ++
      summary (final o loaded).counters ⟨o.ticks.toNat * (nanosPerSecond / max o.rate 1)⟩ ::
        (final o loaded).scene.entries.map fun (id, light) => lightLine id light, []⟩ := by
  unfold run
  rw [start_of_loads loads]
  dsimp only
  rw [Session.ticks_eq _ loads.idle]
  dsimp only
  rw [List.append_nil, List.reverse_reverse, Session.closing, Clock.advanceBy_eq]
  dsimp only
  rw [show (Clock.new o.rate).total.nanos = 0 from rfl, Nat.zero_add]
  rfl

theorem mem_ticked {call : Made} (member : call ∈ ticked o loaded) : call.request = .tick (Clock.new o.rate).delta := by
  have asked : (call.hold, call.request) ∈ requests (Clock.new o.rate).delta o.ticks.toNat := by
    rw [← Host.course_requests loaded (requests (Clock.new o.rate).delta o.ticks.toNat)]
    exact List.mem_map_of_mem (f := fun call : Made => (call.hold, call.request)) member
  exact congrArg Prod.snd (List.eq_of_mem_replicate asked)

theorem isTick_of_mem_ticked {call : Made} (member : call ∈ ticked o loaded) : call.isTick := by
  rw [Made.isTick, mem_ticked member]

theorem length_ticked (o : Options) (loaded : Host) : (ticked o loaded).length = o.ticks.toNat := by
  have lengths := congrArg List.length (Host.course_requests loaded (requests (Clock.new o.rate).delta o.ticks.toNat))
  rw [List.length_map, requests, List.length_replicate] at lengths
  exact lengths

theorem final_counts (loads : Loads engine o config script c host source loaded) :
    (ticked o loaded).countP Made.isTick = o.ticks.toNat ∧
      loaded.Counts (requests (Clock.new o.rate).delta o.ticks.toNat) := by
  have all : (ticked o loaded).countP Made.isTick = o.ticks.toNat := by
    rw [List.countP_eq_length.mpr fun call => isTick_of_mem_ticked, length_ticked]
  -- The command's own number of ticks is one that a counter can hold.
  have room : (ticked o loaded).countP Made.isTick < UInt64.size := all ▸ o.ticks.toNat_lt_size
  exact ⟨all, Host.counts_of_room loads.counters loads.idle room⟩

theorem countP_warned (loads : Loads engine o config script c host source loaded) :
    (ticked o loaded).countP (fun call => call.isTick && call.failed) = (ticked o loaded).countP (·.failure?.isSome) := by
  refine List.countP_congr fun call member => ?_
  have tick := isTick_of_mem_ticked member
  have idle := Host.course_idle loads.idle _ call member
  rw [tick, Bool.true_and, Made.failed_iff call idle]
  exact (Made.failure?_isSome_iff idle tick).symm

/-- What a run tells that has loaded its script. -/
structure Tells (o : Options) (c : Config) (host : Host) (source : Source) (loaded : Host) (output : Output) : Prop where
  err : output.err = []
  out : output.out = preamble o c host source ++
    ((ticked o loaded).zipIdx 1).flatMap (fun (call, position) => tickLines call position) ++
    summaryLine o.ticks.toNat (final o loaded).counters.hookCalls.toNat ((ticked o loaded).countP (·.failure?.isSome))
      ⟨o.ticks.toNat * (nanosPerSecond / max o.rate 1)⟩ ::
    (final o loaded).scene.entries.map fun (id, light) => lightLine id light
  /-- As many ticks are made as it is asked for. -/
  length : (ticked o loaded).length = o.ticks.toNat
  /-- All have one delta, and those are warned of whose hook threw. -/
  each : ∀ call ∈ ticked o loaded, call.request = .tick (Clock.new o.rate).delta ∧
    (call.failure?.isSome ↔ call.hookEnd? = some .threw)
  ticks : (final o loaded).counters.ticks = o.ticks
  failures : (final o loaded).counters.failures.toNat = (ticked o loaded).countP (·.failure?.isSome)
  hookCalls : (final o loaded).counters.hookCalls.toNat + (final o loaded).counters.failures.toNat ≤ o.ticks.toNat
  /-- The lights are listed by their ids. -/
  ids : (final o loaded).scene.entries.map (fun entry => entry.1.raw.toNat) = List.range' 1 (final o loaded).scene.size
  /-- All lights are listed as they are. -/
  lights : ∀ id light, (id, light) ∈ (final o loaded).scene.entries ↔ (final o loaded).scene.light? id = some light

theorem tells_of_loads (loads : Loads engine o config script c host source loaded) :
    Tells o c host source loaded (run engine o config script) := by
  obtain ⟨all, counts⟩ := final_counts loads
  have warned := countP_warned loads
  have ticks : (final o loaded).counters.ticks = o.ticks := UInt64.toNat_inj.mp (counts.ticks.trans all)
  have failures : (final o loaded).counters.failures.toNat = (ticked o loaded).countP (·.failure?.isSome) :=
    counts.failures.trans warned
  have sound : (final o loaded).scene.Sound := Host.after_sound loads.idle loads.sound _
  constructor
  case err => rw [run_of_loads loads]
  case out =>
    rw [run_of_loads loads]
    dsimp only
    rw [summary_eq, ticks, failures]
  case length => exact length_ticked o loaded
  case each =>
    intro call member
    exact ⟨mem_ticked member,
      Made.failure?_isSome_iff (Host.course_idle loads.idle _ call member) (isTick_of_mem_ticked member)⟩
  case ticks => exact ticks
  case failures => exact failures
  case hookCalls =>
    calc (final o loaded).counters.hookCalls.toNat + (final o loaded).counters.failures.toNat
        ≤ (final o loaded).counters.ticks.toNat := counts.sum.symm ▸ Nat.le_add_right _ _
      _ = o.ticks.toNat := congrArg UInt64.toNat ticks
  case ids => exact sound.entries_ids
  case lights => exact fun id light => Store.mem_entries_iff

/-- A program that leaves a hook behind which makes a light and throws. -/
def lightingHook : Source :=
  .program [.function .function "onupdate" ["delta"] [
    .expression (.call (.member (.member (.name "WebSG") "light") "create") [.text "spot"]), .throwing (.name "delta")] false]

/-- Three ticks at the rate zero. -/
def threeTicks : Options := ⟨"scene.js", 3, 0, none, false⟩

end Command
end ScriptedScene
