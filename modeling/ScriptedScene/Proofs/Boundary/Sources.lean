import ScriptedScene.Proofs.Boundary.Nesting
import ScriptedScene.Proofs.Host.Reachable
import ScriptedScene.Proofs.Text.Bytes

/-! The three ways in which a program comes to a host: as a text, as the bytes of a file, and as bytes that end at the
first that is zero. What is no text runs nothing. A text with a NUL is cut there only where its end was looked for there;
elsewhere the interpreter does not take it. -/
namespace ScriptedScene
open Guest Text

theorem sourceOfBytes?_terminated (s : String) (rest : List UInt8) :
    sourceOfBytes? (utf8 s ++ 0 :: rest) = some (.text (beforeNul s)) := by
  rw [sourceOfBytes?, takeWhile_terminated, decodeUtf8_utf8, Option.map_some]

theorem sourceOfBytes?_broken {bytes : List UInt8} (broken : ¬ WellFormed (bytes.takeWhile (· != 0))) :
    sourceOfBytes? bytes = none := by
  rw [sourceOfBytes?, decodeUtf8_eq_none broken, Option.map_none]

theorem sourceOfFile_text (s : String) : sourceOfFile (.ok (utf8 s)) = .ok (.text s) := by
  simp only [sourceOfFile, decodeUtf8_utf8]

theorem sourceOfFile_broken {bytes : List UInt8} (broken : ¬ WellFormed bytes) :
    sourceOfFile (.ok bytes) = .error .invalidUtf8 := by
  simp only [sourceOfFile, decodeUtf8_eq_none broken]

/-- The place of a NUL is counted in bytes. -/
theorem Guest.Source.nulOffset?_text {s : String} (nul : '\x00' ∈ s.toList) :
    (Source.text s).nulOffset? = some (utf8 (beforeNul s)).length := by
  rw [nulOffset?, if_pos (List.contains_iff_mem.mpr nul), length_utf8, Nat.zero_add, utf8, beforeNul, String.toList_ofList]

namespace Host
variable {h : Host}

/-- What is told of a text that has a NUL. -/
def nulDiagnostic (s : String) : Diagnostic := ⟨nulMessage (utf8 (beforeNul s)).length, none⟩

/-- A call that was answered with a fault and left nothing behind but the report of it. -/
structure ReportsOnly (h : Host) (answer : Reply × Host) (d : Diagnostic) : Prop where
  reply : answer.1 = .error (.evaluation d)
  records : answer.2.log.records.toList = h.log.records.toList ++ [d.report evaluationLabel]
  memory : answer.2.machine.memory = h.machine.memory
  scene : answer.2.scene = h.scene
  counters : answer.2.counters = h.counters
  idle : answer.2.running = false

theorem evaluate_nul (idle : h.running = false) (hold : Hold) {s : String} (nul : '\x00' ∈ s.toList) :
    h.ReportsOnly (h.evaluate hold (.text s)) (nulDiagnostic s) := by
  have caught : (Source.text s).caught (h.engine.calls h.config) (h.outside hold) h.machine.enter =
      (.error (.engine (nulMessage (utf8 (beforeNul s)).length)), h.machine.enter) := by
    rw [Source.caught, Source.nulOffset?_text nul]
  -- Whoever receives the report may make calls, but they are refused: the report's call still runs.
  obtain ⟨told, -, received⟩ := ((h.outside hold).receive_visited ((nulDiagnostic s).report evaluationLabel)
    (h.machine.enter.write ((nulDiagnostic s).report evaluationLabel))).quiet rfl
  have evaluated : h.machine.evaluate h.engine h.config (h.outside hold) (.text s) =
      (.error (.evaluation (nulDiagnostic s)),
        ((h.outside hold).deliver ((nulDiagnostic s).report evaluationLabel) h.machine.enter).leave) := by
    rw [Machine.evaluate, if_neg (by simpa [running] using idle), caught]
    rfl
  rw [Outside.deliver, received] at evaluated
  simp only [evaluate, Host.perform, Machine.perform, evaluated]
  exact ⟨rfl, by simp [log, Machine.leave, Machine.write, Machine.enter, Log.emit], rfl, rfl, rfl, rfl⟩

end Host

namespace Thread

/-- What comes of bytes that are handed to the boundary to be run: the answer, and what is in the slot then. -/
def loaded (t : Thread) (depth : Nat) (hold : Hold) (code : List UInt8) : Reply × Slot :=
  let after := (Crossing.load hold (some code)).perform (Errand.runAt depth) 0 t
  (after.1, after.2.slot)

variable {t : Thread} {h : Host}

theorem loaded_eq (free : t.slot = ⟨some h, false⟩) (depth : Nat) (hold : Hold) {code : List UInt8} {source : Source}
    (spelled : sourceOfBytes? code = some source) :
    t.loaded depth hold code = ((h.evaluate hold source).1, ⟨some (h.evaluate hold source).2, false⟩) := by
  have answers := (Crossing.load hold (some code)).perform_free (Errand.runAt_keeps depth) (t := t) (by rw [free])
  have served := answers.2.1
  simp only [Crossed.Served, Option.bind_some, spelled, Crossed.Asked, free, Host.perform_evaluate] at served
  exact Prod.ext served.1 served.2

theorem loaded_broken (t : Thread) (depth : Nat) (hold : Hold) {code : List UInt8} (broken : sourceOfBytes? code = none) :
    t.loaded depth hold code = (.error .invalidSource, t.slot) := by
  simp only [loaded, Crossing.perform, Option.bind_some, broken]
  rfl

end Thread

namespace Host

/-- A text without a NUL comes to the same in all three ways, whatever follows its bytes where they end at a NUL. Bytes
that are no text run nothing. A text with a NUL is run up to it, or is not run and reported once. -/
theorem sources_agree (hold : Hold) (depth : Nat) (path : String) :
    (∀ (t : Thread) (h : Host), t.slot = ⟨some h, false⟩ → ∀ s : String, '\x00' ∉ s.toList →
      (∀ rest, t.loaded depth hold (utf8 s ++ 0 :: rest) =
        ((h.evaluate hold (.text s)).1, ⟨some (h.evaluate hold (.text s)).2, false⟩)) ∧
      h.evaluateFile hold path (sourceOfFile (.ok (utf8 s))) = h.evaluate hold (.text s)) ∧
    (∀ bytes : List UInt8,
      (¬ WellFormed (bytes.takeWhile (· != 0)) → ∀ t : Thread,
        t.loaded depth hold bytes = (.error .invalidSource, t.slot)) ∧
      (¬ WellFormed bytes → ∀ h : Host,
        h.evaluateFile hold path (sourceOfFile (.ok bytes)) = (.error (.unreadable path .invalidUtf8), h))) ∧
    ∀ s : String, '\x00' ∈ s.toList →
      (∀ (t : Thread) (h : Host), t.slot = ⟨some h, false⟩ → ∀ rest, t.loaded depth hold (utf8 s ++ 0 :: rest) =
        ((h.evaluate hold (.text (beforeNul s))).1, ⟨some (h.evaluate hold (.text (beforeNul s))).2, false⟩)) ∧
      ∀ h : Host, h.running = false →
        h.ReportsOnly (h.evaluate hold (.text s)) (nulDiagnostic s) ∧
        h.evaluateFile hold path (sourceOfFile (.ok (utf8 s))) = h.evaluate hold (.text s) := by
  have file (h : Host) (s : String) :
      h.evaluateFile hold path (sourceOfFile (.ok (utf8 s))) = h.evaluate hold (.text s) := by
    rw [sourceOfFile_text]
    rfl
  refine ⟨fun t h free s clean => ⟨fun rest => ?_, file h s⟩, fun bytes => ⟨fun broken t => ?_, fun broken h => ?_⟩,
    fun s nul => ⟨fun t h free rest => ?_, fun h idle => ⟨evaluate_nul idle hold nul, file h s⟩⟩⟩
  · have spelled := sourceOfBytes?_terminated s rest
    rw [beforeNul_eq clean] at spelled
    exact Thread.loaded_eq free depth hold spelled
  · exact t.loaded_broken depth hold (sourceOfBytes?_broken broken)
  · rw [sourceOfFile_broken broken]
    rfl
  · exact Thread.loaded_eq free depth hold (sourceOfBytes?_terminated s rest)

/-- A host whose embedder asks back, given a character of two bytes before bytes that are no text, a NUL that is spelled
with two bytes, and a text with a NUL in it. -/
theorem sources_agree_asking : ∃ h : Host,
    Thread.loaded ⟨⟨some h, false⟩, fun _ => .done, []⟩ 1 .free (utf8 "é" ++ [0, 0xFF]) =
      ((h.evaluate .free (.text "é")).1, ⟨some (h.evaluate .free (.text "é")).2, false⟩) ∧
    Thread.new.loaded 1 .free [0xC0, 0x80, 0] = (.error .invalidSource, .empty) ∧
    h.evaluateFile .free "main" (sourceOfFile (.ok [0xED, 0xA0, 0x80])) = (.error (.unreadable "main" .invalidUtf8), h) ∧
    h.ReportsOnly (h.evaluate .free (.text "é\x00é")) ⟨nulMessage 2, none⟩ := by
  obtain ⟨h, built⟩ := build_asking
  have idle := (Reachable.built built).idle
  have broken {bytes : List UInt8} (computed : decodeUtf8 bytes = none) : ¬ WellFormed bytes := by
    rintro ⟨s, rfl⟩
    rw [decodeUtf8_utf8] at computed
    cases computed
  obtain ⟨same, refused, cut⟩ := sources_agree .free 1 "main"
  exact ⟨h, (same ⟨⟨some h, false⟩, fun _ => .done, []⟩ h rfl "é" (by decide)).1 [0xFF],
    (refused [0xC0, 0x80, 0]).1 (broken (by decide +kernel)) .new,
    (refused [0xED, 0xA0, 0x80]).2 (broken (by decide +kernel)) h,
    ((cut "é\x00é" (by decide)).2 h idle).1⟩

end Host

end ScriptedScene
