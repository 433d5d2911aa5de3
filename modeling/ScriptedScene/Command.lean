import ScriptedScene.Boundary
import ScriptedScene.Clock
import ScriptedScene.Config.Codec
import ScriptedScene.Text.Quoted

/-!
The command: it starts a host, runs one script in it, calls the hook for a number of ticks and lists the lights.
Each part gives the lines that it writes, so what reads files and waits between ticks has nothing to decide.
-/

namespace ScriptedScene

open Guest

namespace Command

/-- What the command is asked to do. -/
structure Options where
  script : String
  ticks : UInt64
  rate : Nat
  config : Option String
  realtime : Bool
  deriving DecidableEq, Repr

/-- The options read so far; what was not given is not there. -/
structure Given where
  script : Option String
  ticks : Option UInt64
  rate : Option Nat
  config : Option String
  realtime : Bool

/-- How many ticks are run if no number is given. -/
def defaultTicks : UInt64 := 60

/-- A whole number below a bound, with or without a plus sign. -/
def readNatural? (bound : Nat) (s : String) : Option Nat :=
  let digits :=
    match s.toList with
    | '+' :: rest => rest
    | cs => cs
  if digits.isEmpty || !digits.all Char.isDigit then none
  else
    let n := Decimal.ofDigits digits
    if n < bound then some n else none

/-- A rate: a whole number of 32 bits. It is read as a number that may have a minus sign, which only zero can
have and be a rate. -/
def readRate? (s : String) : Option Nat :=
  match s.toList with
  | '-' :: digits => if digits ≠ [] && digits.all (· == '0') then some 0 else none
  | _ => readNatural? (twoTo 32) s

/-- Takes the value of an option, which is given once. -/
def Given.withValue? (g : Given) (option value : String) : Option Given :=
  if option = "--ticks" && g.ticks.isNone then
    (readNatural? (twoTo 64) value).map fun n => { g with ticks := some (.ofNat n) }
  else if option = "--rate" && g.rate.isNone then
    (readRate? value).map fun n => { g with rate := some n }
  else if option = "--config" && g.config.isNone && value ≠ "" then some { g with config := some value }
  else none

/-- Takes the name of the script, which is given once. -/
def Given.withScript? (g : Given) (name : String) : Option Given :=
  if g.script.isNone && name ≠ "" then some { g with script := some name } else none

/-- Whether an argument is an option by its looks. -/
def looksLikeOption (s : String) : Bool := s.startsWith "-" && s ≠ "-"

/-- Takes the arguments after a bare `--`, none of which is an option. -/
def Given.takeRest? (g : Given) : List String → Option Given
  | [] => some g
  | a :: rest => (g.withScript? a).bind fun g => g.takeRest? rest

/-- Takes the arguments one after the other. -/
def Given.take? (g : Given) : List String → Option Given
  | [] => some g
  | a :: rest =>
    if a = "--" then g.takeRest? rest
    else if a = "--realtime" then
      if g.realtime then none else Given.take? { g with realtime := true } rest
    else if !looksLikeOption a then (g.withScript? a).bind fun g => g.take? rest
    else
      match a.toList.dropWhile (· != '=') with
      | _ :: value =>
        (g.withValue? (String.ofList (a.toList.takeWhile (· != '='))) (String.ofList value)).bind
          fun g => g.take? rest
      | [] =>
        match rest with
        | [] => none
        | value :: rest =>
          if looksLikeOption value then none else (g.withValue? a value).bind fun g => g.take? rest

/-- The options that arguments spell, if they spell any. -/
def Options.ofArguments? (arguments : List String) : Option Options := do
  let g ← Given.take? ⟨none, none, none, none, false⟩ arguments
  return ⟨← g.script, g.ticks.getD defaultTicks, g.rate.getD Clock.defaultRate, g.config, g.realtime⟩

/-- What a run writes and how it ends. -/
structure Output where
  code : Nat
  out : List String
  err : List String
  deriving DecidableEq, Repr

/-- The lines of a text. -/
def linesOf (s : String) : List String := s.splitOn "\n"

/-- A line of the log up to its fields: its level, where it comes from and what it says. -/
def line (level target text : String) : String := level ++ " " ++ target ++ ": " ++ Text.shown text

/-- A field after what a line says. -/
def field (name value : String) : String := " " ++ name ++ "=" ++ value

/-- How a level stands in a line. -/
def levelWord : LogLevel → String
  | .debug => "DEBUG"
  | .info => "INFO"
  | .warn => "WARN"
  | .error => "ERROR"

/-- The lines of a record of the host's log; the least level is not shown. -/
def recordLines (r : LogRecord) : List String :=
  if r.level = .debug then []
  else
    linesOf (line (levelWord r.level) "wasgi_services::log" r.message ++
      field "origin" (Text.quoted r.target))

def greeting : String := line "INFO" "wasgi" "WASGI v0.1.0"

def readyLine (c : Config) (modules : List Module) : List String :=
  linesOf (line "INFO" "wasgi_script::host" "script host ready" ++ field "namespace" c.scope ++
    field "hook" c.hook ++ field "modules" (toString modules.length))

def loadingLine (path : String) : List String :=
  linesOf (line "INFO" "wasgi_script::host" "loading script" ++ field "path" path)

/-- The warning of a tick that failed; ticks are counted from one. -/
def warning (fault : HostFault) (tick : Nat) : List String :=
  linesOf (line "WARN" "wasgi" fault.message ++ field "tick" (toString tick))

def summary (counters : Counters) (simulated : Span) : String :=
  line "INFO" "wasgi" "simulation finished" ++ field "ticks" (toString counters.ticks) ++
    field "hook_calls" (toString counters.hookCalls) ++ field "failures" (toString counters.failures) ++
    field "simulated" simulated.shown

/-- A number as a field has it. -/
def number (x : Binary f) : String := NumberStyle.report.write x

def colorText (c : Color) : String := "Vec3(" ++ ", ".intercalate (c.components.map number) ++ ")"

def lightLine (id : LightId) (light : Light) : String :=
  line "INFO" "wasgi" "light" ++ field "id" id.shown ++ field "name" (Text.quoted (light.name.getD "-")) ++
    field "kind" (Text.quoted light.kind.name) ++ field "color" (colorText light.color) ++
    field "intensity" (number light.intensity.widen)

/-- A cause of a failure, its further lines as far in as the first. -/
def causeLines (first rest : String) (cause : String) : List String :=
  match linesOf cause with
  | [] => [first]
  | l :: ls => (first ++ l) :: ls.map (rest ++ ·)

/-- The causes of a failure, numbered if there are several. -/
def allCauses (causes : List String) : List String :=
  match causes with
  | [] => []
  | [cause] => ["", "Caused by:"] ++ causeLines "    " "    " cause
  | causes =>
    ["", "Caused by:"] ++ (causes.zipIdx.flatMap fun (cause, i) =>
      causeLines ("    " ++ toString i ++ ": ") "       " cause)

/-- What is written of a failure that ends the command. -/
def failureLines (message : String) (causes : List String) : List String :=
  linesOf ("Error: " ++ message) ++ allCauses causes

/-- What lies under a fault of the configuration. -/
def configCauses : Config.Fault → List String
  | .unreadable _ cause => [cause.message]
  | .unparsable cause => [cause.message]
  | .invalid _ _ => []

/-- A fault of the host with what lies under it. -/
def hostCauses : HostFault → List String
  | f@(.allocation cause) | f@(.registration cause) => [f.message, cause.message]
  | f@(.unreadable _ cause) => [f.message, cause.message]
  | f => [f.message]

/-- The configuration, given what reading its file came to if one is named. -/
def configuration (o : Options) (content : Except FileFault String) : Except Config.Fault Config :=
  match o.config with
  | none => .ok .default
  | some path => Config.ofFile path content

/-- A simulation between two ticks. -/
structure Session where
  host : Host
  clock : Clock

/-- The lines of what was added to a host's log. -/
def newLines (before after : Host) : List String :=
  (after.log.records.extract before.log.size after.log.size).toList.flatMap recordLines

namespace Session

/-- Runs one tick. -/
def tick (s : Session) : List String × Session :=
  let clock := s.clock.advance
  match s.host.tick .free s.clock.delta with
  | (.ok (), host) => (newLines s.host host, ⟨host, clock⟩)
  | (.error fault, host) => (newLines s.host host ++ warning fault clock.ticks, ⟨host, clock⟩)

/-- Runs ticks, gathering their lines from the last to the first. -/
def ticks (s : Session) (lines : List String) : Nat → List String × Session
  | 0 => (lines, s)
  | n + 1 =>
    match s.tick with
    | (more, s) => s.ticks (more.reverse ++ lines) n

/-- What is written at the end. -/
def closing (s : Session) : List String :=
  summary s.host.counters s.clock.total :: s.host.scene.entries.map fun (id, light) => lightLine id light

end Session

/-- What comes before the first tick: the lines, and the session or the lines of what went wrong. -/
def start (engine : Engine) (o : Options) (config : Except FileFault String) (script : Except FileFault Source) :
    List String × Except (List String) Session :=
  match configuration o config with
  | .error fault => ([greeting], .error (failureLines fault.message (configCauses fault)))
  | .ok c =>
    match Host.create engine c .empty with
    | .error fault => ([greeting], .error (failureLines "failed to start script host" (hostCauses fault)))
    | .ok host =>
      let ready := greeting :: readyLine c Module.standard
      let loading := match script with
        | .ok _ => loadingLine o.script
        | .error _ => []
      match host.evaluateFile .free o.script script with
      | (.ok (), after) => (ready ++ loading ++ newLines host after, .ok ⟨after, .new o.rate⟩)
      | (.error fault, after) =>
        (ready ++ loading ++ newLines host after,
          .error (failureLines ("failed to load " ++ o.script) (hostCauses fault)))

/-- A whole run, given what reading the two files came to. -/
def run (engine : Engine) (o : Options) (config : Except FileFault String) (script : Except FileFault Source) :
    Output :=
  match start engine o config script with
  | (lines, .error err) => ⟨1, lines, err⟩
  | (lines, .ok session) =>
    match session.ticks [] o.ticks.toNat with
    | (more, session) => ⟨0, lines ++ more.reverse ++ session.closing, []⟩

/-- The code with which a command ends whose arguments spell no options. -/
def misuseCode : Nat := 2

end Command

end ScriptedScene
