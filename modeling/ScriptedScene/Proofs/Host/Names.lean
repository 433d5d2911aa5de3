import ScriptedScene.Proofs.Config.Format
import ScriptedScene.Proofs.Guest.Definition
import ScriptedScene.Proofs.Host.Creation
import ScriptedScene.Proofs.Host.Reports

/-! The two global names of a configuration. Guests can write a name if it is an identifier and no word of the language.
Configurations are only asked for the former, and each name by itself. What comes of that is told here: a reserved word
may be either name, and if both names are one, the hook takes the place of the modules once it is defined. -/
namespace ScriptedScene
open Guest Run

namespace Config

/-- The words of the language that are reserved in code that is not strict. -/
def reservedWords : List String :=
  ["break", "case", "catch", "class", "const", "continue", "debugger", "default", "delete", "do", "else", "enum", "export",
    "extends", "false", "finally", "for", "function", "if", "import", "in", "instanceof", "new", "null", "return", "super",
    "switch", "this", "throw", "true", "try", "typeof", "var", "void", "while", "with"]

/-- A name that a guest can refer to by writing it. -/
structure Referable (name : String) : Prop where
  isName : IsName name
  free : name ∉ reservedWords

/-- Guests can refer to what both names stand for, the modules and the hook. -/
structure Sayable (c : Config) : Prop where
  scope : Referable c.scope
  hook : Referable c.hook
  apart : c.scope ≠ c.hook

variable {c : Config}

theorem validate_eq_ok_iff : c.validate = .ok () ↔ Valid c := by
  refine ⟨fun accepted => ?_, validate_of_valid⟩
  rcases valid_or_invalid c with valid | ⟨field, reason, invalid⟩
  · exact valid
  · cases accepted.symm.trans (validate_of_invalid invalid)

/-- Reserved words are written as identifiers are. -/
theorem isName_of_reserved {word : String} (reserved : word ∈ reservedWords) : IsName word := by
  have written : ∀ word ∈ reservedWords, isIdentifier word = true := by decide
  exact isIdentifier_iff.mp (written word reserved)

theorem sayable_iff (valid : Valid c) :
    c.Sayable ↔ c.scope ∉ reservedWords ∧ c.hook ∉ reservedWords ∧ c.scope ≠ c.hook :=
  ⟨fun ⟨scope, hook, apart⟩ => ⟨scope.free, hook.free, apart⟩,
    fun ⟨scope, hook, apart⟩ => ⟨⟨valid.1, scope⟩, ⟨valid.2.1, hook⟩, apart⟩⟩

end Config

namespace Module

/-- Guests find an object under a global name. The global object has it itself, or the name is the one for prototypes and
the global object inherits from it. -/
structure Named (m : Memory) (name : String) (r : Ref) : Prop where
  global : m.Has (Intrinsic.ref .global)
  plain : (m.object (Intrinsic.ref .global)).role = .plain
  has : m.Has r
  leads : (∃ p writable, p.contents = .data (.object r) writable ∧
      (m.object (Intrinsic.ref .global)).properties.lookup (.ofString name) = some p) ∨
    name = "__proto__" ∧ Behind m r ∧ ∃ console light, Made m r console light

section
variable {m n : Memory} {name other : String} {r : Ref} {v : Value}

theorem Named.reads (named : Named m name r) {depth : Nat} (nests : name = "__proto__" → 0 < depth) :
    Reads (Calls.ofDepth depth).call m name (.object r) := by
  rcases named.leads with ⟨p, writable, data, own⟩ | ⟨rfl, behind, console, light, made⟩
  · exact reads_of_finds ⟨p, writable, Memory.find?_of_own named.plain own, data⟩
  · obtain ⟨below, rfl⟩ := Nat.exists_eq_succ_of_ne_zero (Nat.ne_zero_of_lt (nests rfl))
    exact behind.reads made below

/-- What is assigned to another name does not change it. -/
theorem Named.keep (named : Named m name r) (written : m.Written (Intrinsic.ref .global) (.ofString other) v n)
    (apart : name ≠ other) : Named n name r where
  global := written.keeps.has named.global
  plain := written.plain
  has := written.keeps.has named.has
  leads := by
    have unlike : Units.ofString name ≠ .ofString other := fun same => apart (Units.ofString_inj.mp same)
    rcases named.leads with ⟨p, writable, data, own⟩ | ⟨rfl, behind, console, light, made⟩
    · exact .inl ⟨p, writable, data, (written.others _ unlike).trans own⟩
    · exact .inr ⟨rfl, ⟨written.plain, written.prototype.trans behind.prototype,
        (written.others prototypeAccess unlike).trans behind.own⟩, console, light, made.keep written.keeps named.plain⟩

theorem named_of_written (written : m.Written (Intrinsic.ref .global) (.ofString name) (.object r) n)
    (global : m.Has (Intrinsic.ref .global)) (has : m.Has r) : Named n name r where
  global := written.keeps.has global
  plain := written.plain
  has := written.keeps.has has
  leads := by
    obtain ⟨p, data, own⟩ := written.own
    exact .inl ⟨p, true, data, own⟩

end

section
variable {engine : Engine} {c : Config} {m : Machine} (outside : Outside) {holder console light : Ref}

/-- The modules are put under their name, and nothing comes to stand in the way of the console. -/
theorem assign_named (ready : Ready m.memory holder console light) (free : c.scope ∉ Realm.fixedNames)
    (nests : c.scope = "__proto__" → 0 < engine.depth c.limits) :
    ∃ k, (assign (engine.calls c).call (Intrinsic.ref .global) (.ofString c.scope) (.object holder)).run outside m =
        (.ok (), k) ∧
      Made k.memory holder console light ∧ Named k.memory c.scope holder ∧
      ∀ p, k.memory.find? (Intrinsic.ref .global) (.ofString consoleName) = some p → p.Open := by
  by_cases scope : c.scope = "__proto__"
  · obtain ⟨depth, calls⟩ := calls_of_nests (nests scope)
    obtain ⟨k, put, has, made, behind, inherited⟩ := assign_prototype outside ready scope calls
    refine ⟨k, put, made, ⟨has, behind.plain, made.holds.has, .inr ⟨scope, behind, console, light, made⟩⟩, ?_⟩
    intro p found
    exact Option.some.inj (inherited.symm.trans found) ▸ ⟨.object console, rfl⟩
  · obtain ⟨k, put, written⟩ := assign_open outside ready free scope
    have made := ready.toMade.keep written.keeps ready.writable.plain
    exact ⟨_, put, made, named_of_written written ready.has ready.holds.has,
      made.rooted.opens (written.writable ready.writable) (by decide) (by decide)⟩

/-- Once both are global, guests find an object under the modules' name. -/
theorem reveal_named (ready : Ready m.memory holder console light) (free : c.scope ∉ Realm.fixedNames)
    (nests : c.scope = "__proto__" → 0 < engine.depth c.limits) :
    ∃ n r, (reveal c (engine.calls c).call holder).run outside m = (.ok none, n) ∧ Named n.memory c.scope r := by
  obtain ⟨k, put, made, named, opens⟩ := assign_named outside ready free nests
  cases shown : c.globalConsole with
  | false => exact ⟨k, holder, reveal_of_hidden shown put, named⟩
  | true =>
    obtain ⟨n, revealed, -, exposed⟩ := reveal_of_shown shown put made named.global named.plain opens
    -- If the modules have the console's name, it is the console that is found there in the end.
    by_cases taken : c.scope = consoleName
    · obtain ⟨_, held, -⟩ := made.fillsConsole
      exact ⟨_, console, revealed, taken ▸ named_of_written exposed named.global held.has⟩
    · exact ⟨_, holder, revealed, named.keep exposed taken⟩

end
end Module

namespace Host
open ScriptedScene.Module

/-- Guests find an object under the modules' name. -/
structure Shows (h : Host) (r : Ref) : Prop where
  named : Named h.machine.memory h.config.scope r
  nests : h.config.scope = "__proto__" → 0 < h.engine.depth h.config.limits

section
variable {engine : Engine} {c : Config} {scene : Store} {h after : Host} {r : Ref}

theorem Shows.globalValue (shows : h.Shows r) : h.globalValue h.config.scope = .ok (.object r) :=
  globalValue_of_reads (shows.named.reads shows.nests)

/-- In a new host guests find an object under the modules' name, whatever the name is. -/
theorem create_shows (created : create engine c scene = .ok h) : h.config = c ∧ ∃ r, h.Shows r := by
  have creatable : engine.creates c.limits = true := by
    rw [← Bool.not_eq_false]
    intro scant
    cases created.symm.trans (create_scant scene scant)
  have free : c.scope ∉ Realm.fixedNames := fun fixed => nomatch created.symm.trans (create_fixed scene creatable fixed)
  have nests (scope : c.scope = "__proto__") : 0 < engine.depth c.limits :=
    Nat.pos_of_ne_zero fun flat => nomatch created.symm.trans (create_unnested scene creatable scope flat)
  obtain ⟨m, holder, console, light, ready, made, -⟩ := create_of_revealed scene creatable
  obtain ⟨n, r, revealed, named⟩ := reveal_named (.silent .free) ready free nests
  obtain rfl := Except.ok.inj (created.symm.trans (made n revealed))
  exact ⟨rfl, r, named, nests⟩

/-- Where guests find the modules under their name, it is the modules that they find there. -/
theorem Offers.shows {holder console light : Ref} (offers : h.Offers holder console light) (shows : h.Shows r) :
    h.Shows holder := by
  have same : r = holder := Value.object.inj (Except.ok.inj (shows.globalValue.symm.trans offers.scope))
  exact same ▸ shows

/-- What a program does that a host runs to its end. -/
theorem run_of_evaluate {hold : Hold} {p : Program} (ran : h.evaluate hold (.program p) = (.ok (), after)) :
    ∃ n, (p.run h.calls).run (h.outside hold) h.machine.enter = (.ok (), n) ∧ after.config = h.config ∧
      after.engine = h.engine ∧ after.machine.memory = n.memory := by
  have idle : h.running = false := by
    rw [← Bool.not_eq_true]
    intro running
    rw [evaluate, perform, Machine.perform_running _ _ _ _ running] at ran
    cases ran
  rw [evaluate_eq idle] at ran
  have caught : Source.caught h.calls (.program p) (h.outside hold) h.machine.enter =
      ((Source.program p).run h.calls).caught (h.outside hold) h.machine.enter := rfl
  rw [caught] at ran
  unfold Run.caught at ran
  split at ran
  · next run =>
    cases ran
    exact ⟨_, traced_eq_ok_iff.mp run, rfl, rfl, rfl⟩
  · simp [reported, Reply.ofResult] at ran

section
variable {hold : Hold} {kind : FunctionKind} {parameters : List String} {body : List Stmt} {exported : Bool}
  (shows : h.Shows r)
  (defined : h.evaluate hold (.program [.function kind h.config.hook parameters body exported]) = (.ok (), after))
include shows defined

/-- A new function becomes the value under the hook's name, and nothing else is done to what was there. -/
theorem Shows.written : after.config = h.config ∧ after.engine = h.engine ∧
    h.machine.memory.Written (Intrinsic.ref .global) (.ofString h.config.hook) (.object h.machine.memory.next)
      after.machine.memory := by
  obtain ⟨n, ran, config, engine, memory⟩ := run_of_evaluate defined
  rw [memory]
  exact ⟨config, engine, Program.run_function (m := h.machine.enter) shows.named.global shows.named.plain ran⟩

/-- Under a name of their own the modules stay. -/
theorem Shows.keep (apart : h.config.scope ≠ h.config.hook) : after.Shows r := by
  obtain ⟨config, engine, written⟩ := shows.written defined
  constructor <;> rw [config]
  · exact shows.named.keep written apart
  · rw [engine]
    exact shows.nests

/-- Under the hook's name the new function takes their place. -/
theorem Shows.lost (same : h.config.scope = h.config.hook) : after.globalValue h.config.scope ≠ .ok (.object r) := by
  obtain ⟨-, -, written⟩ := shows.written defined
  have hook : after.globalValue h.config.hook = .ok (.object h.machine.memory.next) :=
    globalValue_of_reads (reads_of_finds written.finds)
  rw [same, hook]
  intro met
  -- The function was made just now, so it is none of the objects that were there.
  exact h.machine.memory.next_not_has (Value.object.inj (Except.ok.inj met) ▸ shows.named.has)

theorem Shows.kept_iff : after.globalValue h.config.scope = .ok (.object r) ↔ h.config.scope ≠ h.config.hook := by
  refine ⟨fun kept same => shows.lost defined same kept, fun apart => ?_⟩
  rw [← (shows.written defined).1]
  exact (shows.keep defined apart).globalValue

end

/-- What is known of the two names of a configuration, and of the hosts that have it. -/
structure NamesTold (c : Config) : Prop where
  spelled : Config.IsName c.scope ∧ Config.IsName c.hook
  /-- Guests can refer to what both names stand for if neither is reserved and the two differ. -/
  sayable : c.Sayable ↔ c.scope ∉ Config.reservedWords ∧ c.hook ∉ Config.reservedWords ∧ c.scope ≠ c.hook
  /-- Reserved words are accepted for either name. -/
  reserved : ∀ word ∈ Config.reservedWords,
    { c with scope := word }.validate = .ok () ∧ { c with hook := word }.validate = .ok ()
  /-- One name for both is accepted. -/
  shared : { c with hook := c.scope }.validate = .ok ()
  /-- In a new host guests find an object under the modules' name. -/
  found : ∀ engine scene h, create engine c scene = .ok h →
    h.config = c ∧ ∃ r, h.Shows r ∧ h.globalValue c.scope = .ok (.object r)
  /-- If the modules are offered, it is they that guests find. -/
  offered : ∀ engine scene h, create engine c scene = .ok h →
    ∀ holder console light, h.Offers holder console light → h.Shows holder
  /-- Wherever guests find an object there, they still find it once the hook is defined, unless both have one name. -/
  kept : ∀ (h : Host) r, h.config = c → h.Shows r → ∀ hold kind parameters body exported after,
    h.evaluate hold (.program [.function kind c.hook parameters body exported]) = (.ok (), after) →
      (after.globalValue c.scope = .ok (.object r) ↔ c.scope ≠ c.hook)

/-- The names of a configuration that is accepted are written as identifiers are, and nothing else is asked of them. -/
theorem accepted_names (c : Config) (accepted : c.validate = .ok ()) : NamesTold c := by
  have valid := Config.validate_eq_ok_iff.mp accepted
  have ⟨scope, hook, memory⟩ := valid
  constructor
  case spelled => exact ⟨scope, hook⟩
  case sayable => exact Config.sayable_iff valid
  case reserved =>
    intro word reserved
    have written := Config.isName_of_reserved reserved
    exact ⟨Config.validate_of_valid ⟨written, hook, memory⟩, Config.validate_of_valid ⟨scope, written, memory⟩⟩
  case shared => exact Config.validate_of_valid ⟨scope, scope, memory⟩
  case found =>
    intro engine scene h created
    obtain ⟨rfl, r, shows⟩ := create_shows created
    exact ⟨rfl, r, shows, shows.globalValue⟩
  case offered =>
    intro engine scene h created holder console light offers
    obtain ⟨-, r, shows⟩ := create_shows created
    exact offers.shows shows
  case kept =>
    rintro h r rfl shows hold kind parameters body exported after defined
    exact shows.kept_iff defined

/-- The program that defines a function of one parameter and an empty body. -/
def definition (name : String) : Source := .program [.function .function name ["dt"] [] false]

/-- What is computed of a new host says that the hook can be defined in it. -/
theorem exists_defined (engine : Engine) {c : Config}
    (computed : (create engine c .empty).toOption.any (fun h => (h.evaluate .free (definition c.hook)).1.isOk) = true) :
    ∃ h after, create engine c .empty = .ok h ∧ h.evaluate .free (definition c.hook) = (.ok (), after) := by
  cases created : create engine c .empty with
  | error fault =>
    rw [created] at computed
    cases computed
  | ok h =>
    rw [created] at computed
    have defined : (h.evaluate .free (definition c.hook)).1.isOk = true := computed
    rcases ran : h.evaluate .free (definition c.hook) with ⟨fault | result, after⟩
    · rw [ran] at defined
      cases defined
    · exact ⟨h, after, rfl, ran⟩

/-- With the usual names the modules stay where they are. -/
theorem accepted_names_default : Config.default.validate = .ok () ∧ Config.default.Sayable ∧
    ∃ h after, create .ample .default .empty = .ok h ∧ h.evaluate .free (definition "onupdate") = (.ok (), after) ∧
      after.globalValue "WebSG" = h.globalValue "WebSG" := by
  have accepted : Config.default.validate = .ok () := by decide
  have names := accepted_names .default accepted
  obtain ⟨h, after, created, defined⟩ := exists_defined .ample (c := .default) (by decide +kernel)
  obtain ⟨config, r, shows, value⟩ := names.found .ample .empty h created
  have kept := (names.kept h r config shows _ _ _ _ _ after defined).mpr (by decide)
  exact ⟨accepted, names.sayable.mpr (by decide), h, after, created, defined, kept.trans value.symm⟩

/-- A reserved word is accepted as the name of the modules, and the modules' name as that of the hook, which then takes
their place. -/
theorem accepted_names_reserved :
    ({ Config.default with scope := "class" }.validate = .ok () ∧ ¬ Config.Referable "class") ∧
    { Config.default with hook := "WebSG" }.validate = .ok () ∧
    ∃ h after, create .ample { Config.default with hook := "WebSG" } .empty = .ok h ∧
      h.evaluate .free (definition "WebSG") = (.ok (), after) ∧ after.globalValue "WebSG" ≠ h.globalValue "WebSG" := by
  refine ⟨⟨by decide, fun referable => referable.free (by decide)⟩, by decide, ?_⟩
  obtain ⟨h, after, created, defined⟩ :=
    exists_defined .ample (c := { Config.default with hook := "WebSG" }) (by decide +kernel)
  obtain ⟨config, r, shows⟩ := create_shows created
  have ran : h.evaluate .free (definition h.config.hook) = (.ok (), after) := by
    rw [config]
    exact defined
  have same : h.config.scope = h.config.hook := by
    rw [config]
    rfl
  have lost := shows.lost ran same
  have value := shows.globalValue
  rw [config] at lost value
  exact ⟨h, after, created, defined, fun kept => lost (kept.trans value)⟩

end

end Host
end ScriptedScene
