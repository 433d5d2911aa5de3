import ScriptedScene.Proofs.Host.Modules
import ScriptedScene.Host.Basic

/-! A new host. Its modules become global under a name from the configuration, and the console may become global under
its own. Most names leave room for both; the others are told here, and what comes of them. -/
namespace ScriptedScene
open Guest Run

namespace Module

/-- One object holds those of the standard modules, and these are filled. -/
structure Stocked (m : Memory) (holder console light : Ref) : Prop where
  holds : m.Holds holder [(.ofString Module.console.name, console), (.ofString Module.light.name, light)]
  fillsConsole : Module.console.Fills m console
  fillsLight : Module.light.Fills m light

/-- They are so besides the global object, and plain objects inherit what they always do. -/
structure Made (m : Memory) (holder console light : Ref) : Prop extends Stocked m holder console light where
  rooted : m.Rooted
  apart : Intrinsic.ref .global ∉ [holder, console, light]

/-- The modules are made, and nothing else was done. -/
structure Ready (m : Memory) (holder console light : Ref) : Prop extends Made m holder console light where
  has : m.Has (Intrinsic.ref .global)
  global : m.object (Intrinsic.ref .global) = Realm.memory.object (Intrinsic.ref .global)
  root : m.object (Intrinsic.ref .objectPrototype) = Realm.memory.object (Intrinsic.ref .objectPrototype)

/-- What guests read under a global name, whatever else the machine is like. -/
def Reads (call : Call) (m : Memory) (name : String) (v : Value) : Prop :=
  ∀ outside machine, machine.memory = m → ((get call (intrinsic .global) (.ofString name)).run outside machine).1 = .ok v

/-- How the modules become global, once they are made. -/
def reveal (c : Config) (call : Call) (holder : Ref) : Run (Option EngineFault) := do
  assign call (Intrinsic.ref .global) (.ofString c.scope) (.object holder)
  if c.globalConsole then exposeConsole call holder
  return none

theorem root_ne_global : Intrinsic.ref .objectPrototype ≠ Intrinsic.ref .global := by decide

section
variable {m n : Memory} {holder console light : Ref}

theorem reads_of_finds {call : Call} {name : String} {v : Value}
    (finds : m.Finds (Intrinsic.ref .global) (.ofString name) v) : Reads call m name v := by
  rintro outside machine rfl
  rw [intrinsic, get_of_finds call outside finds]

theorem Made.own (made : Made m holder console light) :
    (m.object holder).properties.lookup (.ofString consoleName) = some (.plain (.object console)) := by
  rw [made.holds.object]
  exact Object.lookup_entry.trans (if_pos rfl)

theorem Made.ne_global (made : Made m holder console light) :
    holder ≠ Intrinsic.ref .global ∧ console ≠ Intrinsic.ref .global ∧ light ≠ Intrinsic.ref .global := by
  simpa [eq_comm, not_or] using made.apart

/-- Whatever is done to the global object, the modules stay as they are. -/
theorem Made.keep (made : Made m holder console light) (h : m.Keeps (Intrinsic.ref .global) n)
    (plain : (m.object (Intrinsic.ref .global)).role = .plain) : Made n holder console light := by
  obtain ⟨holder, console, light⟩ := made.ne_global
  exact ⟨⟨made.holds.keep h holder, made.fillsConsole.keep h plain console, made.fillsLight.keep h plain light⟩,
    made.rooted.keep h plain root_ne_global, made.apart⟩

theorem Ready.writable (ready : Ready m holder console light) :
    (m.object (Intrinsic.ref .global)).Writable (some (Intrinsic.ref .objectPrototype))
      (Realm.fixedNames.map Units.ofString) := by
  rw [ready.global]
  exact Realm.sound.writable

theorem Ready.missing (ready : Ready m holder console light) {key : Units}
    (new : key ∈ [prototypeAccess, .ofString consoleName]) :
    (m.object (Intrinsic.ref .global)).properties.lookup key = none := by
  rw [ready.global]
  exact Realm.sound.new key new

/-- The global object is none of those that the modules make. -/
theorem ne_global {r : Ref} {entries : List (Units × Ref)}
    (global : m.object (Intrinsic.ref .global) = Realm.memory.object (Intrinsic.ref .global)) (holds : m.Holds r entries) :
    Intrinsic.ref .global ≠ r := by
  rintro rfl
  have tag := Realm.sound.tag
  rw [← global, holds.object] at tag
  cases tag

end

theorem standard_sound : ∀ module ∈ standard, module.Sound := by
  intro module member
  simp only [standard, List.mem_cons, List.not_mem_nil, or_false] at member
  rcases member with rfl | rfl <;> exact ⟨by decide +kernel, by decide +kernel, rfl⟩

/-- Once all modules are made, what remains is how they become global. -/
theorem install_of_filled (engine : Engine) (c : Config) {modules : List Module} {outside : Outside} {m n k : Machine}
    {holder : Ref}
    (made : (newObject []).run outside m = (.ok holder, k))
    (filled : (Registrant.fillAll (engine.calls c).call holder
      (modules.map (·.registrant (engine.calls c).call))).run outside k = (.ok none, n)) :
    (install engine c modules).run outside m = (reveal c (engine.calls c).call holder).run outside n := by
  rcases put : (assign (engine.calls c).call (Intrinsic.ref .global) (.ofString c.scope) (.object holder)).run outside n with
    ⟨e | _, after⟩
  · rw [reveal, bind_error put]
    exact bind_error ((Registrant.register_of_filled made filled).trans (bind_error put _)) _
  · rw [reveal, bind_ok put]
    exact bind_ok ((Registrant.register_of_filled made filled).trans (bind_ok put _)) _

/-- The standard modules are always made. -/
theorem fillAll_ready (call : Call) (outside : Outside) {m : Machine} (start : m.memory = Realm.memory) :
    ∃ k n console light, (newObject []).run outside m = (.ok m.memory.next, k) ∧
      (Registrant.fillAll call m.memory.next (standard.map (·.registrant call))).run outside k = (.ok none, n) ∧
      Ready n.memory m.memory.next console light := by
  obtain ⟨k, made, empty, kept⟩ := newObject_holds outside m
  have new : ¬ Realm.memory.Has m.memory.next := start ▸ m.memory.next_not_has
  have kept : ∀ but, Realm.memory.Keeps but k := start ▸ kept
  generalize m.memory.next = holder at made empty new ⊢
  have other {r : Ref} (has : Realm.memory.Has r) : r ≠ holder := fun same => new (same ▸ has)
  have rooted : k.Rooted := Realm.sound.rooted.keep (kept (Intrinsic.ref .global)) Realm.sound.writable.plain root_ne_global
  obtain ⟨n, entries, filled, keeps, holds, given⟩ := fillAll_fills call outside standard_sound
    (m := { m with memory := k }) rooted empty (by decide +kernel) (by decide +kernel)
  have old {r : Ref} (has : Realm.memory.Has r) : n.object r = Realm.memory.object r :=
    (keeps.object r ((kept r).has has) (other has)).trans ((kept holder).object r has (other has))
  have global := old Realm.sound.has
  rw [standard, List.forall₂_cons_left_iff] at given
  obtain ⟨⟨_, console⟩, _, ⟨rfl, fillsConsole⟩, given, rfl⟩ := given
  rw [List.forall₂_cons_left_iff] at given
  obtain ⟨⟨_, light⟩, _, ⟨rfl, fillsLight⟩, given, rfl⟩ := given
  rw [List.forall₂_nil_left_iff.mp given] at holds
  have apart : Intrinsic.ref .global ∉ [holder, console, light] := by
    obtain ⟨_, first, -⟩ := fillsConsole
    obtain ⟨_, second, -⟩ := fillsLight
    simp only [List.mem_cons, List.not_mem_nil, or_false, not_or]
    exact ⟨ne_global global holds, ne_global global first, ne_global global second⟩
  exact ⟨_, { m with memory := n }, console, light, made, filled, ⟨⟨holds, fillsConsole, fillsLight⟩,
    rooted.keep_holding empty keeps, apart⟩, keeps.has ((kept holder).has Realm.sound.has), global,
    old Realm.sound.rooted.has⟩

/-- What remains is how they become global. -/
theorem install_ready (engine : Engine) (c : Config) (outside : Outside) {m : Machine} (start : m.memory = Realm.memory) :
    ∃ n holder console light, Ready n.memory holder console light ∧
      (install engine c standard).run outside m = (reveal c (engine.calls c).call holder).run outside n := by
  obtain ⟨k, n, console, light, made, filled, ready⟩ := fillAll_ready (engine.calls c).call outside start
  exact ⟨n, _, console, light, ready, install_of_filled engine c made filled⟩

section
variable {engine : Engine} {c : Config} {m : Machine} {call : Call} {outside : Outside} {holder console light : Ref}

theorem reveal_of_thrown {e : Value} {n : Machine}
    (put : (assign call (Intrinsic.ref .global) (.ofString c.scope) (.object holder)).run outside m = (.error e, n)) :
    (reveal c call holder).run outside m = (.error e, n) :=
  bind_error put _

theorem reveal_of_hidden (hidden : c.globalConsole = false) {n : Machine}
    (put : (assign call (Intrinsic.ref .global) (.ofString c.scope) (.object holder)).run outside m = (.ok (), n)) :
    (reveal c call holder).run outside m = (.ok none, n) := by
  unfold reveal
  rw [bind_ok put]
  simp only [hidden, Bool.false_eq_true, if_false]
  rfl

/-- The console is put under its own name where nothing stands in the way. -/
theorem reveal_of_shown (shown : c.globalConsole = true) {k : Machine}
    (put : (assign call (Intrinsic.ref .global) (.ofString c.scope) (.object holder)).run outside m = (.ok (), k))
    (made : Made k.memory holder console light) (has : k.memory.Has (Intrinsic.ref .global))
    (plain : (k.memory.object (Intrinsic.ref .global)).role = .plain)
    (opens : ∀ p, k.memory.find? (Intrinsic.ref .global) (.ofString consoleName) = some p → p.Open) :
    ∃ n, (reveal c call holder).run outside m = (.ok none, { k with memory := n }) ∧ Made n holder console light ∧
      k.memory.Written (Intrinsic.ref .global) (.ofString consoleName) (.object console) n := by
  have finds : k.memory.Finds holder (.ofString consoleName) (.object console) :=
    ⟨.plain (.object console), true, Memory.find?_of_own made.holds.plain made.own, rfl⟩
  obtain ⟨n, exposed, written⟩ := setOn_written call outside (v := .object console) true has plain opens
  refine ⟨n, ?_, made.keep written.keeps plain, written⟩
  have ran : (exposeConsole call holder).run outside k = (.ok (), { k with memory := n }) := by
    unfold exposeConsole
    rw [bind_ok (get_of_finds call outside finds)]
    exact exposed
  unfold reveal
  rw [bind_ok put]
  simp only [shown, if_true]
  exact bind_ok ran _

variable (outside)

theorem reveal_fixed (ready : Ready m.memory holder console light) (fixed : c.scope ∈ Realm.fixedNames) :
    ∃ e n, (reveal c (engine.calls c).call holder).run outside m = (.error e, n) := by
  obtain ⟨p, v, own, contents⟩ := Realm.sound.fixed c.scope fixed
  rw [← ready.global] at own
  obtain ⟨e, n, refused⟩ := setOn_of_fixed (engine.calls c).call outside ready.writable.plain own contents (.object holder)
  exact ⟨e, n, reveal_of_thrown refused⟩

/-- The modules' object is put where nothing but the names that cannot be had stands in the way. -/
theorem assign_open (ready : Ready m.memory holder console light) (free : c.scope ∉ Realm.fixedNames)
    (other : c.scope ≠ "__proto__") :
    ∃ k, (assign (engine.calls c).call (Intrinsic.ref .global) (.ofString c.scope) (.object holder)).run outside m =
        (.ok (), { m with memory := k }) ∧
      m.memory.Written (Intrinsic.ref .global) (.ofString c.scope) (.object holder) k := by
  have key : Units.ofString c.scope ≠ prototypeAccess := fun same => other (Units.ofString_inj.mp same)
  have unfixed : Units.ofString c.scope ∉ Realm.fixedNames.map Units.ofString := by
    rw [List.mem_map]
    rintro ⟨name, member, same⟩
    exact free (Units.ofString_inj.mp same ▸ member)
  exact setOn_written (engine.calls c).call outside true ready.has ready.writable.plain
    (ready.rooted.opens ready.writable unfixed key)

/-- The console comes to have its own name, and takes it over if the modules have it. -/
theorem reveal_shown (ready : Ready m.memory holder console light) (free : c.scope ∉ Realm.fixedNames)
    (other : c.scope ≠ "__proto__") (shown : c.globalConsole = true) :
    ∃ n, (reveal c (engine.calls c).call holder).run outside m = (.ok none, { m with memory := n }) ∧
      Made n holder console light ∧ Reads (engine.calls c).call n consoleName (.object console) ∧
      (c.scope ≠ consoleName → Reads (engine.calls c).call n c.scope (.object holder)) := by
  obtain ⟨k, put, written⟩ := assign_open outside ready free other
  have writable := written.writable ready.writable
  have made := ready.toMade.keep written.keeps ready.writable.plain
  obtain ⟨n, revealed, made, exposed⟩ := reveal_of_shown shown put made (written.keeps.has ready.has) writable.plain
    (made.rooted.opens writable (by decide) (by decide))
  refine ⟨n, revealed, made, reads_of_finds exposed.finds, fun apart => ?_⟩
  obtain ⟨p, data, own⟩ := written.own
  have still := exposed.others (.ofString c.scope) fun same => apart (Units.ofString_inj.mp same)
  exact reads_of_finds ⟨p, true, Memory.find?_of_own exposed.plain (still.trans own), data⟩

theorem reveal_hidden (ready : Ready m.memory holder console light) (free : c.scope ∉ Realm.fixedNames)
    (other : c.scope ≠ "__proto__") (hidden : c.globalConsole = false) :
    ∃ n, (reveal c (engine.calls c).call holder).run outside m = (.ok none, { m with memory := n }) ∧
      Made n holder console light ∧ Reads (engine.calls c).call n c.scope (.object holder) ∧
      (c.scope ≠ consoleName → n.find? (Intrinsic.ref .global) (.ofString consoleName) = none) := by
  obtain ⟨n, put, written⟩ := assign_open outside ready free other
  have writable := written.writable ready.writable
  have made := ready.toMade.keep written.keeps ready.writable.plain
  refine ⟨n, reveal_of_hidden hidden put, made, reads_of_finds written.finds, fun apart => ?_⟩
  have own := written.others (.ofString consoleName) fun same => apart (Units.ofString_inj.mp same).symm
  have root := written.keeps.object _ ready.rooted.has root_ne_global
  rw [made.rooted.find? writable.plain writable.prototype, own, root, ready.missing (by simp), ready.root,
    Option.none_or]
  exact Realm.sound.inherited

end

/-- The modules' object stands behind the global one. -/
structure Behind (m : Memory) (holder : Ref) : Prop where
  plain : (m.object (Intrinsic.ref .global)).role = .plain
  prototype : (m.object (Intrinsic.ref .global)).prototype = some holder
  own : (m.object (Intrinsic.ref .global)).properties.lookup prototypeAccess = none

section
variable {engine : Engine} {c : Config} {m : Machine} (outside : Outside) {holder console light : Ref}

theorem Behind.reads {k : Memory} (behind : Behind k holder) (made : Made k holder console light) (depth : Nat) :
    Reads (Calls.ofDepth (depth + 1)).call k "__proto__" (.object holder) := by
  rintro outside machine rfl
  obtain ⟨getter, setter, access⟩ := made.rooted.access
  have absent : prototypeAccess ∉ (machine.memory.object holder).properties.map Prod.fst := by
    rw [made.holds.keys]
    exact (by decide : prototypeAccess ∉ [.ofString Module.console.name, .ofString Module.light.name])
  have found : machine.memory.find? (Intrinsic.ref .global) prototypeAccess =
      some (.computed (some getter) (some setter)) := by
    rw [made.rooted.find?_second behind.plain behind.prototype made.holds.plain made.holds.prototype, behind.own,
      Object.lookup_of_new absent, access.property]
    rfl
  exact get_prototype found access.gets behind.prototype depth

/-- What is set under the name for prototypes goes to the realm's own setter. -/
theorem Ready.setter (ready : Ready m.memory holder console light) :
    ∃ getter setter,
      m.memory.find? (Intrinsic.ref .global) prototypeAccess = some (.computed (some getter) (some setter)) ∧
      m.memory.callable? (.object setter) = some (.builtin .prototypeSetter) := by
  obtain ⟨getter, setter, access⟩ := ready.rooted.access
  refine ⟨getter, setter, ?_, access.sets⟩
  rw [ready.rooted.find? ready.writable.plain ready.writable.prototype, ready.missing (by simp), access.property]
  rfl

/-- Where calls do not nest, nothing can be put under the name for prototypes. -/
theorem reveal_unnested (ready : Ready m.memory holder console light) (scope : c.scope = "__proto__")
    (flat : engine.depth c.limits = 0) :
    ∃ e n, (reveal c (engine.calls c).call holder).run outside m = (.error e, n) := by
  have calls : engine.calls c = .ofDepth 0 := congrArg Calls.ofDepth flat
  obtain ⟨getter, setter, found, -⟩ := ready.setter
  obtain ⟨e, n, thrown⟩ := call_zero (.object setter) (.object (Intrinsic.ref .global)) [.object holder] outside m
  refine ⟨e, n, reveal_of_thrown ?_⟩
  rw [scope, calls]
  exact (setOn_of_setter _ outside true ready.writable.plain found _).trans
    (bind_error thrown _)

theorem calls_of_nests (nests : 0 < engine.depth c.limits) : ∃ depth, engine.calls c = .ofDepth (depth + 1) := by
  obtain ⟨depth, deep⟩ := Nat.exists_eq_succ_of_ne_zero (Nat.ne_zero_of_lt nests)
  exact ⟨depth, congrArg Calls.ofDepth deep⟩

/-- Elsewhere it becomes what the global object inherits from. -/
theorem assign_prototype (ready : Ready m.memory holder console light) (scope : c.scope = "__proto__") {depth : Nat}
    (calls : engine.calls c = .ofDepth (depth + 1)) :
    ∃ k, (assign (engine.calls c).call (Intrinsic.ref .global) (.ofString c.scope) (.object holder)).run outside m =
        (.ok (), k) ∧
      k.memory.Has (Intrinsic.ref .global) ∧ Made k.memory holder console light ∧ Behind k.memory holder ∧
      k.memory.find? (Intrinsic.ref .global) (.ofString consoleName) = some (.plain (.object console)) := by
  have plain := ready.writable.plain
  have own : (m.memory.object (Intrinsic.ref .global)).properties.lookup prototypeAccess = none := ready.missing (by simp)
  obtain ⟨getter, setter, found, sets⟩ := ready.setter
  obtain ⟨k, put, revised⟩ := setOn_prototype outside true plain found sets
    (ready.rooted.chainMeets ready.ne_global.1 root_ne_global ready.holds.prototype) depth
  have keeps : m.memory.Keeps (Intrinsic.ref .global) k.memory := revised ▸ .revised _ _ _
  have made := ready.toMade.keep keeps plain
  have global : k.memory.object (Intrinsic.ref .global) =
      { m.memory.object (Intrinsic.ref .global) with prototype := some holder } := by
    rw [revised, Memory.revised_object ready.has]
  have behind : Behind k.memory holder := by
    constructor <;> rw [global]
    · exact plain
    · exact own
  refine ⟨k, ?_, keeps.has ready.has, made, behind, ?_⟩
  · rw [scope, calls]
    exact put
  · rw [made.rooted.find?_second behind.plain behind.prototype made.holds.plain made.holds.prototype, made.own, global]
    dsimp only
    rw [ready.missing (by simp)]
    rfl

theorem reveal_prototype_shown (ready : Ready m.memory holder console light) (scope : c.scope = "__proto__")
    {depth : Nat} (calls : engine.calls c = .ofDepth (depth + 1)) (shown : c.globalConsole = true) :
    ∃ n, (reveal c (engine.calls c).call holder).run outside m = (.ok none, n) ∧ Made n.memory holder console light ∧
      Reads (engine.calls c).call n.memory consoleName (.object console) ∧
      Reads (engine.calls c).call n.memory c.scope (.object holder) := by
  obtain ⟨k, put, has, made, behind, inherited⟩ := assign_prototype outside ready scope calls
  obtain ⟨n, revealed, made, exposed⟩ := reveal_of_shown shown put made has behind.plain fun p found =>
    Option.some.inj (inherited.symm.trans found) ▸ ⟨.object console, rfl⟩
  have still : Behind n holder := ⟨exposed.plain, exposed.prototype.trans behind.prototype,
    (exposed.others prototypeAccess (by decide)).trans behind.own⟩
  refine ⟨_, revealed, made, reads_of_finds exposed.finds, ?_⟩
  rw [scope, calls]
  exact still.reads made depth

theorem reveal_prototype_hidden (ready : Ready m.memory holder console light) (scope : c.scope = "__proto__")
    {depth : Nat} (calls : engine.calls c = .ofDepth (depth + 1)) (hidden : c.globalConsole = false) :
    ∃ n, (reveal c (engine.calls c).call holder).run outside m = (.ok none, n) ∧
      n.memory.find? (Intrinsic.ref .global) (.ofString consoleName) = some (.plain (.object console)) := by
  obtain ⟨n, put, -, -, -, inherited⟩ := assign_prototype outside ready scope calls
  exact ⟨n, reveal_of_hidden hidden put, inherited⟩

end
end Module

/-- A configuration under whose name the modules can be put, so that they stay there and no other name comes with it. The
name for prototypes leads to a setter, so that putting them there takes a call. -/
structure Config.Fits (c : Config) (engine : Engine) : Prop where
  free : c.scope ∉ Realm.fixedNames
  console : c.scope = Module.consoleName → c.globalConsole = false
  prototype : c.scope = "__proto__" → c.globalConsole = true ∧ 0 < engine.depth c.limits

namespace Host
open ScriptedScene.Module

/-- What reading a name of the global object comes to. -/
def globalValue (h : Host) (name : String) : Except Value Value :=
  ((get h.calls.call (intrinsic .global) (.ofString name)).run (h.outside .free) h.machine).1

/-- Guests find the modules under their name, and the console under its own if it is to have one. -/
structure Offers (h : Host) (holder console light : Ref) : Prop where
  stocked : Stocked h.machine.memory holder console light
  scope : h.globalValue h.config.scope = .ok (.object holder)
  shown : h.config.globalConsole = true → h.globalValue consoleName = .ok (.object console)
  hidden : h.config.globalConsole = false → h.config.scope ≠ consoleName →
    h.machine.memory.find? (Intrinsic.ref .global) (.ofString consoleName) = none

def Furnished (h : Host) : Prop := ∃ holder console light, h.Offers holder console light

theorem globalValue_of_reads {h : Host} {name : String} {v : Value} (reads : Reads h.calls.call h.machine.memory name v) :
    h.globalValue name = .ok v :=
  reads (h.outside .free) h.machine rfl

/-- Where guests find the console under the modules' name, they do not find the modules there. -/
theorem not_furnished_of_console {h : Host} {holder console light : Ref}
    (stocked : Stocked h.machine.memory holder console light)
    (reads : Reads h.calls.call h.machine.memory h.config.scope (.object console)) : ¬ h.Furnished := by
  rintro ⟨other, _, _, offers⟩
  have same := offers.scope.symm.trans (globalValue_of_reads reads)
  obtain rfl : other = console := by simpa using same
  -- The modules' object has one property for each of the two modules, the console has more.
  obtain ⟨entries, holds, provides⟩ := stocked.fillsConsole
  have five : 5 = entries.length := provides.length_eq
  have two : 2 = entries.length := offers.stocked.holds.length_eq holds
  omega

section
variable {engine : Engine} {c : Config} (scene : Store)

/-- Nothing is made where the interpreter cannot be had. -/
theorem create_scant (scant : engine.creates c.limits = false) :
    create engine c scene = .error (.allocation .allocation) := by
  unfold create withModules build
  rw [scant]
  rfl

section
variable (creatable : engine.creates c.limits = true)
include creatable

theorem create_of_revealed : ∃ m holder console light, Ready m.memory holder console light ∧
    (∀ n, (reveal c (engine.calls c).call holder).run (.silent .free) m = (.ok none, n) →
      create engine c scene = .ok ⟨engine, c, .silent, (n.count .zero).leave⟩) ∧
    ∀ e n, (reveal c (engine.calls c).call holder).run (.silent .free) m = (.error e, n) →
      create engine c scene = .error (.registration .exception) := by
  obtain ⟨m, holder, console, light, ready, installed⟩ :=
    install_ready engine c (.silent .free) (m := Machine.new scene) rfl
  refine ⟨m, holder, console, light, ready, ?_, ?_⟩
  · intro n revealed
    unfold create withModules build
    rw [creatable, Bool.not_true, if_neg Bool.false_ne_true, installed, revealed]
  · intro e n thrown
    unfold create withModules build
    rw [creatable, Bool.not_true, if_neg Bool.false_ne_true, installed, thrown]

theorem create_fixed (fixed : c.scope ∈ Realm.fixedNames) :
    create engine c scene = .error (.registration .exception) := by
  obtain ⟨m, holder, console, light, ready, -, failed⟩ := create_of_revealed scene creatable
  obtain ⟨e, n, thrown⟩ := reveal_fixed (.silent .free) ready fixed
  exact failed e n thrown

theorem create_unnested (scope : c.scope = "__proto__") (flat : engine.depth c.limits = 0) :
    create engine c scene = .error (.registration .exception) := by
  obtain ⟨m, holder, console, light, ready, -, failed⟩ := create_of_revealed scene creatable
  obtain ⟨e, n, thrown⟩ := reveal_unnested (.silent .free) ready scope flat
  exact failed e n thrown

/-- Where the modules are to have the console's name and the console too, the console has it. -/
theorem create_taken (scope : c.scope = consoleName) (shown : c.globalConsole = true) :
    ∃ h, create engine c scene = .ok h ∧ ¬ h.Furnished := by
  obtain ⟨m, holder, console, light, ready, created, -⟩ := create_of_revealed scene creatable
  obtain ⟨n, revealed, made, reads, -⟩ := reveal_shown (.silent .free) ready (scope ▸ by decide)
    (scope ▸ by decide) shown
  exact ⟨_, created _ revealed, not_furnished_of_console made.toStocked (scope ▸ reads)⟩

/-- Where the modules stand behind the global object, all names of theirs are global. -/
theorem create_behind (scope : c.scope = "__proto__") (nests : 0 < engine.depth c.limits)
    (hidden : c.globalConsole = false) : ∃ h, create engine c scene = .ok h ∧ ¬ h.Furnished := by
  obtain ⟨depth, calls⟩ := calls_of_nests nests
  obtain ⟨m, holder, console, light, ready, created, -⟩ := create_of_revealed scene creatable
  obtain ⟨n, revealed, inherited⟩ := reveal_prototype_hidden (.silent .free) ready scope calls hidden
  refine ⟨_, created _ revealed, ?_⟩
  rintro ⟨_, _, _, offers⟩
  cases inherited.symm.trans (offers.hidden hidden (scope ▸ by decide))

theorem create_fits (fits : c.Fits engine) : ∃ h, create engine c scene = .ok h ∧ h.Furnished := by
  obtain ⟨m, holder, console, light, ready, created, -⟩ := create_of_revealed scene creatable
  -- What is put under the name for prototypes goes to a setter, and so is not found as others are.
  by_cases scope : c.scope = "__proto__"
  · obtain ⟨shown, nests⟩ := fits.prototype scope
    obtain ⟨depth, calls⟩ := calls_of_nests nests
    obtain ⟨n, revealed, made, own, reads⟩ := reveal_prototype_shown (.silent .free) ready scope calls shown
    exact ⟨_, created _ revealed, holder, console, light, made.toStocked, globalValue_of_reads reads,
      fun _ => globalValue_of_reads own, fun hidden => (nomatch shown.symm.trans hidden)⟩
  cases exposed : c.globalConsole with
  | true =>
    have apart : c.scope ≠ consoleName := fun same => (nomatch exposed.symm.trans (fits.console same))
    obtain ⟨n, revealed, made, own, reads⟩ := reveal_shown (.silent .free) ready fits.free scope exposed
    exact ⟨_, created _ revealed, holder, console, light, made.toStocked, globalValue_of_reads (reads apart),
      fun _ => globalValue_of_reads own, fun hidden => (nomatch exposed.symm.trans hidden)⟩
  | false =>
    obtain ⟨n, revealed, made, reads, missing⟩ := reveal_hidden (.silent .free) ready fits.free scope exposed
    exact ⟨_, created _ revealed, holder, console, light, made.toStocked, globalValue_of_reads reads,
      fun shown => (nomatch exposed.symm.trans shown), fun _ => missing⟩

end
end

/-- A host can be made whose guests find what they are to find if and only if the name of its modules leaves room for
it. -/
theorem create_furnished_iff (engine : Engine) (c : Config) (scene : Store) (creatable : engine.creates c.limits = true) :
    (∃ h, create engine c scene = .ok h ∧ h.Furnished) ↔ c.Fits engine := by
  refine ⟨fun ⟨h, made, furnished⟩ => ⟨?_, ?_, ?_⟩, create_fits scene creatable⟩
  · intro fixed
    cases made.symm.trans (create_fixed scene creatable fixed)
  · intro scope
    refine Bool.eq_false_iff.mpr fun shown => ?_
    obtain ⟨g, taken, bare⟩ := create_taken scene creatable scope shown
    cases made.symm.trans taken
    exact bare furnished
  · intro scope
    have nests : 0 < engine.depth c.limits := by
      refine Nat.pos_of_ne_zero fun flat => ?_
      cases made.symm.trans (create_unnested scene creatable scope flat)
    refine ⟨Bool.not_eq_false _ |>.mp fun hidden => ?_, nests⟩
    obtain ⟨g, behind, bare⟩ := create_behind scene creatable scope nests hidden
    cases made.symm.trans behind
    exact bare furnished

/-- The usual configuration leaves room for all. -/
theorem create_furnished_default :
    Engine.ample.creates Config.default.limits = true ∧ ∃ h, create .ample .default .empty = .ok h ∧ h.Furnished :=
  ⟨rfl, (create_furnished_iff .ample .default .empty rfl).mpr ⟨by decide, by decide, by decide⟩⟩

/-- The console's name is an identifier as any other. -/
theorem create_furnished_console :
    Config.validate { Config.default with scope := consoleName } = .ok () ∧
      ∃ h, create .ample { Config.default with scope := consoleName } .empty = .ok h ∧ ¬ h.Furnished :=
  ⟨by decide, create_taken .empty rfl rfl rfl⟩

end Host
end ScriptedScene
