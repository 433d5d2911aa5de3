import ScriptedScene.Proofs.Guest.Lights
import ScriptedScene.Proofs.Guest.Objects

/-! What the conversion of a light function's arguments can do. It may run guest code where a colour is read whose elements
are computed, and throw what that throws. Otherwise it makes nothing but error objects, none of them of the class that
tells of a held scene, and it comes to the same wherever there are the same objects. -/
namespace ScriptedScene.Guest

/-- A run of the host's own: it makes no calls, leaves nothing on record and changes the memory alone, and what lies
outside of it does not matter. -/
def Run.Alone (x : Run α) : Prop :=
  ∀ m, ∃ result memory, ∀ outside, x.run outside m = (result, { m with memory })

namespace Run.Alone
variable {α β : Type}

theorem pure (a : α) : (Pure.pure a : Run α).Alone := fun m => ⟨_, m.memory, fun _ => rfl⟩

theorem fail (e : Value) : (Run.fail e : Run α).Alone := fun m => ⟨_, m.memory, fun _ => rfl⟩

theorem ask (f : Memory → α) : (Run.ask f).Alone := fun m => ⟨_, m.memory, fun _ => rfl⟩

theorem alloc (o : Object) : (Run.alloc o).Alone := fun _ => ⟨_, _, fun _ => rfl⟩

theorem bind {x : Run α} {f : α → Run β} (h : x.Alone) (k : ∀ a, (f a).Alone) : (x >>= f).Alone := by
  intro m
  obtain ⟨e | a, memory, ran⟩ := h m
  · exact ⟨.error e, memory, fun outside => bind_error (ran outside) f⟩
  · obtain ⟨result, further, next⟩ := k a { m with memory }
    exact ⟨result, further, fun outside => (bind_ok (ran outside) f).trans (next outside)⟩

theorem throwFault (f : Fault) : (Run.throwFault f : Run α).Alone :=
  bind (bind (alloc _) fun r => pure (Value.object r)) fun e => fail e

theorem orThrow {x : Run (Except ConversionFault α)} (h : x.Alone) : (Run.orThrow x).Alone := by
  refine bind h fun converted => ?_
  cases converted with
  | ok a => exact pure a
  | error fault => exact throwFault (.conversion fault)

theorem mismatch (v : Value) (wanted : String) : (Convert.mismatch v wanted : Run (Except ConversionFault α)).Alone :=
  bind (ask _) fun _ => pure _

theorem text (v : Value) : (Convert.text v).Alone := by
  unfold Convert.text
  split
  · split
    · exact pure _
    · exact pure _
  · exact mismatch v "string"

theorem handle (v : Value) : (Convert.handle v).Alone := by
  refine bind ?_ fun _ => pure _
  unfold Convert.number64
  split
  · exact pure _
  · exact mismatch v "f64"

theorem lightOf (handle : UInt32) : (Run.lightOf handle).Alone := by
  unfold Run.lightOf
  split
  · exact pure _
  · exact throwFault .nullHandle

theorem lightOfHandle (v : Value) : (do
    return Inquiry.light (← Run.lightOf (← Run.orThrow (Convert.handle v)))).Alone :=
  bind (orThrow (handle v)) fun _ => bind (lightOf _) fun _ => pure _

end Run.Alone

/-- What a run throws is of one kind. -/
def Run.ThrowsOnly (outside : Outside) (kind : Value → Machine → Prop) (x : Run α) : Prop :=
  ∀ m e n, x.run outside m = (.error e, n) → kind e n

namespace Run.ThrowsOnly
variable {α β : Type} {outside : Outside} {kind : Value → Machine → Prop}

theorem pure (a : α) : (Pure.pure a : Run α).ThrowsOnly outside kind := nofun

theorem bind {x : Run α} {f : α → Run β} (h : x.ThrowsOnly outside kind) (k : ∀ a, (f a).ThrowsOnly outside kind) :
    (x >>= f).ThrowsOnly outside kind := by
  intro m e n ran
  rcases first : x.run outside m with ⟨e' | a, m'⟩
  · rw [bind_error first] at ran
    cases ran
    exact h _ _ _ first
  · rw [bind_ok first] at ran
    exact k a _ _ _ ran

theorem throwFault {fault : Fault} (blames : ∀ e n, n.memory.IsFault e fault → kind e n) :
    (Run.throwFault fault : Run α).ThrowsOnly outside kind := by
  intro m e n ran
  obtain ⟨e', memory, thrown, made⟩ := throwFault_run (α := α) fault outside m
  cases ran.symm.trans thrown
  exact blames _ _ made

theorem orThrow {x : Run (Except ConversionFault α)} (h : x.ThrowsOnly outside kind)
    (blames : ∀ fault e n, n.memory.IsFault e (.conversion fault) → kind e n) : (Run.orThrow x).ThrowsOnly outside kind := by
  refine bind h fun converted => ?_
  cases converted with
  | ok a => exact pure a
  | error fault => exact throwFault (blames fault)

theorem mismatch (v : Value) (wanted : String) :
    (Convert.mismatch v wanted : Run (Except ConversionFault α)).ThrowsOnly outside kind :=
  bind (x := Run.ask v.typeName) nofun fun _ => pure _

theorem text (v : Value) : (Convert.text v).ThrowsOnly outside kind := by
  unfold Convert.text
  split
  · split
    · exact pure _
    · exact pure _
  · exact mismatch v "string"

theorem number64 (v : Value) : (Convert.number64 v).ThrowsOnly outside kind := by
  unfold Convert.number64
  split
  · exact pure _
  · exact mismatch v "f64"

theorem number32 (v : Value) : (Convert.number32 v).ThrowsOnly outside kind := bind (number64 v) fun _ => pure _

theorem handle (v : Value) : (Convert.handle v).ThrowsOnly outside kind := bind (number64 v) fun _ => pure _

variable {call : Call} {v : Value}

theorem elements (through : ∀ place, (Run.get call v (.ofNat place)).ThrowsOnly outside kind) (length left : Nat) :
    (Convert.elements call v length left).ThrowsOnly outside kind := by
  induction left with
  | zero => exact pure _
  | succ left ih =>
    unfold Convert.elements
    refine bind (through _) fun element => bind (number32 element) fun converted => ?_
    cases converted with
    | error fault => exact pure _
    | ok x =>
      refine bind ih fun others => ?_
      cases others with
      | error fault => exact pure _
      | ok xs => exact pure _

theorem color (through : ∀ place, (Run.get call v (.ofNat place)).ThrowsOnly outside kind) :
    (Convert.color call v).ThrowsOnly outside kind := by
  refine bind ?_ fun numbers => ?_
  · unfold Convert.numbers
    split
    · refine bind (x := Run.object _) nofun fun o => ?_
      split
      · exact elements through _ _
      · exact mismatch _ _
    · exact mismatch _ _
  · split <;> exact pure _

theorem lightOf (handle : UInt32) (blames : ∀ e n, n.memory.IsFault e .nullHandle → kind e n) :
    (Run.lightOf handle).ThrowsOnly outside kind := by
  unfold Run.lightOf
  split
  · exact pure _
  · exact throwFault blames

theorem kindOf (spelling : String)
    (blames : ∀ e n, n.memory.IsFault e (.scene (.unknownKind spelling)) → kind e n) :
    (Run.kindOf spelling).ThrowsOnly outside kind := by
  unfold Run.kindOf LightKind.parse
  cases LightKind.ofName? spelling with
  | some known => exact pure known
  | none => exact throwFault blames

end Run.ThrowsOnly

namespace Memory
variable {m : Memory} {r : Ref} {key : Units} {p : Property}

theorem find?_of_own? (own : (m.object r).own? key = some p) : m.find? r key = some p := by
  rw [find?, findFrom]
  simp only [own]

theorem has_of_array {length : Nat} {adjustable : Bool} (role : (m.object r).role = .array length adjustable) : m.Has r := by
  refine Nat.lt_of_not_le fun bound => ?_
  have missing : m.object r = default := by simp [Memory.object, bound]
  rw [missing] at role
  cases role

/-- An object has a value of its own at a place. -/
def Stores (m : Memory) (r : Ref) (place : Nat) : Prop :=
  ∃ p v writable, (m.object r).own? (.ofNat place) = some p ∧ p.contents = .data v writable

/-- If the second of some arguments is an object, it has values of its own where a colour has its components. -/
def Settled (m : Memory) (arguments : List Value) : Prop :=
  ∀ v r rest, arguments = v :: .object r :: rest → ∀ place ∈ [0, 1, 2], m.Stores r place

end Memory

/-- Numbers that are an object's own values are read without running anything, wherever there is the same object. -/
theorem Convert.Numbers.again {call : Call} {outside : Outside} {r : Ref} {places : List Nat} {m n k : Machine}
    {xs : List Binary32} (numbers : Numbers call outside (.object r) places m xs n)
    (stored : ∀ place ∈ places, m.memory.Stores r place) (call' : Call) (outside' : Outside)
    (same : k.memory.object r = m.memory.object r) : n = m ∧ Numbers call' outside' (.object r) places k xs k := by
  generalize array : Value.object r = v at numbers
  induction numbers with
  | nil => exact ⟨rfl, array ▸ .nil⟩
  | cons read number rest ih =>
    subst array
    obtain ⟨p, w, writable, own, data⟩ := stored _ List.mem_cons_self
    have here := Run.get_of_finds call outside ⟨p, writable, Memory.find?_of_own? own, data⟩
    cases here.symm.trans read
    obtain ⟨rfl, later⟩ := ih (fun place member => stored place (List.mem_cons_of_mem _ member)) same
    have there := Run.get_of_finds call' outside' ⟨p, writable, Memory.find?_of_own? (same ▸ own), data⟩
    exact ⟨rfl, .cons there number later⟩

namespace LightFunction
open Run
variable {call : Call} {outside : Outside} {f : LightFunction} {arguments : List Value} {m n : Machine} {q : Inquiry}

/-- The functions whose calls ask for a change. -/
def changes : LightFunction → Bool
  | create | setColor | setIntensity => true
  | find | getKind | getColor | getIntensity | count => false

/-- Guest code runs while arguments are converted only where a colour has elements that are computed: otherwise the same is
asked wherever there are the same objects. -/
theorem asks_again (asks : Asks call outside f arguments m q n) (settled : f = .setColor → m.memory.Settled arguments)
    (call' : Call) (outside' : Outside) {k : Machine}
    (same : ∀ r, m.memory.Has r → k.memory.object r = m.memory.object r) :
    n = m ∧ Asks call' outside' f arguments k q k := by
  cases asks with
  | create text spelled => exact ⟨rfl, .create text spelled⟩
  | createNamed text named spelled => exact ⟨rfl, .createNamed text named spelled⟩
  | find named => exact ⟨rfl, .find named⟩
  | light reads designates => exact ⟨rfl, .light reads designates⟩
  | setColor designates color =>
    obtain ⟨r, adjustable, rfl, role, numbers⟩ := color
    have known := same r (Memory.has_of_array role)
    obtain ⟨rfl, later⟩ := numbers.again (settled rfl _ _ _ rfl) call' outside' known
    exact ⟨rfl, .setColor designates ⟨r, adjustable, rfl, known ▸ role, later⟩⟩
  | setIntensity designates number => exact ⟨rfl, .setIntensity designates number⟩
  | count => exact ⟨rfl, .count⟩

theorem inquiry_alone (reads : f.changes = false) (call : Call) (arguments : List Value) :
    (f.inquiry call arguments).Alone := by
  unfold inquiry
  split
  case h_3 => exact .bind (.orThrow (.text _)) fun _ => .pure _
  case h_4 | h_5 | h_6 => exact .lightOfHandle _
  case h_9 => exact .pure _
  case h_10 => exact .throwFault _
  all_goals cases reads

theorem value_alone (f : LightFunction) (reading : Reading) : (f.value reading).Alone := by
  unfold value
  split
  case h_4 => exact .bind (.alloc _) fun _ => .pure _
  all_goals exact .pure _

/-- What arguments are refused with: an error object of another class than the engine's own, or what the reading of an
element of a colour has thrown. -/
def Blames (call : Call) (outside : Outside) (f : LightFunction) (arguments : List Value) (e : Value) (n : Machine) : Prop :=
  (∃ fault, n.memory.IsFault e fault ∧ fault.errorClass ≠ .internalError) ∨
  ∃ v w rest place k, f = .setColor ∧ arguments = v :: w :: rest ∧
    (Run.get call w (.ofNat place)).run outside k = (.error e, n)

theorem inquiry_blames (f : LightFunction) (call : Call) (arguments : List Value) (outside : Outside) :
    (f.inquiry call arguments).ThrowsOnly outside (Blames call outside f arguments) := by
  have conversion (fault : ConversionFault) (e : Value) (n : Machine) (made : n.memory.IsFault e (.conversion fault)) :
      Blames call outside f arguments e n := .inl ⟨_, made, nofun⟩
  have text (v : Value) : (orThrow (Convert.text v)).ThrowsOnly outside (Blames call outside f arguments) :=
    .orThrow (.text v) conversion
  have handle (v : Value) : (orThrow (Convert.handle v)).ThrowsOnly outside (Blames call outside f arguments) :=
    .orThrow (.handle v) conversion
  have kind (s : String) : (kindOf s).ThrowsOnly outside (Blames call outside f arguments) :=
    .kindOf s fun _ _ made => .inl ⟨_, made, nofun⟩
  have light (h : UInt32) : (lightOf h).ThrowsOnly outside (Blames call outside f arguments) :=
    .lightOf h fun _ _ made => .inl ⟨_, made, nofun⟩
  unfold inquiry
  split
  · exact .bind (text _) fun _ => .bind (kind _) fun _ => .pure _
  · exact .bind (text _) fun _ => .bind (text _) fun _ => .bind (kind _) fun _ => .pure _
  · exact .bind (text _) fun _ => .pure _
  · exact .bind (handle _) fun _ => .bind (light _) fun _ => .pure _
  · exact .bind (handle _) fun _ => .bind (light _) fun _ => .pure _
  · exact .bind (handle _) fun _ => .bind (light _) fun _ => .pure _
  · refine .bind (handle _) fun _ => .bind (.orThrow (.color ?_) conversion) fun _ => .bind (light _) fun _ => .pure _
    exact fun place k e n ran => .inr ⟨_, _, _, place, k, rfl, rfl, ran⟩
  · exact .bind (handle _) fun _ => .bind (.orThrow (.number32 _) conversion) fun _ => .bind (light _) fun _ => .pure _
  · exact .pure _
  · exact .throwFault fun _ _ made => .inl ⟨_, made, nofun⟩

end LightFunction

end ScriptedScene.Guest
