import ScriptedScene.Host.Module
import ScriptedScene.Proofs.Guest.Realm

/-! The objects of a host's modules. Each is filled with functions, one after the other, and is then put into the object
that holds them all; no object that was there before is written to on the way. -/
namespace ScriptedScene
open Guest Run

namespace Guest

/-- A plain object that holds an object under each of some keys, and nothing else. -/
def Object.holding (entries : List (Units × Ref)) : Object :=
  ⟨some (Intrinsic.ref .objectPrototype), entries.map fun (key, r) => (key, .plain (.object r)), .plain, none⟩

/-- At a place is a plain object that holds the given ones. -/
structure Memory.Holds (m : Memory) (r : Ref) (entries : List (Units × Ref)) : Prop where
  has : m.Has r
  object : m.object r = .holding entries

namespace Memory
variable {m n : Memory} {r but : Ref} {entries : List (Units × Ref)}

theorem Holds.keep (holds : m.Holds r entries) (h : m.Keeps but n) (other : r ≠ but) : n.Holds r entries :=
  ⟨h.has holds.has, (h.object r holds.has other).trans holds.object⟩

theorem Holds.plain (holds : m.Holds r entries) : (m.object r).role = .plain := by
  rw [holds.object]
  rfl

theorem Holds.prototype (holds : m.Holds r entries) :
    (m.object r).prototype = some (Intrinsic.ref .objectPrototype) := by
  rw [holds.object]
  rfl

theorem Holds.keys (holds : m.Holds r entries) : (m.object r).properties.map Prod.fst = entries.map Prod.fst := by
  rw [holds.object, Object.holding, List.map_map]
  rfl

theorem Holds.length_eq {others : List (Units × Ref)} (holds : m.Holds r entries) (again : m.Holds r others) :
    entries.length = others.length := by
  have same := congrArg (fun o => o.properties.length) (holds.object.symm.trans again.object)
  simpa [Object.holding] using same

theorem Rooted.keep_holding (rooted : m.Rooted) (holds : m.Holds r entries) (h : m.Keeps r n) : n.Rooted :=
  rooted.keep h holds.plain (rooted.ne holds.prototype)

end Memory

/-- A new object holds nothing. -/
theorem Run.newObject_holds (outside : Outside) (m : Machine) :
    ∃ n, (newObject []).run outside m = (.ok m.memory.next, { m with memory := n }) ∧ n.Holds m.memory.next [] ∧
      ∀ but, m.memory.Keeps but n :=
  ⟨_, alloc_eq _ outside m, ⟨m.memory.added_has_next _, m.memory.added_object_next _⟩,
    fun but => .added m.memory but _⟩

/-- A new function calls what it is made from. -/
theorem Run.newFunction_callable (f : Callable) (name : Units) (arity : Nat) (outside : Outside) (m : Machine) :
    ∃ n, (newFunction f name arity).run outside m = (.ok m.memory.next, { m with memory := n }) ∧
      n.callable? (.object m.memory.next) = some f ∧ ∀ but, m.memory.Keeps but n := by
  refine ⟨_, alloc_eq _ outside m, ?_, fun but => .added m.memory but _⟩
  rw [Memory.callable?, Memory.added_object_next]
  rfl

end Guest

namespace Registrant
variable {call : Call} {outside : Outside} {m n k : Machine} {globals holder : Ref} {name : Units} {all : List Registrant}

theorem register_of_filled (made : (newObject []).run outside m = (.ok holder, k))
    (filled : (fillAll call holder all).run outside k = (.ok none, n)) :
    (register call globals name all).run outside m =
      (assign call globals name (.object holder) >>= fun _ => return .ok holder).run outside n := by
  rw [register, bind_ok made, bind_ok filled]

end Registrant

namespace Module

/-- Under a key there is a function that calls one of the host's. -/
def Provides (m : Memory) (member : Units × HostFunction) (entry : Units × Ref) : Prop :=
  entry.1 = member.1 ∧ m.callable? (.object entry.2) = some (.host member.2)

/-- An object has a module's functions under their keys, and nothing else. -/
def Fills (module : Module) (m : Memory) (r : Ref) : Prop :=
  ∃ entries, m.Holds r entries ∧ List.Forall₂ (Provides m) module.members entries

section
variable {m n : Memory} {r but : Ref}

theorem Provides.keep {member : Units × HostFunction} {entry : Units × Ref} (provides : Provides m member entry)
    (h : m.Keeps but n) (plain : (m.object but).role = .plain) : Provides n member entry :=
  ⟨provides.1, h.callable? plain provides.2⟩

theorem Fills.keep {module : Module} (fills : module.Fills m r) (h : m.Keeps but n)
    (plain : (m.object but).role = .plain) (other : r ≠ but) : module.Fills n r := by
  obtain ⟨entries, holds, provides⟩ := fills
  exact ⟨entries, holds.keep h other, provides.imp fun _ _ provides => provides.keep h plain⟩

end

variable (call : Call) (outside : Outside) {m : Machine} {holder target : Ref} {entries done : List (Units × Ref)}

/-- Under a new key an object comes to hold another one. -/
theorem assign_holds (rooted : m.memory.Rooted) (holds : m.memory.Holds holder entries) {key : Units}
    (new : key ∉ entries.map Prod.fst) (other : key ≠ prototypeAccess) (target : Ref) :
    ∃ n, (assign call holder key (.object target)).run outside m = (.ok (), { m with memory := n }) ∧
      n.Holds holder (entries ++ [(key, target)]) ∧ m.memory.Keeps holder n := by
  have absent : key ∉ (m.memory.object holder).properties.map Prod.fst := by
    rw [holds.keys]
    exact new
  have missing := Object.lookup_of_new absent
  have opens : ∀ p, m.memory.find? holder key = some p → p.Open := by
    intro p found
    rw [rooted.find? holds.plain holds.prototype, missing, Option.none_or] at found
    exact rooted.writable.opens key p found (by simpa using other)
  have assigned : (m.memory.object holder).assigned key (.object target) = .plain (.object target) := by
    rw [Object.assigned, Object.own?_of_plain holds.plain, missing]
  have put : (m.memory.object holder).put key (.plain (.object target)) = .holding (entries ++ [(key, target)]) := by
    rw [Object.put, Object.putEntry_of_new absent, holds.object]
    simp only [Object.holding, Object.grownRole, List.map_append, List.map_cons, List.map_nil]
  have written := setOn_of_open call outside (v := .object target) true holds.plain opens
  rw [assigned] at written
  refine ⟨_, written, ⟨Memory.revised_has.mpr holds.has, ?_⟩, .revised _ _ _⟩
  rw [Memory.revised_object holds.has, put]

theorem addMembers_fills {members : List (Units × HostFunction)} (rooted : m.memory.Rooted)
    (holds : m.memory.Holds target done) (distinct : (done.map Prod.fst ++ members.map Prod.fst).Nodup)
    (others : prototypeAccess ∉ members.map Prod.fst) :
    ∃ n made, (addMembers call target members).run outside m = (.ok (), { m with memory := n }) ∧
      m.memory.Keeps target n ∧ n.Holds target (done ++ made) ∧ List.Forall₂ (Provides n) members made := by
  induction members generalizing m done with
  | nil => exact ⟨m.memory, [], rfl, .refl _ _, by simpa using holds, .nil⟩
  | cons member rest ih =>
    obtain ⟨key, f⟩ := member
    rw [List.map_cons] at distinct others
    have new : key ∉ done.map Prod.fst := fun old => (List.nodup_append.mp distinct).2.2 key old key List.mem_cons_self rfl
    -- A function object is made, and is then put under the key.
    obtain ⟨k, made, callable, kept⟩ := newFunction_callable (.host f) f.name f.arity outside m
    have rooted := rooted.keep_holding holds (kept target)
    have held := holds.keep (kept m.memory.next) holds.has.ne_next
    obtain ⟨l, put, further, written⟩ := assign_holds call outside
      (m := { m with memory := k }) rooted held new (fun same => others (same ▸ List.mem_cons_self)) m.memory.next
    have first : Provides l (key, f) (key, m.memory.next) := ⟨rfl, written.callable? held.plain callable⟩
    obtain ⟨n, entries, rest, keeps, filled, provides⟩ := ih (m := { m with memory := l })
      (rooted.keep_holding held written) further
      (by simpa using distinct) (fun member => others (List.mem_cons_of_mem _ member))
    refine ⟨n, (key, m.memory.next) :: entries, ?_, ((kept target).trans written).trans keeps, by simpa using filled,
      .cons (first.keep keeps further.plain) provides⟩
    rw [addMembers, bind_ok made, bind_ok put]
    exact rest

/-- A module with keys of its own for its functions, whose filling does not fail. -/
structure Sound (module : Module) : Prop where
  distinct : (module.members.map Prod.fst).Nodup
  others : prototypeAccess ∉ module.members.map Prod.fst
  fault : module.fault = none

/-- Under a module's name there is an object that the module fills. -/
def Given (m : Memory) (module : Module) (entry : Units × Ref) : Prop :=
  entry.1 = .ofString module.name ∧ module.Fills m entry.2

theorem fillAll_fills {modules : List Module} (sound : ∀ module ∈ modules, module.Sound) (rooted : m.memory.Rooted)
    (holds : m.memory.Holds holder done)
    (distinct : (done.map Prod.fst ++ modules.map fun module => Units.ofString module.name).Nodup)
    (others : prototypeAccess ∉ modules.map fun module => Units.ofString module.name) :
    ∃ n made, (Registrant.fillAll call holder (modules.map (·.registrant call))).run outside m = (.ok none, { m with memory := n }) ∧
      m.memory.Keeps holder n ∧ n.Holds holder (done ++ made) ∧ List.Forall₂ (Given n) modules made := by
  induction modules generalizing m done with
  | nil => exact ⟨m.memory, [], rfl, .refl _ _, by simpa using holds, .nil⟩
  | cons module rest ih =>
    rw [List.map_cons] at distinct others
    have new : Units.ofString module.name ∉ done.map Prod.fst :=
      fun old => (List.nodup_append.mp distinct).2.2 _ old _ List.mem_cons_self rfl
    have apt := sound module List.mem_cons_self
    -- The module fills an object of its own.
    obtain ⟨k, made, empty, kept⟩ := newObject_holds outside m
    have rooted := rooted.keep_holding holds (kept holder)
    obtain ⟨l, members, filled, keeps, full, provides⟩ := addMembers_fills call outside
      (m := { m with memory := k }) rooted empty (by simpa using apt.distinct) apt.others
    have fills : module.Fills l m.memory.next := ⟨members, full, provides⟩
    -- The object that holds them all has it under the module's name.
    have held := (holds.keep (kept m.memory.next) holds.has.ne_next).keep keeps holds.has.ne_next
    obtain ⟨j, put, holding, written⟩ := assign_holds call outside
      (m := { m with memory := l }) (rooted.keep_holding empty keeps) held new
      (fun same => others (same ▸ List.mem_cons_self)) m.memory.next
    obtain ⟨n, entries, ran, further, all, given⟩ := ih (m := { m with memory := j })
      (fun module member => sound module (List.mem_cons_of_mem _ member))
      ((rooted.keep_holding empty keeps).keep_holding held written) holding
      (by simpa using distinct) (fun member => others (List.mem_cons_of_mem _ member))
    have fills := (fills.keep written held.plain holds.has.ne_next.symm).keep further holding.plain holds.has.ne_next.symm
    refine ⟨n, (.ofString module.name, m.memory.next) :: entries, ?_, ?_, by simpa using all, .cons ⟨rfl, fills⟩ given⟩
    · have populated : ((module.registrant call).populate m.memory.next).run outside { m with memory := k } =
          (.ok none, { m with memory := l }) := by
        rw [registrant, bind_ok filled, apt.fault]
        rfl
      rw [List.map_cons, Registrant.fillAll, bind_ok made, bind_ok populated]
      exact (bind_ok put _).trans ran
    · exact (((kept holder).trans_new m.memory.next_not_has keeps).trans written).trans further

end Module
end ScriptedScene
