import ScriptedScene.Proofs.Guest.Lineage
import ScriptedScene.Proofs.Host.Creation

/-! What comes of it when several fill objects for guests. Either all of them do, each once and each an object of its own,
and one object that holds the others is put under a name; or one fails, the rest is left alone, and no object that there
was before has changed. -/
namespace ScriptedScene
open Guest Run

namespace Guest

namespace Object
variable {o : Object} {key : Units} {p : Property} {r : Ref} {entries : List (Units × Property)}
  {given : List (Units × Ref)}

theorem putEntry_keys : (putEntry key p entries).map Prod.fst =
    if key ∈ entries.map Prod.fst then entries.map Prod.fst else entries.map Prod.fst ++ [key] := by
  induction entries with
  | nil => rfl
  | cons entry rest ih =>
    obtain ⟨k, q⟩ := entry
    rw [putEntry]
    by_cases same : k = key
    · simp [same]
    · rw [if_neg same, List.map_cons, ih, List.map_cons]
      by_cases old : key ∈ rest.map Prod.fst <;> simp [old, Ne.symm same]

theorem putEntry_distinct (distinct : (entries.map Prod.fst).Nodup) : ((putEntry key p entries).map Prod.fst).Nodup := by
  rw [putEntry_keys]
  split
  · exact distinct
  · next new =>
    refine List.nodup_append.mpr ⟨distinct, by simp, ?_⟩
    rintro k old _ last rfl
    exact new (List.mem_singleton.mp last ▸ old)

/-- A plain object with one property for each of the given keys, which holds what was given last under the key. -/
structure Gathers (o : Object) (given : List (Units × Ref)) : Prop where
  plain : o.role = .plain
  prototype : o.prototype = some (Intrinsic.ref .objectPrototype)
  distinct : (o.properties.map Prod.fst).Nodup
  lookup : ∀ key, o.properties.lookup key = (given.reverse.lookup key).map fun r => .plain (.object r)

namespace Gathers

theorem nothing : (Object.holding []).Gathers [] := ⟨rfl, rfl, List.nodup_nil, fun _ => rfl⟩

theorem put (gathers : o.Gathers given) (key : Units) (r : Ref) :
    (o.put key (.plain (.object r))).Gathers (given ++ [(key, r)]) where
  plain := put_role gathers.plain
  prototype := gathers.prototype
  distinct := putEntry_distinct gathers.distinct
  lookup other := by
    rw [List.reverse_append]
    change (putEntry key _ o.properties).lookup other = (((key, r) :: given.reverse).lookup other).map _
    rw [lookup_putEntry, gathers.lookup, List.lookup_cons]
    by_cases same : other = key
    · simp [same]
    · simp [same, beq_eq_false_iff_ne.mpr same]

theorem writable (gathers : o.Gathers given) : o.Writable (some (Intrinsic.ref .objectPrototype)) [] where
  plain := gathers.plain
  prototype := gathers.prototype
  opens key p found _ := by
    rw [gathers.lookup, Option.map_eq_some_iff] at found
    obtain ⟨r, -, rfl⟩ := found
    exact ⟨_, rfl⟩

theorem assigned (gathers : o.Gathers given) (key : Units) (r : Ref) :
    o.assigned key (.object r) = .plain (.object r) := by
  rw [Object.assigned, own?_of_plain gathers.plain, gathers.lookup]
  cases given.reverse.lookup key <;> rfl

end Gathers

end Object

namespace Machine

/-- A machine with one object more, that nothing tells of. -/
def opened (m : Machine) : Machine := { m with memory := m.memory.added (.holding []) }

/-- A machine with an object put under a key of another. -/
def entered (m : Machine) (holder : Ref) (key : Units) (target : Ref) : Machine :=
  { m with memory := m.memory.revised holder (·.put key (.plain (.object target))) }

end Machine

theorem Memory.Rooted.opened {m : Machine} (rooted : m.memory.Rooted) : m.opened.memory.Rooted := by
  have nothing : (m.memory.object m.memory.next).role = .plain := by simp [Memory.object, Memory.next, default]
  exact rooted.keep (.added _ m.memory.next _) nothing rooted.has.ne_next

end Guest

namespace Registrant

/-- Who fills an object does nothing to others, where plain objects inherit what they always do. -/
def Confined (r : Registrant) (outside : Outside) : Prop :=
  ∀ (m : Machine) (target : Ref), m.memory.Rooted → m.memory.Holds target [] →
    m.memory.Keeps target ((r.populate target).run outside m).2.memory

/-- An object that was filled, and the machine before and after. -/
structure Filling where
  registrant : Registrant
  target : Ref
  found : Machine
  left : Machine

/-- The key and the object of a filling. -/
def Filling.entry (f : Filling) : Units × Ref := (.ofString f.registrant.name, f.target)

/-- Objects are filled one after the other, each a new one, and put under their names. -/
inductive Fillings (outside : Outside) (holder : Ref) : Machine → List Filling → Machine → Prop where
  | done (m : Machine) : Fillings outside holder m [] m
  | next {m n left : Machine} {r : Registrant} {rest : List Filling}
      (filled : (r.populate m.memory.next).run outside m.opened = (.ok none, left))
      (further : Fillings outside holder (left.entered holder (.ofString r.name) m.memory.next) rest n) :
      Fillings outside holder m (⟨r, m.memory.next, m.opened, left⟩ :: rest) n

/-- What a failed filling comes to for who asked for all of them. -/
def failure : Except Value (Option EngineFault) → Option (Except Value (Except EngineFault Ref))
  | .ok none => none
  | .ok (some fault) => some (.ok (.error fault))
  | .error e => some (.error e)

/-- Some objects are filled and held by another, and those of an earlier memory are as they were. -/
structure Underway (start : Memory) (holder : Ref) (m : Memory) (given : List (Units × Ref)) : Prop where
  new : ¬ start.Has holder
  rooted : m.Rooted
  has : m.Has holder
  gathers : (m.object holder).Gathers given
  kept : start.Keeps holder m

section
variable {call : Call} {outside : Outside} {start : Memory} {m n k left : Machine} {holder target : Ref} {r : Registrant}
  {all : List Registrant} {given : List (Units × Ref)} {fillings : List Filling}

namespace Underway

theorem next_new (way : Underway start holder m.memory given) : ¬ start.Has m.memory.next :=
  Nat.not_lt.mpr way.kept.size

theorem same (way : Underway start holder m.memory given) (r : Ref) (old : start.Has r) :
    m.memory.object r = start.object r :=
  way.kept.object r old fun same => way.new (same ▸ old)

theorem opened (way : Underway start holder m.memory given) : Underway start holder m.opened.memory given := by
  have kept : m.memory.Keeps m.memory.next m.opened.memory := .added _ _ _
  have same := kept.object holder way.has way.has.ne_next
  exact ⟨way.new, way.rooted.opened, kept.has way.has, same ▸ way.gathers, way.kept.trans (.added _ _ _)⟩

theorem opened_holds (m : Machine) : m.opened.memory.Holds m.memory.next [] :=
  ⟨m.memory.added_has_next _, m.memory.added_object_next _⟩

/-- A filling changes nothing but the object that is filled. -/
theorem filled (way : Underway start holder m.memory given)
    (kept : m.opened.memory.Keeps m.memory.next left.memory) : Underway start holder left.memory given := by
  have opened := way.opened
  have same := kept.object holder opened.has way.has.ne_next
  exact ⟨way.new, opened.rooted.keep_holding (opened_holds m) kept, kept.has opened.has, same ▸ opened.gathers,
    opened.kept.trans_new way.next_new kept⟩

theorem entered (way : Underway start holder m.memory given) (key : Units) (target : Ref) :
    Underway start holder (m.entered holder key target).memory (given ++ [(key, target)]) := by
  have kept : m.memory.Keeps holder (m.entered holder key target).memory := .revised _ _ _
  refine ⟨way.new, way.rooted.keep kept way.gathers.plain (way.rooted.ne way.gathers.prototype), kept.has way.has, ?_,
    way.kept.trans kept⟩
  rw [show (m.entered holder key target).memory.object holder = _ from Memory.revised_object way.has]
  exact way.gathers.put key target

/-- The object that holds the others takes one more under any key but the one for prototypes. -/
theorem assign (way : Underway start holder m.memory given) (call : Call) (outside : Outside) {key : Units}
    (other : key ≠ prototypeAccess) (target : Ref) :
    (Run.assign call holder key (.object target)).run outside m = (.ok (), m.entered holder key target) := by
  have opens := way.rooted.opens way.gathers.writable (List.not_mem_nil) other
  have put := setOn_of_open call outside (v := .object target) true way.gathers.plain opens
  rwa [way.gathers.assigned] at put

end Underway

theorem name_ne (named : r.name ≠ "__proto__") : Units.ofString r.name ≠ prototypeAccess :=
  fun same => named (Units.ofString_inj.mp same)

theorem Confined.kept (confined : r.Confined outside) (way : Underway start holder m.memory given)
    {outcome : Except Value (Option EngineFault)} (ran : (r.populate m.memory.next).run outside m.opened = (outcome, left)) :
    m.opened.memory.Keeps m.memory.next left.memory := by
  have kept := confined m.opened m.memory.next way.opened.rooted (Underway.opened_holds m)
  rwa [ran] at kept

/-- Objects are filled up to the first failure. -/
theorem fillAll_settles (call : Call) (way : Underway start holder m.memory given)
    (named : ∀ r ∈ all, r.name ≠ "__proto__") (confined : ∀ r ∈ all, r.Confined outside) :
    (∃ fillings n, fillings.map Filling.registrant = all ∧ Fillings outside holder m fillings n ∧
      (fillAll call holder all).run outside m = (.ok none, n)) ∨
    ∃ before r after fillings k outcome answer n,
      all = before ++ r :: after ∧ fillings.map Filling.registrant = before ∧ Fillings outside holder m fillings k ∧
      (r.populate k.memory.next).run outside k.opened = (outcome, n) ∧ failure outcome = some answer ∧
      (fillAll call holder all).run outside m = (outcome, n) := by
  induction all generalizing m given with
  | nil => exact .inl ⟨[], m, rfl, .done m, rfl⟩
  | cons r rest ih =>
    have made : (newObject []).run outside m = (.ok m.memory.next, m.opened) := rfl
    rcases ran : (r.populate m.memory.next).run outside m.opened with ⟨_ | _ | fault, left⟩
    · refine .inr ⟨[], r, rest, [], m, _, _, left, rfl, rfl, .done m, ran, rfl, ?_⟩
      rw [fillAll, bind_ok made, bind_error ran]
    · have kept := (confined r List.mem_cons_self).kept way ran
      have put := (way.filled kept).assign call outside (name_ne (named r List.mem_cons_self)) m.memory.next
      have step : (fillAll call holder (r :: rest)).run outside m =
          (fillAll call holder rest).run outside (left.entered holder (.ofString r.name) m.memory.next) := by
        rw [fillAll, bind_ok made, bind_ok ran]
        exact bind_ok put _
      rw [step]
      rcases ih ((way.filled kept).entered (.ofString r.name) m.memory.next)
          (fun r member => named r (List.mem_cons_of_mem _ member))
          (fun r member => confined r (List.mem_cons_of_mem _ member)) with
        ⟨fillings, n, registrants, further, done⟩ |
        ⟨before, s, after, fillings, k, outcome, answer, n, split, registrants, further, failed, answered, stopped⟩
      · exact .inl ⟨⟨r, _, _, left⟩ :: fillings, n, congrArg (r :: ·) registrants, .next ran further, done⟩
      · exact .inr ⟨r :: before, s, after, ⟨r, _, _, left⟩ :: fillings, k, outcome, answer, n, congrArg (r :: ·) split,
          congrArg (r :: ·) registrants, .next ran further, failed, answered, stopped⟩
    · refine .inr ⟨[], r, rest, [], m, _, _, left, rfl, rfl, .done m, ran, rfl, ?_⟩
      rw [fillAll, bind_ok made, bind_ok ran]
      rfl

theorem register_of_failed (made : (newObject []).run outside m = (.ok holder, k)) {globals : Ref} {name : Units}
    {outcome : Except Value (Option EngineFault)} {answer : Except Value (Except EngineFault Ref)}
    (failed : (fillAll call holder all).run outside k = (outcome, n)) (answered : failure outcome = some answer) :
    (register call globals name all).run outside m = (answer, n) := by
  rw [register, bind_ok made]
  rcases outcome with e | _ | fault
  · obtain rfl := Option.some.inj answered
    exact bind_error failed _
  · cases answered
  · obtain rfl := Option.some.inj answered
    exact bind_ok failed _

theorem Fillings.underway (course : Fillings outside holder m fillings n) (way : Underway start holder m.memory given)
    (confined : ∀ f ∈ fillings, f.registrant.Confined outside) :
    Underway start holder n.memory (given ++ fillings.map Filling.entry) := by
  induction course generalizing given with
  | done m => simpa using way
  | next filled further ih =>
    have kept := (confined _ List.mem_cons_self).kept way filled
    simpa [Filling.entry] using ih ((way.filled kept).entered _ _) fun f member => confined f (List.mem_cons_of_mem _ member)

/-- A filling is given an empty object that there was not before, and finds all others of before as they were. -/
structure Filling.Fresh (start : Memory) (holder : Ref) (f : Filling) : Prop where
  new : ¬ start.Has f.target
  apart : f.target ≠ holder
  empty : f.found.memory.Holds f.target []
  kept : ∀ r, start.Has r → f.found.memory.object r = start.object r

theorem Fillings.fresh (course : Fillings outside holder m fillings n) (way : Underway start holder m.memory given)
    (confined : ∀ f ∈ fillings, f.registrant.Confined outside) : ∀ f ∈ fillings, f.Fresh start holder := by
  induction course generalizing given with
  | done m => exact nofun
  | @next m n left r rest filled further ih =>
    have kept := (confined _ List.mem_cons_self).kept way filled
    intro f member
    rcases List.mem_cons.mp member with rfl | member
    · exact ⟨way.next_new, way.has.ne_next.symm, Underway.opened_holds m, way.opened.same⟩
    · exact ih ((way.filled kept).entered _ _) (fun f member => confined f (List.mem_cons_of_mem _ member)) f member

/-- Each object has its place after those that there are when it is made. -/
theorem Fillings.ascending (course : Fillings outside holder m fillings n) (way : Underway start holder m.memory given)
    (confined : ∀ f ∈ fillings, f.registrant.Confined outside) :
    (fillings.map (·.target.index)).Pairwise (· < ·) ∧ ∀ f ∈ fillings, m.memory.heap.size ≤ f.target.index := by
  induction course generalizing given with
  | done m => exact ⟨.nil, nofun⟩
  | @next m n left r rest filled further ih =>
    have kept := (confined _ List.mem_cons_self).kept way filled
    obtain ⟨ascending, above⟩ := ih ((way.filled kept).entered _ _) fun f member => confined f (List.mem_cons_of_mem _ member)
    have size : m.memory.heap.size < (left.entered holder (.ofString r.name) m.memory.next).memory.heap.size :=
      calc m.memory.heap.size
          < m.opened.memory.heap.size := (Underway.opened_holds m).has
        _ ≤ left.memory.heap.size := kept.size
        _ ≤ _ := (Memory.Keeps.revised _ holder _).size
    refine ⟨List.pairwise_cons.mpr ⟨fun i member => ?_, ascending⟩, fun f member => ?_⟩
    · obtain ⟨f, among, rfl⟩ := List.mem_map.mp member
      exact Nat.lt_of_lt_of_le size (above f among)
    · rcases List.mem_cons.mp member with rfl | member
      · exact Nat.le_refl _
      · exact Nat.le_of_lt (Nat.lt_of_lt_of_le size (above f member))

/-- No object is filled twice. -/
theorem Fillings.distinct (course : Fillings outside holder m fillings n) (way : Underway start holder m.memory given)
    (confined : ∀ f ∈ fillings, f.registrant.Confined outside) : (fillings.map Filling.target).Nodup := by
  have ascending := (course.ascending way confined).1
  rw [List.pairwise_map] at ascending
  refine List.pairwise_map.mpr (ascending.imp fun below same => ?_)
  exact Nat.ne_of_lt below (congrArg Ref.index same)

end

/-- All are filled, each once and each an object of its own; one object holds the last of every name, and there is
nothing else on it. -/
structure Complete (outside : Outside) (m : Machine) (fillings : List Filling) (k : Machine) : Prop where
  course : Fillings outside m.memory.next m.opened fillings k
  fresh : ∀ f ∈ fillings, f.Fresh m.memory m.memory.next
  distinct : (fillings.map Filling.target).Nodup
  gathers : (k.memory.object m.memory.next).Gathers (fillings.map Filling.entry)
  kept : ∀ r, m.memory.Has r → k.memory.object r = m.memory.object r

/-- What becomes of the object that holds the others. It is put under a name where nothing of that name stands in the
way, and a setter may take it. Where it is refused, no object has changed that there was. -/
structure Offered (call : Call) (outside : Outside) (m k : Machine) (globals holder : Ref) (name : Units)
    (result : Except Value (Except EngineFault Ref) × Machine) : Prop where
  free : (∀ p, m.memory.find? globals name = some p → p.Open) →
    ∃ n, result = (.ok (.ok holder), { k with memory := n }) ∧ n.object holder = k.memory.object holder ∧
      m.memory.Written globals name (.object holder) n
  refused : ∀ p, m.memory.find? globals name = some p →
    ((∃ v, p.contents = .data v false) ∨ ∃ getter, p.contents = .accessor getter none) →
    ∃ e n, result = (.error e, { k with memory := n }) ∧ ∀ r, m.memory.Has r → n.object r = m.memory.object r
  taken : ∀ p getter setter, m.memory.find? globals name = some p → p.contents = .accessor getter (some setter) →
    result = (call (.object setter) (.object globals) [.object holder] >>= fun _ => return .ok holder).run outside k

/-- One filling fails after others that did not. It has the last word, and no object has changed that there was. -/
def Stopped (outside : Outside) (m : Machine) (all : List Registrant)
    (result : Except Value (Except EngineFault Ref) × Machine) : Prop :=
  ∃ before r after fillings k outcome answer n,
    all = before ++ r :: after ∧ fillings.map Filling.registrant = before ∧
    Fillings outside m.memory.next m.opened fillings k ∧
    (r.populate k.memory.next).run outside k.opened = (outcome, n) ∧ failure outcome = some answer ∧
    result = (answer, n) ∧ ∀ r, m.memory.Has r → n.memory.object r = m.memory.object r

section
variable {outside : Outside} {m k : Machine} {globals : Ref} {length : Nat} {all : List Registrant} {name : Units}
  {given : List (Units × Ref)}

theorem underway_start (rooted : m.memory.Rooted) : Underway m.memory m.memory.next m.opened.memory [] :=
  ⟨m.memory.next_not_has, rooted.opened, m.memory.added_has_next _,
    (m.memory.added_object_next _).symm ▸ Object.Gathers.nothing, .added _ _ _⟩

theorem throwFault_kept (f : Fault) (outside : Outside) (k : Machine) :
    ∃ e n, (throwFault f : Run Unit).run outside k = (.error e, { k with memory := n }) ∧ ∀ but, k.memory.Keeps but n :=
  ⟨_, _, rfl, fun but => .added _ but _⟩

theorem offered (call : Call) (lineage : m.memory.Lineage globals length) (plain : (m.memory.object globals).role = .plain)
    (way : Underway m.memory m.memory.next k.memory given) :
    Offered call outside m k globals m.memory.next name
      ((assign call globals name (.object m.memory.next) >>= fun _ => return .ok m.memory.next).run outside k) := by
  have found : k.memory.find? globals name = m.memory.find? globals name := lineage.find?_eq way.same way.kept.size
  have global := way.same globals lineage.has
  have plain : (k.memory.object globals).role = .plain := global ▸ plain
  have diverted (p : Property) (here : m.memory.find? globals name = some p) (taken : ¬ p.Open)
      (unshared : ∀ id, p.contents ≠ .shared id) :=
    setOn_of_taken call outside (v := .object m.memory.next) true plain (found.trans here) taken unshared
  constructor
  · intro opens
    have has := way.kept.has lineage.has
    obtain ⟨n, put, written⟩ := setOn_written call outside (v := .object m.memory.next) true has plain (found ▸ opens)
    refine ⟨n, bind_ok put _, written.keeps.object _ way.has lineage.has.ne_next.symm, ?_, written.plain,
      global ▸ written.prototype, written.own, global ▸ written.others⟩
    refine ⟨Nat.le_trans way.kept.size written.keeps.size, fun r old other => ?_⟩
    exact (written.keeps.object r (way.kept.has old) other).trans (way.same r old)
  · intro p here contents
    -- Both what stays and what has no setter are refused with an error, for which an object is made.
    have thrown : ∃ f, (setOn call true globals name (.object m.memory.next)).run outside k =
        (throwFault f : Run Unit).run outside k := by
      rcases contents with ⟨v, contents⟩ | ⟨getter, contents⟩
      · have refused := diverted p here (by simp [Property.Open, contents]) (by simp [contents])
        rw [contents] at refused
        exact ⟨_, refused⟩
      · have refused := diverted p here (by simp [Property.Open, contents]) (by simp [contents])
        rw [contents] at refused
        exact ⟨_, refused⟩
    obtain ⟨f, thrown⟩ := thrown
    obtain ⟨e, n, failed, kept⟩ := throwFault_kept f outside k
    refine ⟨e, n, bind_error (thrown.trans failed) _, fun r old => ?_⟩
    exact ((kept m.memory.next).object r (way.kept.has old) old.ne_next).trans (way.same r old)
  · intro p getter setter here contents
    have handed := diverted p here (by simp [Property.Open, contents]) (by simp [contents])
    rw [contents] at handed
    rcases called : (call (.object setter) (.object globals) [.object m.memory.next]).run outside k with ⟨e | v, n⟩
    · rw [bind_error called]
      exact bind_error (handed.trans (bind_error called _)) _
    · rw [bind_ok called]
      exact bind_ok (handed.trans (bind_ok called _)) _

/-- Either all are filled and what holds them is offered under the name, or the first that fails ends it. -/
theorem register_settles (call : Call) (rooted : m.memory.Rooted) (lineage : m.memory.Lineage globals length)
    (plain : (m.memory.object globals).role = .plain) (named : ∀ r ∈ all, r.name ≠ "__proto__")
    (confined : ∀ r ∈ all, r.Confined outside) :
    (∃ fillings k, fillings.map Filling.registrant = all ∧ Complete outside m fillings k ∧
      Offered call outside m k globals m.memory.next name ((register call globals name all).run outside m)) ∨
    Stopped outside m all ((register call globals name all).run outside m) := by
  have made : (newObject []).run outside m = (.ok m.memory.next, m.opened) := rfl
  have start := underway_start rooted
  rcases fillAll_settles call start named confined with
    ⟨fillings, k, rfl, course, filled⟩ |
    ⟨before, r, after, fillings, k, outcome, answer, n, rfl, rfl, course, failed, answered, stopped⟩
  · have apart : ∀ f ∈ fillings, f.registrant.Confined outside := fun f member => confined _ (List.mem_map_of_mem member)
    have way := course.underway start apart
    rw [List.nil_append] at way
    refine .inl ⟨fillings, k, rfl, ⟨course, course.fresh start apart, course.distinct start apart, way.gathers, way.same⟩, ?_⟩
    rw [register_of_filled made filled]
    exact offered call lineage plain way
  · have apart : ∀ f ∈ fillings, f.registrant.Confined outside :=
      fun f member => confined _ (List.mem_append_left _ (List.mem_map_of_mem member))
    have way := course.underway start apart
    have kept := (confined r (by simp)).kept way failed
    exact .inr ⟨_, r, after, fillings, k, outcome, answer, n, rfl, rfl, course, failed, answered,
      register_of_failed made stopped answered, (way.filled kept).same⟩

end

end Registrant

namespace Module

/-- Functions are put onto an object, under any keys but the one for prototypes, and nothing is done to others. -/
theorem addMembers_keeps (call : Call) (outside : Outside) {m : Machine} {target : Ref}
    {members : List (Units × HostFunction)} (rooted : m.memory.Rooted) (has : m.memory.Has target)
    (writable : (m.memory.object target).Writable (some (Intrinsic.ref .objectPrototype)) [])
    (others : prototypeAccess ∉ members.map Prod.fst) :
    ∃ n, (addMembers call target members).run outside m = (.ok (), { m with memory := n }) ∧ m.memory.Keeps target n := by
  induction members generalizing m with
  | nil => exact ⟨_, rfl, .refl _ _⟩
  | cons member rest ih =>
    obtain ⟨key, f⟩ := member
    rw [List.map_cons, List.mem_cons, not_or] at others
    obtain ⟨k, made, -, kept⟩ := newFunction_callable (.host f) f.name f.arity outside m
    have same := (kept m.memory.next).object target has has.ne_next
    have rooted : k.Rooted := rooted.keep (kept target) writable.plain (rooted.ne writable.prototype)
    rw [← same] at writable
    obtain ⟨l, put, written⟩ := setOn_written call outside (v := .object m.memory.next) (m := { m with memory := k }) true
      ((kept target).has has) writable.plain (rooted.opens writable List.not_mem_nil (Ne.symm others.1))
    obtain ⟨n, rest, keeps⟩ := ih (m := { m with memory := l })
      (rooted.keep written.keeps writable.plain (rooted.ne writable.prototype)) (written.keeps.has ((kept target).has has))
      (written.writable writable) others.2
    refine ⟨n, ?_, ((kept target).trans written.keeps).trans keeps⟩
    rw [addMembers, bind_ok made]
    exact (bind_ok put _).trans rest

/-- A module of functions is filled, and nothing is done to others. It fails with its own fault only. -/
theorem registrant_fills (call : Call) (outside : Outside) {module : Module} {m : Machine} {target : Ref}
    (others : prototypeAccess ∉ module.members.map Prod.fst) (rooted : m.memory.Rooted) (empty : m.memory.Holds target []) :
    ∃ n, ((module.registrant call).populate target).run outside m = (.ok module.fault, { m with memory := n }) ∧
      m.memory.Keeps target n := by
  have gathers : (m.memory.object target).Gathers [] := empty.object.symm ▸ .nothing
  obtain ⟨n, added, keeps⟩ := addMembers_keeps call outside rooted empty.has gathers.writable others
  exact ⟨n, bind_ok added _, keeps⟩

theorem registrant_confined (call : Call) (outside : Outside) {module : Module}
    (others : prototypeAccess ∉ module.members.map Prod.fst) : (module.registrant call).Confined outside := by
  intro m target rooted empty
  obtain ⟨n, filled, keeps⟩ := registrant_fills call outside others rooted empty
  rw [filled]
  exact keeps

end Module

namespace Registrant

theorem realm_new (scene : Store) : (Machine.new scene).memory = Realm.memory := rfl

theorem new_lineage (scene : Store) : (Machine.new scene).memory.Lineage (Intrinsic.ref .global) 2 := by
  rw [realm_new]
  have sound := Realm.sound
  exact .child sound.has sound.writable.prototype (.root sound.rooted.has sound.rooted.writable.prototype)

def flatCall : Call := (Calls.ofDepth 1).call

/-- Two modules of one name. -/
def namesakes : List Registrant :=
  [Module.constants "lamp" [("watts", 40)] none, Module.constants "lamp" [("watts", 60)] none].map
    (·.registrant flatCall)

/-- Both are filled, and the second is what guests find. -/
theorem register_settles_namesakes :
    ∃ fillings k, fillings.map Filling.registrant = namesakes ∧ Complete (.silent .free) (.new .empty) fillings k ∧
      Offered flatCall (.silent .free) (.new .empty) k (Intrinsic.ref .global) (Machine.new .empty).memory.next "WebSG"
        ((register flatCall (Intrinsic.ref .global) "WebSG" namesakes).run (.silent .free) (.new .empty)) := by
  have listed : ∀ r ∈ namesakes, ∃ module : Module, r = module.registrant flatCall ∧ module.name ≠ "__proto__" ∧
      prototypeAccess ∉ module.members.map Prod.fst ∧ module.fault = none := by
    intro r member
    simp only [namesakes, List.map_cons, List.map_nil, List.mem_cons, List.not_mem_nil, or_false] at member
    rcases member with rfl | rfl <;> exact ⟨_, rfl, by decide, by decide, rfl⟩
  have named : ∀ r ∈ namesakes, r.name ≠ "__proto__" := by
    intro r member
    obtain ⟨module, rfl, name, -⟩ := listed r member
    exact name
  have confined : ∀ r ∈ namesakes, r.Confined (.silent .free) := by
    intro r member
    obtain ⟨module, rfl, -, others, -⟩ := listed r member
    exact Module.registrant_confined _ _ others
  have rooted : (Machine.new .empty).memory.Rooted := realm_new .empty ▸ Realm.sound.rooted
  have plain : ((Machine.new .empty).memory.object (Intrinsic.ref .global)).role = .plain :=
    realm_new .empty ▸ Realm.sound.writable.plain
  refine (register_settles flatCall rooted (new_lineage .empty) plain named confined).resolve_right ?_
  rintro ⟨before, r, after, fillings, k, outcome, answer, n, split, rfl, course, ran, answered, -⟩
  have way := course.underway (underway_start rooted) fun f member =>
    confined _ (split ▸ List.mem_append_left _ (List.mem_map_of_mem member))
  obtain ⟨module, rfl, -, others, fault⟩ := listed r (split ▸ by simp)
  obtain ⟨n, filled, -⟩ := Module.registrant_fills flatCall (.silent .free) others way.opened.rooted (Underway.opened_holds k)
  rw [fault] at filled
  obtain ⟨rfl, -⟩ := Prod.mk.inj (ran.symm.trans filled)
  cases answered

/-- The name of a value that stays cannot be had: every module is filled, and what holds them is put nowhere. -/
theorem register_undefined : ∃ k n e left,
    (newObject []).run (.silent .free) (.new .empty) = (.ok (Machine.new .empty).memory.next, k) ∧
    (fillAll flatCall (Machine.new .empty).memory.next (Module.standard.map (·.registrant flatCall))).run (.silent .free) k = (.ok none, n) ∧
    (register flatCall (Intrinsic.ref .global) "undefined" (Module.standard.map (·.registrant flatCall))).run
      (.silent .free) (.new .empty) = (.error e, left) := by
  obtain ⟨k, n, console, light, made, filled, ready⟩ :=
    Module.fillAll_ready flatCall (.silent .free) (realm_new .empty)
  obtain ⟨p, v, own, contents⟩ := Realm.sound.fixed "undefined" (by decide)
  rw [← ready.global] at own
  obtain ⟨e, left, refused⟩ := setOn_of_fixed flatCall (.silent .free) ready.writable.plain own contents
    (.object (Machine.new .empty).memory.next)
  exact ⟨k, n, e, left, made, filled, (register_of_filled made filled).trans (bind_error refused _)⟩

end Registrant
end ScriptedScene
