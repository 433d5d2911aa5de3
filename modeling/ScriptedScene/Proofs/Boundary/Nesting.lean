import Mathlib.Data.List.Induction
import ScriptedScene.Thread

/-! Which calls at the boundary get to the slot. While the host is lent, every call is refused, wherever it comes from and
however calls nest; so the slot is filled once, by a call with no other around it, and the host in it stays. -/
namespace ScriptedScene
open Guest

/-- What a call at the boundary is answered while the host is lent. The source is looked at before the slot is. -/
def Crossing.refusal : Crossing → Reply
  | load _ code => if (code.bind sourceOfBytes?).isNone then .error .invalidSource else .error .busy
  | install _ _ _ _ | update _ _ | withHost _ => .error .busy

/-- A host after some things that were done with it. -/
inductive Host.Later (h : Host) : Host → Prop
  | refl : h.Later h
  | performed {k : Host} (later : h.Later k) (hold : Hold) (request : Request) : h.Later (k.perform hold request).2
  | within {k : Host} (later : h.Later k) (hold : Hold) (x : Run Value) : h.Later (k.within hold x).2

theorem Host.Later.trans {h k l : Host} (first : h.Later k) (second : k.Later l) : h.Later l := by
  induction second with
  | refl => exact first
  | performed _ hold request ih => exact ih.performed hold request
  | within _ hold x ih => exact ih.within hold x

namespace Crossed

/-- A call that is made while the host is lent. -/
def Refused (a : Crossed) : Prop := a.found.held ∧ a.left = a.found ∧ a.reply = a.crossing.refusal

/-- A call that asks the host in the slot for something. -/
def Asked (a : Crossed) (hold : Hold) (request : Request) : Prop :=
  match a.found.host with
  | none => a.reply = .error .notInitialized ∧ a.left = a.found
  | some h => a.reply = (h.perform hold request).1 ∧ a.left = ⟨some (h.perform hold request).2, false⟩

/-- A call that is made while the host is not lent. -/
def Served (a : Crossed) : Prop :=
  match a.crossing with
  | .install engine c _ scene =>
    match a.found.host with
    | some _ => a.reply = .error .alreadyInitialized ∧ a.left = a.found
    | none =>
      match Host.create engine c scene with
      | .ok h => a.reply = .ok () ∧ a.left = ⟨some h, false⟩
      | .error fault => a.reply = .error fault ∧ a.left = a.found
  | .load hold code =>
    match code.bind sourceOfBytes? with
    | none => a.reply = .error .invalidSource ∧ a.left = a.found
    | some source => a.Asked hold (.evaluate source)
  | .update hold delta => a.Asked hold (.tick delta)
  | .withHost _ =>
    match a.found.host with
    | none => a.reply = .error .notInitialized ∧ a.left = a.found
    | some h => ∃ k, h.Later k ∧ a.left = ⟨some k, false⟩

/-- A call is refused if it is made inside of another one, and else it is served. -/
def Right (a : Crossed) : Prop := if a.standing = 0 then a.found.held = false ∧ a.Served else a.Refused

/-- The host in the slot stays there; only a call with no other around it puts one there, if one can be made. -/
def Fills (a : Crossed) : Prop :=
  match a.found.host with
  | some h => ∃ k, h.Later k ∧ a.left.host = some k
  | none =>
    a.left.host = none ∨
      a.standing = 0 ∧ ∃ engine c sink scene h, a.crossing = .install engine c sink scene ∧
        Host.create engine c scene = .ok h ∧ a.reply = .ok () ∧ a.left.host = some h

/-- A call comes to what its slot makes of it. -/
def Runs (a : Crossed) : Prop :=
  match a.crossing with
  | .install engine c _ scene => a.found.install engine c scene = (a.reply, a.left)
  | .load hold code => a.found.load hold code = (a.reply, a.left)
  | .update hold delta => a.found.update hold delta = (a.reply, a.left)
  | .withHost _ => True

variable {a : Crossed}

theorem Asked.fills {hold : Hold} {request : Request} (asked : a.Asked hold request) : a.Fills := by
  unfold Asked at asked
  unfold Fills
  cases host : a.found.host with
  | none =>
    rw [host] at asked
    exact .inl (by rw [asked.2, host])
  | some h =>
    rw [host] at asked
    exact ⟨_, Host.Later.refl.performed hold request, by rw [asked.2]⟩

theorem fills_of_left (same : a.left = a.found) : a.Fills := by
  unfold Fills
  cases host : a.found.host with
  | none => exact .inl (by rw [same, host])
  | some h => exact ⟨h, .refl, by rw [same, host]⟩

theorem Served.fills (served : a.Served) (outermost : a.standing = 0) : a.Fills := by
  obtain ⟨standing, ⟨host, held⟩, crossing, reply, left⟩ := a
  cases crossing with
  | install engine c sink scene =>
    cases host with
    | some h => exact fills_of_left served.2
    | none =>
      cases made : Host.create engine c scene with
      | error fault =>
        simp only [Served, made] at served
        exact fills_of_left served.2
      | ok h =>
        simp only [Served, made] at served
        exact .inr ⟨outermost, engine, c, sink, scene, h, rfl, made, served.1, by rw [served.2]⟩
  | load hold code =>
    cases source : code.bind sourceOfBytes? with
    | none =>
      simp only [Served, source] at served
      exact fills_of_left served.2
    | some source' =>
      simp only [Served, source] at served
      exact served.fills
  | update hold delta => exact Asked.fills served
  | withHost use =>
    cases host with
    | none => exact fills_of_left served.2
    | some h =>
      obtain ⟨k, later, same⟩ := served
      exact ⟨k, later, by rw [same]⟩

theorem Right.fills (right : a.Right) : a.Fills := by
  unfold Right at right
  split at right
  · exact right.2.fills ‹_›
  · exact fills_of_left right.2.1

theorem Refused.runs (refused : a.Refused) : a.Runs := by
  obtain ⟨standing, ⟨host, held⟩, crossing, reply, left⟩ := a
  obtain ⟨lent, same, answer⟩ := refused
  obtain rfl : held = true := lent
  obtain rfl : left = ⟨host, true⟩ := same
  obtain rfl : reply = crossing.refusal := answer
  cases crossing with
  | install engine c sink scene => rfl
  | load hold code =>
    cases source : code.bind sourceOfBytes? with
    | none => simp [Runs, Slot.load, Crossing.refusal, source]
    | some source' => simp [Runs, Slot.load, Slot.loadSource, Slot.withHost, Crossing.refusal, source]
  | update hold delta => rfl
  | withHost use => trivial

theorem Asked.withHost {hold : Hold} {request : Request} (asked : a.Asked hold request) (free : a.found.held = false) :
    a.found.withHost (·.perform hold request) = (a.reply, a.left) := by
  unfold Asked at asked
  unfold Slot.withHost
  cases host : a.found.host with
  | none =>
    rw [host] at asked
    simp [free, asked.1, asked.2]
  | some h =>
    rw [host] at asked
    simp [free, asked.1, asked.2]

theorem Served.runs (served : a.Served) (free : a.found.held = false) : a.Runs := by
  obtain ⟨standing, found, crossing, reply, left⟩ := a
  replace free : found.held = false := free
  cases crossing with
  | install engine c sink scene =>
    unfold Served at served
    show found.install engine c scene = (reply, left)
    cases host : found.host with
    | some h =>
      simp only [host] at served
      simp [Slot.install, free, host, served.1, served.2]
    | none =>
      cases made : Host.create engine c scene with
      | error fault =>
        simp only [host, made] at served
        simp [Slot.install, free, host, made, served.1, served.2]
      | ok h =>
        simp only [host, made] at served
        simp [Slot.install, free, host, made, served.1, served.2]
  | load hold code =>
    unfold Served at served
    show found.load hold code = (reply, left)
    unfold Slot.load
    cases source : code.bind sourceOfBytes? with
    | none =>
      simp only [source] at served
      simp only [served.1, served.2]
    | some source' =>
      simp only [source] at served
      exact served.withHost free
  | update hold delta => exact Asked.withHost served free
  | withHost use => trivial

theorem Right.runs (right : a.Right) : a.Runs := by
  unfold Right at right
  split at right
  · exact right.2.runs right.1
  · exact Refused.runs right

end Crossed

namespace Thread
variable {t : Thread}

/-- A thread whose host is lent, after some calls at the boundary: nothing but the record of them is new, and they were
refused. -/
def Kept (standing : Nat) (before after : Thread) : Prop :=
  ∃ nested, after = { before with answered := before.answered ++ nested } ∧
    ∀ a ∈ nested, a.standing = standing ∧ a.Refused

namespace Kept
variable {standing : Nat} {a b c : Thread}

theorem refl (standing : Nat) (t : Thread) : Kept standing t t := ⟨[], by simp, by simp⟩

theorem trans (h : Kept standing a b) (k : Kept standing b c) : Kept standing a c := by
  obtain ⟨first, rfl, refused⟩ := h
  obtain ⟨second, rfl, others⟩ := k
  refine ⟨first ++ second, by simp, fun call member => ?_⟩
  rcases List.mem_append.mp member with here | there
  · exact refused call here
  · exact others call there

theorem held (h : Kept standing a b) : b.slot.held = a.slot.held := by
  obtain ⟨_, rfl, _⟩ := h
  rfl

end Kept

theorem lend_empty (free : t.slot.held = false) (empty : t.slot.host = none) (use : Host → Thread → Reply × Host × Thread) :
    t.lend use = (.error .notInitialized, t) := by
  simp [lend, Slot.withHost, free, empty]

theorem lend_free (free : t.slot.held = false) {h k : Host} (host : t.slot.host = some h)
    {use : Host → Thread → Reply × Host × Thread} {reply : Reply} {u : Thread}
    (used : use h { t with slot := { t.slot with held := true } } = (reply, k, u)) :
    t.lend use = (reply, { u with slot := ⟨some k, false⟩ }) := by
  obtain ⟨⟨_, _⟩, sink, answered⟩ := t
  cases free
  cases host
  simp only [lend, Slot.withHost, Bool.false_eq_true, if_false, used]

theorem lend_held (held : t.slot.held) (use : Host → Thread → Reply × Host × Thread) :
    t.lend use = (.error .busy, t) := by
  simp only [lend, Slot.withHost, held, if_true]

end Thread

/-- Ways to run errands that leave a thread alone whose host is lent. -/
def Keeps (run : Nat → Errand → Thread → Thread) : Prop :=
  ∀ standing e (t : Thread), t.slot.held → Thread.Kept standing t (run standing e t)

section
variable {run : Nat → Errand → Thread → Thread} {t : Thread}

/-- While the host is lent, a call is refused, whatever it is and whatever it brings with it. -/
theorem Crossing.perform_held (held : t.slot.held) (standing : Nat) (c : Crossing) :
    c.perform run standing t = (c.refusal, t.note standing t.slot c c.refusal) := by
  cases c with
  | install engine c sink scene => simp only [perform, Slot.install, held, if_true, refusal]
  | load hold code =>
    cases source : code.bind sourceOfBytes? with
    | none => simp [perform, refusal, source]
    | some source' => simp [perform, refusal, source, Thread.lend_held held]
  | update hold delta => simp only [perform, Thread.lend_held held, refusal]
  | withHost use => simp only [perform, Thread.lend_held held, refusal]

theorem Thread.note_kept (held : t.slot.held) (standing : Nat) (c : Crossing) :
    Kept standing t (t.note standing t.slot c c.refusal) :=
  ⟨[⟨standing, t.slot, c, c.refusal, t.slot⟩], rfl, by simp [Crossed.Refused, held]⟩

theorem Errand.perform_kept : ∀ (e : Errand) {t : Thread}, t.slot.held → ∀ standing,
    Thread.Kept standing t (e.perform run standing t)
  | .done, t, _, standing => .refl standing t
  | .cross c next, t, held, standing => by
    have noted := Thread.note_kept held standing c
    simp only [Errand.perform, Crossing.perform_held held]
    exact noted.trans ((next c.refusal).perform_kept (noted.held.trans held) standing)

theorem Errand.runAt_keeps (depth : Nat) : Keeps (runAt depth) := by
  intro standing e t held
  cases depth with
  | zero => exact .refl standing t
  | succ depth => exact e.perform_kept held standing

theorem Thread.heed_kept (keeps : Keeps run) (held : t.slot.held) (standing : Nat) (before after : Host) :
    Kept standing t (t.heed (run standing) before after) := by
  unfold heed
  generalize List.range' (before.log.size + 1) (after.log.size - before.log.size) = places
  induction places generalizing t with
  | nil => exact .refl standing t
  | cons n rest ih =>
    have first := keeps standing (t.sink (after.log.records.toList.take n)) t held
    exact first.trans (ih (first.held.trans held))

theorem Thread.ask_kept (keeps : Keeps run) (held : t.slot.held) (standing : Nat) (h : Host) (hold : Hold)
    (request : Request) :
    ∃ u, Kept standing t u ∧
      t.ask (run standing) h hold request = ((h.perform hold request).1, (h.perform hold request).2, u) :=
  ⟨_, heed_kept keeps held standing h (h.perform hold request).2, rfl⟩

/-- Whoever is lent the host hands the same host back, however it was used. -/
theorem Use.perform_kept (keeps : Keeps run) : ∀ (use : Use) (h : Host) {t : Thread}, t.slot.held → ∀ standing,
    ∃ reply k u, use.perform run standing h t = (reply, k, u) ∧ h.Later k ∧ Thread.Kept standing t u
  | .done reply, h, t, _, standing => ⟨reply, h, t, rfl, .refl, .refl standing t⟩
  | .call hold request next, h, t, held, standing => by
    obtain ⟨u, kept, asked⟩ := Thread.ask_kept keeps held standing h hold request
    simp only [Use.perform, asked]
    obtain ⟨reply, k, v, used, later, rest⟩ := (next _).perform_kept keeps (h.perform hold request).2 (kept.held.trans held)
      standing
    exact ⟨reply, k, v, used, (Host.Later.refl.performed hold request).trans later, kept.trans rest⟩
  | .within hold x next, h, t, held, standing => by
    have kept := Thread.heed_kept keeps held standing h (h.within hold x).2
    obtain ⟨reply, k, v, used, later, rest⟩ := (next (h.within hold x).1).perform_kept keeps (h.within hold x).2
      (kept.held.trans held) standing
    exact ⟨reply, k, v, used, (Host.Later.refl.within hold x).trans later, kept.trans rest⟩
  | .cross c next, h, t, held, standing => by
    -- `c` is refused before it gets to lend the host any further, so what it brings is not looked at.
    have noted := Thread.note_kept held standing c
    simp only [Use.perform, Crossing.perform_held held]
    obtain ⟨reply, k, v, used, later, rest⟩ := (next c.refusal).perform_kept keeps h (noted.held.trans held) standing
    exact ⟨reply, k, v, used, later, noted.trans rest⟩

/-- A thread after a call with no other around it: the calls that were made inside of it were refused and are on record
before it, and it was served. -/
def Thread.Answers (t : Thread) (c : Crossing) (reply : Reply) (u : Thread) : Prop :=
  u.slot.held = false ∧ Crossed.Served ⟨0, t.slot, c, reply, u.slot⟩ ∧
    ∃ nested, u.answered = t.answered ++ nested ++ [⟨0, t.slot, c, reply, u.slot⟩] ∧
      ∀ a ∈ nested, a.standing = 1 ∧ a.Refused

/-- A call that lends nobody the host. -/
theorem Thread.note_answers {c : Crossing} {reply : Reply} {slot : Slot} (sink : List LogRecord → Errand)
    (free : slot.held = false) (served : Crossed.Served ⟨0, t.slot, c, reply, slot⟩) :
    t.Answers c reply ({ t with slot, sink }.note 0 t.slot c reply) :=
  ⟨free, served, [], by simp [note], by simp⟩

/-- A call is answered as it should be if it comes down to lending the host, and whoever is lent the host leaves the rest
of the thread alone. -/
theorem Thread.lend_answers (free : t.slot.held = false) (c : Crossing) {use : Host → Thread → Reply × Host × Thread}
    (used : ∀ h, t.slot.host = some h → ∃ reply k u, use h { t with slot := { t.slot with held := true } } = (reply, k, u) ∧
      Kept 1 { t with slot := { t.slot with held := true } } u ∧
      Crossed.Served ⟨0, t.slot, c, reply, ⟨some k, false⟩⟩)
    (empty : t.slot.host = none → Crossed.Served ⟨0, t.slot, c, .error .notInitialized, t.slot⟩) :
    t.Answers c (t.lend use).1 ((t.lend use).2.note 0 t.slot c (t.lend use).1) := by
  cases host : t.slot.host with
  | none =>
    rw [lend_empty free host]
    exact ⟨free, empty host, [], by simp [note], by simp⟩
  | some h =>
    obtain ⟨reply, k, _, used, ⟨nested, rfl, refused⟩, served⟩ := used h host
    rw [lend_free free host used]
    exact ⟨rfl, served, nested, rfl, refused⟩

theorem Thread.ask_answers (keeps : Keeps run) (free : t.slot.held = false) {c : Crossing} {hold : Hold} {request : Request}
    (served : ∀ reply left, Crossed.Asked ⟨0, t.slot, c, reply, left⟩ hold request →
      Crossed.Served ⟨0, t.slot, c, reply, left⟩) :
    t.Answers c (t.lend fun h u => u.ask (run 1) h hold request).1
      ((t.lend fun h u => u.ask (run 1) h hold request).2.note 0 t.slot c
        (t.lend fun h u => u.ask (run 1) h hold request).1) := by
  refine lend_answers free c (fun h host => ?_) (fun host => served _ _ (by simp [Crossed.Asked, host]))
  obtain ⟨u, kept, asked⟩ := ask_kept keeps (t := { t with slot := { t.slot with held := true } }) rfl 1 h hold request
  exact ⟨_, _, u, asked, kept, served _ _ (by simp [Crossed.Asked, host])⟩

/-- A call with no other around it is served, and those that are made inside of it are refused. -/
theorem Crossing.perform_free (keeps : Keeps run) (free : t.slot.held = false) (c : Crossing) :
    t.Answers c (c.perform run 0 t).1 (c.perform run 0 t).2 := by
  cases c with
  | install engine config sink scene =>
    cases host : t.slot.host with
    | some h =>
      simp only [perform, Slot.install, free, host, Bool.false_eq_true, if_false]
      exact Thread.note_answers t.sink free (by simp [Crossed.Served, host])
    | none =>
      cases made : Host.create engine config scene with
      | error fault =>
        simp only [perform, Slot.install, free, host, made, Bool.false_eq_true, if_false]
        exact Thread.note_answers t.sink free (by simp [Crossed.Served, host, made])
      | ok h =>
        simp only [perform, Slot.install, free, host, made, Bool.false_eq_true, if_false]
        exact Thread.note_answers sink rfl (by simp [Crossed.Served, host, made])
  | load hold code =>
    cases source : code.bind sourceOfBytes? with
    | none =>
      simp only [perform, source]
      exact Thread.note_answers t.sink free (by simp [Crossed.Served, source])
    | some source' =>
      simp only [perform, source]
      exact Thread.ask_answers keeps free fun _ _ asked => by simpa only [Crossed.Served, source] using asked
  | update hold delta => exact Thread.ask_answers (c := .update hold delta) keeps free fun _ _ asked => asked
  | withHost use =>
    refine Thread.lend_answers free (.withHost use) (fun h host => ?_) (fun host => by simp [Crossed.Served, host])
    obtain ⟨reply, k, u, used, later, kept⟩ :=
      use.perform_kept keeps h (t := { t with slot := { t.slot with held := true } }) rfl 1
    exact ⟨reply, k, u, used, kept, by simpa [Crossed.Served, host] using later⟩

end

namespace Thread

theorem after_snoc (t : Thread) (depth : Nat) (calls : List Crossing) (c : Crossing) :
    t.after depth (calls ++ [c]) = (c.perform (Errand.runAt depth) 0 (t.after depth calls)).2 := by
  simp [after]

theorem new_after_right (depth : Nat) (calls : List Crossing) :
    (new.after depth calls).slot.held = false ∧ ∀ a ∈ (new.after depth calls).answered, a.Right := by
  induction calls using List.reverseRecOn with
  | nil => exact ⟨rfl, by simp [after, new]⟩
  | append_singleton calls c ih =>
    obtain ⟨free, right⟩ := ih
    rw [after_snoc]
    obtain ⟨released, served, nested, answered, refused⟩ := c.perform_free (Errand.runAt_keeps depth) free
    refine ⟨released, fun a member => ?_⟩
    -- On record are the calls before `c`, those inside of it, and `c`.
    rw [answered, List.append_assoc, List.mem_append, List.mem_append, List.mem_singleton] at member
    rcases member with before | inside | rfl
    · exact right a before
    · simpa [Crossed.Right, (refused a inside).1] using (refused a inside).2
    · exact ⟨free, served⟩

/-- The boundary, for whatever calls are made one after the other, whatever is done by those that are lent the host, and
whatever is done at its records. -/
theorem after_answers (depth : Nat) (calls : List Crossing) :
    let t := new.after depth calls
    t.slot.held = false ∧
    (∀ a ∈ t.answered, a.Right ∧ a.Fills ∧ a.Runs) ∧
    (∀ c : Crossing, t.Answers c (c.perform (Errand.runAt depth) 0 t).1 (new.after depth (calls ++ [c]))) ∧
    (∀ reply : Reply, (Host.statusOf reply = 0 ↔ reply = .ok ()) ∧ (Host.statusOf reply < 0 ↔ reply ≠ .ok ())) ∧
    [HostFault.alreadyInitialized, .notInitialized, .invalidSource, .busy].map HostFault.status = [-2, -3, -4, -5] := by
  obtain ⟨free, right⟩ := new_after_right depth calls
  refine ⟨free, fun a member => ⟨right a member, (right a member).fills, (right a member).runs⟩, fun c => ?_,
    fun reply => ?_, rfl⟩
  · rw [after_snoc]
    exact c.perform_free (Errand.runAt_keeps depth) free
  · cases reply with
    | ok => simp [Host.statusOf]
    | error fault => cases fault <;> simp [Host.statusOf, HostFault.status]

/-- A thread that asks for a tick at every record is refused when the guest writes one. -/
example : let again : List LogRecord → Errand := fun _ => .cross (.update .free .one) fun _ => .done
    let warning : Source := .program [.expression (.call (.member (.name "console") "warn") [.text "once"])]
    (new.after 1 [.update .free .one, .install .ample .default again .empty,
      .withHost (.call .free (.evaluate warning) .done), .load .free none]).answered.map
      (fun a => (a.standing, Host.statusOf a.reply)) = [(0, -3), (0, 0), (1, -5), (0, 0), (0, -4)] := by
  decide +kernel

end Thread

end ScriptedScene
