import ScriptedScene.Proofs.Guest.Realm

/-! A call of a console method. Its arguments are asked for their texts one after the other, and guest code may run for
each of them. If all have one, a single record is made, after all that this code has written; if one has none, the call
ends there, with what the guest can catch, and makes no record. -/
namespace ScriptedScene.Guest
open Run

/-- What a completed console call has said. -/
def Event.spoken? : Event → Option (ConsoleMethod × List String)
  | console method texts => some (method, texts)
  | light _ | called _ _ _ _ | replied _ _ | counted _ => none

namespace ConsoleMethod

/-- Texts with a single space between them. -/
def line : List String → String
  | [] => ""
  | [text] => text
  | text :: rest => text ++ " " ++ line rest

theorem intercalate_eq (texts : List String) : " ".intercalate texts = line texts := by
  induction texts with
  | nil => exact String.intercalate_nil
  | cons text rest ih =>
    cases rest with
    | nil => exact String.intercalate_singleton
    | cons next others => exact String.intercalate_cons_cons.trans (congrArg (text ++ " " ++ ·) ih)

/-- The record of a completed call. -/
def spoken (said : ConsoleMethod × List String) : LogRecord := ⟨said.1.level, "script", line said.2⟩

theorem record_eq (method : ConsoleMethod) (texts : List String) : method.record texts = spoken (method, texts) := by
  rw [record, intercalate_eq]
  rfl

theorem records_eq (events : List Event) :
    events.filterMap Event.record? = (events.filterMap Event.spoken?).map spoken := by
  rw [List.map_filterMap]
  congr 1
  funext e
  cases e with
  | console method texts => exact congrArg some (record_eq method texts)
  | light _ => rfl
  | called _ _ _ _ => rfl
  | replied _ _ => rfl
  | counted _ => rfl

/-- Values are asked for their texts, each once and one after the other, and all have a well-formed one. -/
inductive Coerced (call : Call) (outside : Outside) : List Value → List String → Machine → Machine → Prop where
  | nil (m : Machine) : Coerced call outside [] [] m m
  | cons {m k n : Machine} {v : Value} {t : Units} {rest : List Value} {text : String} {texts : List String}
      (asked : (toText call v).run outside m = (.ok t, k)) (spelled : t.decode = .ok text)
      (further : Coerced call outside rest texts k n) : Coerced call outside (v :: rest) (text :: texts) m n

/-- A value is asked for its text, once, and has no well-formed one. What is thrown is what the guest's own code throws,
or an error that tells where the text is broken. -/
inductive Refused (call : Call) (outside : Outside) (v : Value) (m : Machine) : Value → Machine → Prop where
  | threw {n : Machine} {e : Value} (asked : (toText call v).run outside m = (.error e, n)) : Refused call outside v m e n
  | broken {n : Machine} {t : Units} {place : Nat} {e : Value} {memory : Memory}
      (asked : (toText call v).run outside m = (.ok t, n)) (spelled : t.decode = .error place)
      (fault : memory.IsFault e (.conversion (.notUnicode place))) : Refused call outside v m e { n with memory }

section
variable {call : Call} {outside : Outside} {m k n : Machine} {v e : Value} {vs arguments : List Value} {texts : List String}
  {method : ConsoleMethod}

theorem Coerced.follows (coerced : Coerced call outside vs texts m n) : Follows outside.hold m n := by
  induction coerced with
  | nil m => exact .refl outside.hold m
  | @cons m k n v t rest text texts asked spelled further ih =>
    have first := (toText call v).follows outside m
    rw [asked] at first
    exact first.trans ih

theorem Refused.follows (refused : Refused call outside v m e n) : Follows outside.hold m n := by
  have first := (toText call v).follows outside m
  cases refused with
  | threw asked =>
    rw [asked] at first
    exact first
  | @broken n t place e memory asked spelled fault =>
    rw [asked] at first
    exact first.trans (.memory outside.hold n memory)

theorem argumentText_settles (call : Call) (v : Value) (outside : Outside) (m : Machine) :
    (∃ t text n, (toText call v).run outside m = (.ok t, n) ∧ t.decode = .ok text ∧
      (argumentText call v).run outside m = (.ok text, n)) ∨
    ∃ e n, Refused call outside v m e n ∧ (argumentText call v).run outside m = (.error e, n) := by
  rcases asked : (toText call v).run outside m with ⟨e | t, n⟩
  · exact .inr ⟨e, n, .threw asked, bind_error asked _⟩
  · cases spelled : t.decode with
    | ok text =>
      have spelling : (Convert.text (.text t)).run outside n = (.ok (.ok text), n) := by
        simp only [Convert.text, spelled]
        rfl
      exact .inl ⟨t, text, n, rfl, spelled, (bind_ok asked _).trans (bind_ok spelling _)⟩
    | error place =>
      have spelling : (Convert.text (.text t)).run outside n = (.ok (.error (.notUnicode place)), n) := by
        simp only [Convert.text, spelled]
        rfl
      obtain ⟨e, memory, thrown, fault⟩ := throwFault_run (α := String) (.conversion (.notUnicode place)) outside n
      exact .inr ⟨e, _, .broken asked spelled fault, (bind_ok asked _).trans ((bind_ok spelling _).trans thrown)⟩

/-- Either all arguments have a text, or the first that has none ends it. -/
theorem each_settles (call : Call) (outside : Outside) (arguments : List Value) (m : Machine) :
    (∃ texts n, Coerced call outside arguments texts m n ∧
      (each (argumentText call) arguments).run outside m = (.ok texts, n)) ∨
    ∃ before v rest texts k e n, arguments = before ++ v :: rest ∧ Coerced call outside before texts m k ∧
      Refused call outside v k e n ∧ (each (argumentText call) arguments).run outside m = (.error e, n) := by
  induction arguments generalizing m with
  | nil => exact .inl ⟨[], m, .nil m, rfl⟩
  | cons v rest ih =>
    rcases argumentText_settles call v outside m with ⟨t, text, k, asked, spelled, told⟩ | ⟨e, n, refused, told⟩
    · rcases ih k with ⟨texts, n, further, all⟩ | ⟨before, w, others, texts, l, e, n, rfl, further, refused, failed⟩
      · refine .inl ⟨text :: texts, n, .cons asked spelled further, ?_⟩
        rw [each, bind_ok told, bind_ok all]
        rfl
      · refine .inr ⟨v :: before, w, others, text :: texts, l, e, n, rfl, .cons asked spelled further, refused, ?_⟩
        rw [each, bind_ok told, bind_error failed]
    · refine .inr ⟨[], v, rest, [], m, e, n, rfl, .nil m, refused, ?_⟩
      rw [each, bind_error told]

/-- A call that completes: all arguments have a text, and one record is made, after those that were made while they were
asked. Whoever receives it gets to act only then. -/
structure Says (call : Call) (outside : Outside) (method : ConsoleMethod) (arguments : List Value) (m : Machine)
    (texts : List String) (n : Machine) (ran : Except Value Value × Machine) : Prop where
  coerced : Coerced call outside arguments texts m n
  returned : ran = (.ok .undefined, outside.deliver (spoken (method, texts)) (n.mark (.console method texts)))
  written : m.ledger.running → ∃ asked told : List Event, n.trace.toList = m.trace.toList ++ asked ∧
    ran.2.trace.toList = m.trace.toList ++ (asked ++ .console method texts :: told) ∧
    told.filterMap Event.spoken? = [] ∧
    ran.2.ledger.log.records.toList =
      m.ledger.log.records.toList ++ (asked.filterMap Event.spoken?).map spoken ++ [spoken (method, texts)]

/-- A call that fails: the first argument without a text ends it, as that argument has left everything. The arguments
after it are not asked, and there is no record but those that were made while the others were. -/
structure Breaks (call : Call) (outside : Outside) (arguments : List Value) (m : Machine)
    (before : List Value) (v : Value) (rest : List Value) (e : Value) (n : Machine) (ran : Except Value Value × Machine) :
    Prop where
  split : arguments = before ++ v :: rest
  refused : ∃ texts k, Coerced call outside before texts m k ∧ Refused call outside v k e n
  thrown : ran = (.error e, n)
  written : m.ledger.running → ∃ asked : List Event, n.trace.toList = m.trace.toList ++ asked ∧
    n.ledger.log.records.toList = m.ledger.log.records.toList ++ (asked.filterMap Event.spoken?).map spoken

theorem says_of_coerced (coerced : Coerced call outside arguments texts m n) :
    Says call outside method arguments m texts n
      (.ok .undefined, outside.deliver (spoken (method, texts)) (n.mark (.console method texts))) := by
  refine ⟨coerced, rfl, fun running => ?_⟩
  obtain ⟨asked, leads⟩ := coerced.follows
  have still : (n.mark (.console method texts)).ledger.running := leads.running.trans running
  obtain ⟨told, silent, delivered⟩ := outside.deliver_running (spoken (method, texts)) still
  rw [records_eq, List.map_eq_nil_iff] at silent
  refine ⟨asked, told, leads.trace, ?_, silent, ?_⟩
  · rw [delivered.trace]
    simp [Machine.mark, leads.trace]
  · rw [delivered.log still, ← records_eq]
    exact congrArg (· ++ [spoken (method, texts)]) (leads.log running)

theorem breaks_of_refused {before rest : List Value} (coerced : Coerced call outside before texts m k)
    (refused : Refused call outside v k e n) :
    Breaks call outside (before ++ v :: rest) m before v rest e n (.error e, n) := by
  refine ⟨rfl, ⟨texts, k, coerced, refused⟩, rfl, fun running => ?_⟩
  obtain ⟨asked, leads⟩ := coerced.follows.trans refused.follows
  exact ⟨asked, leads.trace, records_eq asked ▸ leads.log running⟩

theorem run_settles (call : Call) (outside : Outside) (method : ConsoleMethod) (arguments : List Value) (m : Machine) :
    (∃ texts n, Says call outside method arguments m texts n ((method.run call arguments).run outside m)) ∨
    ∃ before v rest e n, Breaks call outside arguments m before v rest e n ((method.run call arguments).run outside m) := by
  rcases each_settles call outside arguments m with
    ⟨texts, n, coerced, all⟩ | ⟨before, v, rest, texts, k, e, n, rfl, coerced, refused, failed⟩
  · refine .inl ⟨texts, n, ?_⟩
    have said : (say method texts).run outside n =
        (.ok (), outside.deliver (spoken (method, texts)) (n.mark (.console method texts))) := by
      rw [← record_eq]
      rfl
    rw [run, bind_ok all, bind_ok said]
    exact says_of_coerced coerced
  · refine .inr ⟨before, v, rest, e, n, ?_⟩
    rw [run, bind_error failed]
    exact breaks_of_refused coerced refused

end

end ConsoleMethod

namespace Run

/-- A guest that calls a function of the host runs it one call deeper. -/
theorem call_of_host {m : Machine} {f this : Value} {arguments : List Value} {host : HostFunction}
    (callable : m.memory.callable? f = some (.host host)) (depth : Nat) (outside : Outside) :
    ((Calls.ofDepth (depth + 1)).call f this arguments).run outside m =
      (host.run (Calls.ofDepth depth).call arguments).run outside.deeper
        (m.mark (.called outside.depth f this arguments)) := by
  have looked : (ask (·.callable? f)).run outside.deeper (m.mark (.called outside.depth f this arguments)) =
      (.ok (some (.host host)), m.mark (.called outside.depth f this arguments)) :=
    congrArg (fun callable => (Except.ok callable, _)) callable
  change (Calls.callValue (Calls.ofDepth depth) f this arguments).run outside.deeper _ = _
  unfold Calls.callValue
  rw [bind_ok looked]

end Run

namespace Evaluate
variable {calls : Calls} {ctx inner : Context} {outside : Outside} {m n : Machine} {e : Value}

/-- A handler is run with what was thrown under a name. -/
def handled (calls : Calls) (ctx : Context) (name : String) (handler : List Stmt) (thrown : Value) : Run (Option Value) := do
  let id ← newCell (some thrown) false
  let inner := { ctx with scopes := .locals [(name, id)] :: ctx.scopes }
  statements calls (← enterBlock inner handler) handler

theorem addStack_run (e : Value) (outside : Outside) (m : Machine) :
    ∃ memory, (addStack e).run outside m = (.ok (), { m with memory }) := by
  unfold addStack
  cases e with
  | object r =>
    dsimp only
    rw [bind_ok (object_eq r outside m)]
    split
    · exact ⟨_, rfl⟩
    · exact ⟨m.memory, rfl⟩
  | _ => exact ⟨m.memory, rfl⟩

/-- Whatever a guarded body throws, its handler is run with it. If it is an error object it may have got a stack. -/
theorem guarded_of_thrown {body handler : List Stmt} {name : String}
    (thrown : (do statements calls (← enterBlock ctx body) body).run outside m = (.error e, n)) :
    ∃ memory, (statement calls ctx (.guarded body name handler)).run outside m =
      (handled calls ctx name handler e).run outside { n with memory } := by
  obtain ⟨memory, stacked⟩ := addStack_run e outside n
  refine ⟨memory, ?_⟩
  have traced : (outcome (traced (do statements calls (← enterBlock ctx body) body))).run outside m =
      (.ok (.error e), { n with memory }) := by
    simp only [outcome, Run.traced, recover, thrown]
    rw [bind_ok stacked]
    rfl
  unfold statement
  rw [bind_ok traced]
  rfl

/-- So it is if what is thrown comes from a call of a member in its first statement. -/
theorem guarded_of_call {object : Expr} {key : Units} {es : List Expr} {rest handler : List Stmt} {name : String}
    {base f : Value} {vs : List Value} {m₁ m₂ m₃ m₄ : Machine}
    (entered : (enterBlock ctx (.expression (.call (.member object key) es) :: rest)).run outside m = (.ok inner, m₁))
    (based : (expression calls inner object).run outside m₁ = (.ok base, m₂))
    (found : (get calls.call base key).run outside m₂ = (.ok f, m₃))
    (given : (arguments calls inner es).run outside m₃ = (.ok vs, m₄))
    (thrown : (calls.call f base vs).run outside m₄ = (.error e, n)) :
    ∃ memory, (statement calls ctx (.guarded (.expression (.call (.member object key) es) :: rest) name handler)).run outside m =
      (handled calls ctx name handler e).run outside { n with memory } := by
  have failed : (expression calls inner (.call (.member object key) es)).run outside m₁ = (.error e, n) := by
    unfold expression
    rw [bind_ok based, bind_ok found, bind_ok given]
    exact thrown
  have stated : (statement calls inner (.expression (.call (.member object key) es))).run outside m₁ = (.error e, n) := by
    unfold statement
    exact bind_error failed _
  refine guarded_of_thrown ?_
  rw [bind_ok entered]
  unfold statements
  exact bind_error stated _

end Evaluate

end ScriptedScene.Guest
