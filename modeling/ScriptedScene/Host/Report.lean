import ScriptedScene.Guest.Invoke
import ScriptedScene.Diagnostic

/-!
What is told of a failure. Nothing that guest code does when a thrown value is asked for a text can make this fail:
what cannot be printed is described.
-/

namespace ScriptedScene

open Guest

/-- What stands for an error object that has no text and no message. -/
def unprintable : String := "<unprintable exception>"

/-- What a call into a guest fails with. -/
inductive Caught where
  | thrown (v : Value)
  /-- The interpreter fails by itself and says so. -/
  | engine (message : String)

/-- The answer of a run, if it gives one. -/
def Guest.Run.answer? (x : Run (Option α)) (outside : Outside) (m : Machine) : Option α × Machine :=
  match x.run outside m with
  | (.ok a, m) => (a, m)
  | (.error _, m) => (none, m)

theorem Guest.Run.answer?_follows (x : Run (Option α)) (outside : Outside) (m : Machine) :
    Follows outside.hold m (x.answer? outside m).2 := by
  have h := x.follows outside m
  unfold answer?
  revert h
  rcases x.run outside m with ⟨_ | _, _⟩ <;> exact id

/-- A run that is caught: what it throws is kept. -/
def Guest.Run.caught (x : Run α) (outside : Outside) (m : Machine) : Except Caught α × Machine :=
  match x.run outside m with
  | (.ok a, m) => (.ok a, m)
  | (.error v, m) => (.error (.thrown v), m)

theorem Guest.Run.caught_follows (x : Run α) (outside : Outside) (m : Machine) :
    Follows outside.hold m (x.caught outside m).2 := by
  have h := x.follows outside m
  unfold caught
  revert h
  rcases x.run outside m with ⟨_ | _, _⟩ <;> exact id

namespace Diagnostic

open Run

/-- The well-formed text of a value. -/
def textOf (call : Call) (v : Value) : Run (Option String) := do
  match (← toText call v).decode with
  | .ok s => return some s
  | .error _ => return none

/-- The well-formed text of a property, if it is there. -/
def textOfProperty (call : Call) (v : Value) (key : Units) : Run (Option String) := do
  let property ← get call v key
  if property.isNullish then return none else textOf call property

/-- The message of an error object: its text if it has one, and else the text of its message. -/
def messageOf (call : Call) (v : Value) (text : Option String) (outside : Outside) (m : Machine) :
    Option String × Machine :=
  match text with
  | some text => (some text, m)
  | none => (textOfProperty call v messageKey).answer? outside m

/-- What is told of a thrown value: its text, or what stands for it, and for error objects their stack. Whether it is an
error object is looked at before it is asked for anything. -/
def ofThrown (call : Call) (v : Value) (outside : Outside) (m : Machine) : Diagnostic × Machine :=
  match (textOf call v).answer? outside m with
  | (text, asked) =>
    if m.memory.isError v then
      match messageOf call v text outside asked with
      | (message, asked) =>
        match (textOfProperty call v stackKey).answer? outside asked with
        | (stack, asked) => (.new (message.getD unprintable) stack, asked)
    else (.new (text.getD ("<thrown " ++ v.typeName asked.memory ++ ">")) none, asked)

theorem messageOf_follows (call : Call) (v : Value) (text : Option String) (outside : Outside) (m : Machine) :
    Follows outside.hold m (messageOf call v text outside m).2 := by
  cases text with
  | some text => exact .refl outside.hold m
  | none => exact (textOfProperty call v messageKey).answer?_follows outside m

theorem ofThrown_follows (call : Call) (v : Value) (outside : Outside) (m : Machine) :
    Follows outside.hold m (ofThrown call v outside m).2 := by
  have asked := (textOf call v).answer?_follows outside m
  unfold ofThrown
  revert asked
  rcases (textOf call v).answer? outside m with ⟨text, told⟩
  intro asked
  dsimp only
  split
  · exact (asked.trans (messageOf_follows call v text outside told)).trans
      ((textOfProperty call v stackKey).answer?_follows outside _)
  · exact asked

/-- What is told of a failure. -/
def ofCaught (call : Call) (outside : Outside) : Caught → Machine → Diagnostic × Machine
  | .thrown v, m => ofThrown call v outside m
  | .engine message, m => (.new message none, m)

theorem ofCaught_follows (call : Call) (outside : Outside) (caught : Caught) (m : Machine) :
    Follows outside.hold m (ofCaught call outside caught m).2 := by
  cases caught with
  | thrown v => exact ofThrown_follows call v outside m
  | engine message => exact .refl outside.hold m

/-- The one record that reports a failure. -/
def report (d : Diagnostic) (label : String) : LogRecord := ⟨.error, scriptTarget, d.render label⟩

end Diagnostic

/-- What the interpreter says of a text that it does not take because of a NUL in it. -/
def nulMessage (offset : Nat) : String :=
  "String contained internal null bytes: nul byte found in provided data at position: " ++ toString offset

/-- The result of guest code. A failure is reported: what is told of it is written to the log and received. -/
def reported (call : Call) (outside : Outside) (label : String) :
    Except Caught α × Machine → Except Diagnostic α × Machine
  | (.ok a, m) => (.ok a, m)
  | (.error caught, m) =>
    match Diagnostic.ofCaught call outside caught m with
    | (d, m) => (.error d, outside.deliver (d.report label) m)

theorem reported_leads (call : Call) (outside : Outside) (label : String) {x : Except Caught α × Machine}
    {m : Machine} (h : Follows outside.hold m x.2) :
    ∃ events written, Leads outside.hold m events written (reported call outside label x).2 := by
  obtain ⟨result, after⟩ := x
  obtain ⟨events, run⟩ := h
  cases result with
  | ok a => exact ⟨events, _, run⟩
  | error caught =>
    obtain ⟨told, asked⟩ := Diagnostic.ofCaught_follows call outside caught after
    obtain ⟨answers, written, delivered⟩ := outside.deliver_leads
      ((Diagnostic.ofCaught call outside caught after).1.report label) (Diagnostic.ofCaught call outside caught after).2
    exact ⟨_, _, (run.append asked).append delivered⟩

end ScriptedScene
