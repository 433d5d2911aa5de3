import Mathlib.Data.List.DropRight
import ScriptedScene.Guest.Builtin
import ScriptedScene.Proofs.Guest.Lights
import ScriptedScene.Proofs.Host.Reports

/-! What is told of a failure, by what each step of asking comes to. A thrown value is asked for its text; an error
object without one is asked for its message, and every error object for its stack. Each of these may run guest code and
throw again, which is swallowed, and each goes on from the machine that the one before has left. Symbols are described and
not printed, although they can be printed by name. -/
namespace ScriptedScene
open Guest
variable {call : Call} {outside : Outside} {m n : Machine} {v : Value} {text : Option String} {s : String} {α : Type}

theorem Text.isAllBlank_eq_false_iff : Text.isAllBlank s = false ↔ ∃ c ∈ s.toList, ¬ Text.isBlank c := by
  simp only [isAllBlank, List.all_eq_false]

/-- A text is its trimmed start and blanks, and the start does not end with one. -/
theorem Text.eq_trimEnd_append (s : String) : ∃ blanks : String, s = trimEnd s ++ blanks ∧
    (∀ c ∈ blanks.toList, isBlank c) ∧ ∀ c, (trimEnd s).toList.getLast? = some c → ¬ isBlank c := by
  refine ⟨.ofList (s.toList.rtakeWhile isBlank), ?_, ?_, ?_⟩
  · have whole := congrArg String.ofList (List.rdropWhile_append_rtakeWhile (p := isBlank) (l := s.toList))
    rw [String.ofList_append, String.ofList_toList] at whole
    exact whole.symm
  · intro c member
    rw [String.toList_ofList] at member
    exact List.mem_rtakeWhile_imp member
  · intro c last
    have start : (trimEnd s).toList = s.toList.rdropWhile isBlank := String.toList_ofList
    rw [start] at last
    obtain ⟨nonempty, rfl⟩ := List.mem_getLast?_eq_getLast last
    exact List.rdropWhile_last_not isBlank s.toList nonempty

theorem Text.trimEnd_append {stack blanks : String} (blank : ∀ c ∈ blanks.toList, isBlank c)
    (trimmed : ∀ c, stack.toList.getLast? = some c → ¬ isBlank c) : trimEnd (stack ++ blanks) = stack := by
  have dropped : (stack ++ blanks).toList.rdropWhile isBlank = stack.toList.rdropWhile isBlank := by
    rw [String.toList_append, List.rdropWhile, List.reverse_append,
      List.dropWhile_append_of_pos fun c member => blank c (List.mem_reverse.mp member), List.rdropWhile]
  have kept : stack.toList.rdropWhile isBlank = stack.toList := by
    rw [List.rdropWhile_eq_self_iff]
    intro nonempty
    exact trimmed _ (List.getLast?_eq_some_getLast nonempty)
  exact (congrArg String.ofList (dropped.trans kept)).trans String.ofList_toList

namespace Guest

def Value.IsSymbol : Value → Prop
  | .symbol _ _ => True
  | _ => False

/-- Printing by name completes with a well-formed text. -/
def Value.Prints (call : Call) (outside : Outside) (v : Value) (m : Machine) (s : String) (n : Machine) : Prop :=
  ∃ t, (Builtin.stringOf call v).run outside m = (.ok t, n) ∧ t.decode = .ok s

/-- What a value that is asked for its text answers, if it has a well-formed one. A symbol is refused, with an error
object that nobody gets to see. -/
inductive Value.Answers (call : Call) (outside : Outside) (v : Value) (m : Machine) : Option String → Machine → Prop
  | printed {s : String} {n : Machine} (other : ¬ v.IsSymbol) (prints : v.Prints call outside m s n) :
    Answers call outside v m (some s) n
  | lone {t : Units} {offset : Nat} {n : Machine} (other : ¬ v.IsSymbol)
    (ran : (Builtin.stringOf call v).run outside m = (.ok t, n)) (lone : t.decode = .error offset) :
    Answers call outside v m none n
  | thrown {e : Value} {n : Machine} (other : ¬ v.IsSymbol)
    (ran : (Builtin.stringOf call v).run outside m = (.error e, n)) : Answers call outside v m none n
  | symbol {e : Value} {n : Machine} (symbol : v.IsSymbol)
    (refused : (Run.throwFault .symbolAsText : Run Units).run outside m = (.error e, n)) : Answers call outside v m none n

/-- What is read of a property, if it is there and has a well-formed text. -/
inductive Value.Shows (call : Call) (outside : Outside) (v : Value) (key : Units) (m : Machine) :
    Option String → Machine → Prop
  | held {p : Value} {k n : Machine} {text : Option String} (read : (Run.get call v key).run outside m = (.ok p, k))
    (there : p.isNullish = false) (answers : p.Answers call outside k text n) : Shows call outside v key m text n
  | absent {p : Value} {n : Machine} (read : (Run.get call v key).run outside m = (.ok p, n)) (nullish : p.isNullish) :
    Shows call outside v key m none n
  | thrown {e : Value} {n : Machine} (read : (Run.get call v key).run outside m = (.error e, n)) :
    Shows call outside v key m none n

/-- The stack that is shown of an error object, if there is anything to see in it. -/
inductive Value.Traces (call : Call) (outside : Outside) (v : Value) (m : Machine) : Option String → Machine → Prop
  | visible {s : String} {n : Machine} (read : v.Shows call outside Run.stackKey m (some s) n)
    (visible : ∃ c ∈ s.toList, ¬ Text.isBlank c) : Traces call outside v m (some s) n
  | blank {s : String} {n : Machine} (read : v.Shows call outside Run.stackKey m (some s) n)
    (blank : ∀ c ∈ s.toList, Text.isBlank c) : Traces call outside v m none n
  | unread {n : Machine} (unread : v.Shows call outside Run.stackKey m none n) : Traces call outside v m none n

namespace Run

theorem answer?_of_ok {x : Run (Option α)} {a : Option α} (ran : x.run outside m = (.ok a, n)) :
    x.answer? outside m = (a, n) := by
  unfold answer?
  rw [ran]

theorem answer?_of_error {x : Run (Option α)} {e : Value} (ran : x.run outside m = (.error e, n)) :
    x.answer? outside m = (none, n) := by
  unfold answer?
  rw [ran]

theorem caught_of_error {x : Run α} {e : Value} (ran : x.run outside m = (.error e, n)) :
    x.caught outside m = (.error (.thrown e), n) := by
  unfold caught
  rw [ran]

end Run

theorem Builtin.stringOf_eq (call : Call) (other : ¬ v.IsSymbol) : stringOf call v = Run.toText call v := by
  cases v with
  | symbol id description => exact absurd trivial other
  | _ => rfl

theorem Run.toText_symbol (call : Call) (symbol : v.IsSymbol) : toText call v = throwFault .symbolAsText := by
  cases v with
  | symbol id description => rfl
  | _ => exact symbol.elim

end Guest

namespace Diagnostic
open Run

theorem textOf_of_ok {t : Units} (ran : (toText call v).run outside m = (.ok t, n)) :
    (textOf call v).answer? outside m = (t.decode.toOption, n) := by
  refine answer?_of_ok ((bind_ok ran _).trans ?_)
  cases t.decode <;> rfl

theorem textOf_of_error {e : Value} (ran : (toText call v).run outside m = (.error e, n)) :
    (textOf call v).answer? outside m = (none, n) :=
  answer?_of_error (bind_error ran _)

theorem textOf_eq_of_answers (answers : v.Answers call outside m text n) :
    (textOf call v).answer? outside m = (text, n) := by
  cases answers with
  | printed other prints =>
    obtain ⟨t, ran, spelled⟩ := prints
    rw [Builtin.stringOf_eq call other] at ran
    rw [textOf_of_ok ran, spelled]
    rfl
  | lone other ran lone =>
    rw [Builtin.stringOf_eq call other] at ran
    rw [textOf_of_ok ran, lone]
    rfl
  | thrown other ran =>
    rw [Builtin.stringOf_eq call other] at ran
    exact textOf_of_error ran
  | symbol symbol refused => exact textOf_of_error (by rw [toText_symbol call symbol]; exact refused)

theorem answers_textOf (call : Call) (outside : Outside) (v : Value) (m : Machine) :
    v.Answers call outside m ((textOf call v).answer? outside m).1 ((textOf call v).answer? outside m).2 := by
  by_cases symbol : v.IsSymbol
  · obtain ⟨e, memory, refused, -⟩ := throwFault_run (α := Units) .symbolAsText outside m
    -- The implicit text of a symbol is refused; the explicit one that it has is not asked for.
    rw [textOf_of_error (by rw [toText_symbol call symbol]; exact refused)]
    exact .symbol symbol refused
  · cases ran : (Builtin.stringOf call v).run outside m with
    | mk result k =>
      have texted := ran
      rw [Builtin.stringOf_eq call symbol] at texted
      cases result with
      | error e =>
        rw [textOf_of_error texted]
        exact .thrown symbol ran
      | ok t =>
        rw [textOf_of_ok texted]
        cases spelled : t.decode with
        | error offset => exact .lone symbol ran spelled
        | ok s => exact .printed symbol ⟨t, ran, spelled⟩

theorem textOf_eq_iff : (textOf call v).answer? outside m = (text, n) ↔ v.Answers call outside m text n := by
  constructor
  · intro asked
    have answers := answers_textOf call outside v m
    rw [asked] at answers
    exact answers
  · exact textOf_eq_of_answers

theorem textOfProperty_eq_iff {key : Units} :
    (textOfProperty call v key).answer? outside m = (text, n) ↔ v.Shows call outside key m text n := by
  have held {p : Value} {k : Machine} (read : (get call v key).run outside m = (.ok p, k)) :
      (textOfProperty call v key).answer? outside m =
        if p.isNullish then (none, k) else (textOf call p).answer? outside k := by
    unfold answer? textOfProperty
    rw [bind_ok read]
    by_cases nullish : p.isNullish
    · simp only [nullish, if_true]
      rfl
    · simp only [nullish, Bool.false_eq_true, if_false]
  have refused {e : Value} {k : Machine} (read : (get call v key).run outside m = (.error e, k)) :
      (textOfProperty call v key).answer? outside m = (none, k) := answer?_of_error (bind_error read _)
  constructor
  · intro asked
    cases read : (get call v key).run outside m with
    | mk result k =>
      cases result with
      | error e =>
        rw [refused read] at asked
        cases asked
        exact .thrown read
      | ok p =>
        rw [held read] at asked
        cases nullish : p.isNullish with
        | true =>
          rw [nullish, if_pos rfl] at asked
          cases asked
          exact .absent read nullish
        | false =>
          rw [nullish, if_neg Bool.false_ne_true] at asked
          exact .held read nullish (textOf_eq_iff.mp asked)
  · intro shows
    cases shows with
    | held read there answers =>
      rw [held read, there, if_neg Bool.false_ne_true]
      exact textOf_eq_of_answers answers
    | absent read nullish => rw [held read, if_pos nullish]
    | thrown read => exact refused read

/-- The stack of a diagnostic is the one that was read, unless it is blank. -/
theorem traces_iff {shown : Option String} : v.Traces call outside m shown n ↔
    ∃ stack, v.Shows call outside stackKey m stack n ∧ ∀ message, new message stack = ⟨message, shown⟩ := by
  constructor
  · intro traces
    cases traces with
    | visible read visible =>
      refine ⟨_, read, fun message => ?_⟩
      simp only [new, Option.filter, Text.isAllBlank_eq_false_iff.mpr visible, Bool.not_false, if_true]
    | @blank s n read blank =>
      have all : Text.isAllBlank s = true := List.all_eq_true.mpr blank
      refine ⟨_, read, fun message => ?_⟩
      simp only [new, Option.filter, all, Bool.not_true, Bool.false_eq_true, if_false]
    | unread unread => exact ⟨none, unread, fun message => rfl⟩
  · rintro ⟨stack, read, kept⟩
    have same : (new "" stack).stack = shown := congrArg Diagnostic.stack (kept "")
    subst same
    cases stack with
    | none => exact .unread read
    | some s =>
      cases blank : Text.isAllBlank s with
      | true =>
        simp only [new, Option.filter, blank, Bool.not_true, Bool.false_eq_true, if_false]
        exact .blank read (List.all_eq_true.mp blank)
      | false =>
        simp only [new, Option.filter, blank, Bool.not_false, if_true]
        exact .visible read (Text.isAllBlank_eq_false_iff.mp blank)

/-- What is told of a failure, and the machine when all is told. The last of the thrown values' fallbacks need nothing
of the guest. -/
inductive Told (call : Call) (outside : Outside) : Caught → Machine → Diagnostic → Machine → Prop
  | engine {message : String} {m : Machine} : Told call outside (.engine message) m ⟨message, none⟩ m
  | printed {v : Value} {m n : Machine} {s : String} (other : m.memory.isError v = false)
    (answers : v.Answers call outside m (some s) n) : Told call outside (.thrown v) m ⟨s, none⟩ n
  | described {v : Value} {m n : Machine} (other : m.memory.isError v = false) (answers : v.Answers call outside m none n) :
    Told call outside (.thrown v) m ⟨"<thrown " ++ v.typeName n.memory ++ ">", none⟩ n
  | error {v : Value} {m k n : Machine} {s : String} {stack : Option String} (error : m.memory.isError v)
    (answers : v.Answers call outside m (some s) k) (traces : v.Traces call outside k stack n) :
    Told call outside (.thrown v) m ⟨s, stack⟩ n
  | message {v : Value} {m j k n : Machine} {s : String} {stack : Option String} (error : m.memory.isError v)
    (answers : v.Answers call outside m none j) (shows : v.Shows call outside messageKey j (some s) k)
    (traces : v.Traces call outside k stack n) : Told call outside (.thrown v) m ⟨s, stack⟩ n
  | unprintable {v : Value} {m j k n : Machine} {stack : Option String} (error : m.memory.isError v)
    (answers : v.Answers call outside m none j) (shows : v.Shows call outside messageKey j none k)
    (traces : v.Traces call outside k stack n) : Told call outside (.thrown v) m ⟨"<unprintable exception>", stack⟩ n

theorem ofThrown_of_other (other : m.memory.isError v = false) (answers : v.Answers call outside m text n) :
    ofThrown call v outside m = (⟨text.getD ("<thrown " ++ v.typeName n.memory ++ ">"), none⟩, n) := by
  unfold ofThrown
  rw [textOf_eq_of_answers answers]
  simp only [other, Bool.false_eq_true, if_false]
  rfl

theorem ofThrown_of_error {k : Machine} {message : Option String} {stack : Option String} {j : Machine}
    (error : m.memory.isError v) (answers : v.Answers call outside m text j)
    (asked : messageOf call v text outside j = (message, k)) (traces : v.Traces call outside k stack n) :
    ofThrown call v outside m = (⟨message.getD unprintable, stack⟩, n) := by
  obtain ⟨read, shows, kept⟩ := traces_iff.mp traces
  unfold ofThrown
  rw [textOf_eq_of_answers answers]
  simp only [error, if_true, asked, textOfProperty_eq_iff.mpr shows, kept]

theorem ofCaught_eq_of_told {caught : Caught} {d : Diagnostic} (told : Told call outside caught m d n) :
    ofCaught call outside caught m = (d, n) := by
  cases told with
  | engine => rfl
  | printed other answers => exact ofThrown_of_other other answers
  | described other answers => exact ofThrown_of_other other answers
  | error error answers traces => exact ofThrown_of_error error answers rfl traces
  | message error answers shows traces =>
    exact ofThrown_of_error error answers (textOfProperty_eq_iff.mpr shows) traces
  | unprintable error answers shows traces =>
    exact ofThrown_of_error error answers (textOfProperty_eq_iff.mpr shows) traces

theorem exists_traces (call : Call) (outside : Outside) (v : Value) (m : Machine) :
    ∃ stack n, v.Traces call outside m stack n :=
  have shows := textOfProperty_eq_iff.mp (Prod.mk.eta (p := (textOfProperty call v stackKey).answer? outside m)).symm
  ⟨_, _, traces_iff.mpr ⟨_, shows, fun _ => rfl⟩⟩

theorem exists_told (call : Call) (outside : Outside) (caught : Caught) (m : Machine) :
    ∃ d n, Told call outside caught m d n := by
  cases caught with
  | engine message => exact ⟨_, _, .engine⟩
  | thrown v =>
    have answers := answers_textOf call outside v m
    revert answers
    rcases (textOf call v).answer? outside m with ⟨text, j⟩
    intro answers
    cases error : m.memory.isError v with
    | false =>
      cases text with
      | some s => exact ⟨_, _, .printed error answers⟩
      | none => exact ⟨_, _, .described error answers⟩
    | true =>
      cases text with
      | some s =>
        obtain ⟨stack, n, traces⟩ := exists_traces call outside v j
        exact ⟨_, _, .error error answers traces⟩
      | none =>
        cases asked : (textOfProperty call v messageKey).answer? outside j with
        | mk message k =>
          have shows := textOfProperty_eq_iff.mp asked
          obtain ⟨stack, n, traces⟩ := exists_traces call outside v k
          cases message with
          | some s => exact ⟨_, _, .message error answers shows traces⟩
          | none => exact ⟨_, _, .unprintable error answers shows traces⟩

theorem ofCaught_eq_iff_told {caught : Caught} {d : Diagnostic} :
    ofCaught call outside caught m = (d, n) ↔ Told call outside caught m d n := by
  constructor
  · intro result
    -- Something is told of every failure, and what is told is what is computed, so nothing else can be told.
    obtain ⟨e, k, told⟩ := exists_told call outside caught m
    cases result.symm.trans (ofCaught_eq_of_told told)
    exact told
  · exact ofCaught_eq_of_told

theorem ofThrown_message (other : ¬ v.IsSymbol) (prints : v.Prints call outside m s n) :
    (ofThrown call v outside m).1.message = s := by
  have answers : v.Answers call outside m (some s) n := .printed other prints
  cases error : m.memory.isError v with
  | false => rw [ofThrown_of_other error answers, Option.getD_some]
  | true =>
    obtain ⟨stack, k, traces⟩ := exists_traces call outside v n
    rw [ofThrown_of_error error answers rfl traces, Option.getD_some]

theorem ofThrown_symbol (symbol : v.IsSymbol) : (ofThrown call v outside m).1 = ⟨"<thrown symbol>", none⟩ := by
  obtain ⟨e, memory, refused, -⟩ := throwFault_run (α := Units) .symbolAsText outside m
  have answers : v.Answers call outside m none _ := .symbol symbol refused
  cases v with
  | symbol id description => rw [ofThrown_of_other rfl answers]; rfl
  | _ => exact symbol.elim

/-- How a diagnostic is written under a label. -/
inductive Rendered (label : String) : Diagnostic → String → Prop
  | bare {message : String} : Rendered label ⟨message, none⟩ (label ++ ": " ++ message)
  | stacked {message stack blanks : String} (blank : ∀ c ∈ blanks.toList, Text.isBlank c)
    (trimmed : ∀ c, stack.toList.getLast? = some c → ¬ Text.isBlank c) :
    Rendered label ⟨message, some (stack ++ blanks)⟩ (label ++ ": " ++ message ++ "\n  " ++ stack)

theorem render_bare (message label : String) : render ⟨message, none⟩ label = label ++ ": " ++ message :=
  String.append_empty

theorem render_stacked (message stack label : String) :
    render ⟨message, some stack⟩ label = label ++ ": " ++ message ++ "\n  " ++ Text.trimEnd stack :=
  String.append_assoc.symm

theorem render_eq_iff {d : Diagnostic} {label : String} : d.render label = s ↔ Rendered label d s := by
  constructor
  · rintro rfl
    obtain ⟨message, _ | stack⟩ := d
    · rw [render_bare]
      exact .bare
    · obtain ⟨blanks, whole, blank, trimmed⟩ := Text.eq_trimEnd_append stack
      rw [render_stacked]
      nth_rewrite 1 [whole]
      exact .stacked blank trimmed
  · intro rendered
    cases rendered with
    | bare => exact render_bare _ label
    | stacked blank trimmed => rw [render_stacked, Text.trimEnd_append blank trimmed]

/-- Whatever fails, and whatever the guest does when it is asked: what is told is what `Told` says, and nothing else. A
value that prints a well-formed text is told by it, but for symbols, and what is told is written in one way. -/
theorem failures_told (call : Call) (outside : Outside) :
    (∀ caught m d n, ofCaught call outside caught m = (d, n) ↔ Told call outside caught m d n) ∧
    (∀ v m s n, ¬ v.IsSymbol → v.Prints call outside m s n → (ofThrown call v outside m).1.message = s) ∧
    (∀ v m, v.IsSymbol → (ofThrown call v outside m).1 = ⟨"<thrown symbol>", none⟩) ∧
    ∀ (d : Diagnostic) label text, d.render label = text ↔ Rendered label d text :=
  ⟨fun _ _ _ _ => ofCaught_eq_iff_told, fun _ _ _ _ => ofThrown_message, fun _ _ => ofThrown_symbol,
    fun _ _ _ => render_eq_iff⟩

/-- An object that throws again when it is asked for its text is told by its type. -/
theorem failures_told_hostile : ∃ h : Host, h.Reachable ∧ ∃ caught m n,
    Host.hostile.caught h.calls (h.outside .free) h.machine.enter = (.error caught, m) ∧
    Told h.calls.call (h.outside .free) caught m ⟨"<thrown object>", none⟩ n := by
  have asked : (Host.build .ample (.asking [.tick .one]) .default Module.standard .empty).toOption.any (fun h =>
      (h.evaluate .free Host.hostile).1 = .error (.evaluation ⟨"<thrown object>", none⟩)) = true := by decide +kernel
  obtain ⟨h, built, asked⟩ := Host.exists_built asked
  have answered := of_decide_eq_true asked
  rw [Host.evaluate_eq (Host.build_new built).1, reported_result] at answered
  refine ⟨h, .built built, ?_⟩
  revert answered
  rcases Host.hostile.caught h.calls (h.outside .free) h.machine.enter with ⟨caught | _, m⟩
  · intro answered
    have told : (ofCaught h.calls.call (h.outside .free) caught m).1 = ⟨"<thrown object>", none⟩ :=
      HostFault.evaluation.inj (Except.error.inj answered)
    refine ⟨caught, m, (ofCaught h.calls.call (h.outside .free) caught m).2, rfl, ?_⟩
    exact ((failures_told h.calls.call (h.outside .free)).1 caught m _ _).mp (Prod.ext told rfl)
  · intro answered
    cases answered

/-- A program that throws a symbol. -/
def throwingSymbol : Source := .program [.throwing (.call (.name "Symbol") [.text "x"])]

/-- A symbol that is thrown prints a well-formed text, and is not told by it. -/
theorem throwing_symbol_not_printed : ∃ h : Host, h.Reachable ∧ ∃ v m,
    throwingSymbol.caught h.calls (h.outside .free) h.machine.enter = (.error (.thrown v), m) ∧
    v.Prints h.calls.call (h.outside .free) m "Symbol(x)" m ∧
    (ofThrown h.calls.call v (h.outside .free) m).1.message ≠ "Symbol(x)" := by
  have thrown : (Host.build .ample .silent .default Module.standard .empty).toOption.any (fun h =>
      ((throwingSymbol.run h.calls).run (h.outside .free) h.machine.enter).1 = .error (.symbol 0 (some "x"))) = true := by
    decide +kernel
  obtain ⟨h, built, thrown⟩ := Host.exists_built thrown
  have result := of_decide_eq_true thrown
  obtain ⟨left, ran⟩ : ∃ left, (throwingSymbol.run h.calls).run (h.outside .free) h.machine.enter =
      (.error (.symbol 0 (some "x")), left) := ⟨_, Prod.ext result rfl⟩
  have spelled : (Builtin.symbolText (some "x")).decode = .ok "Symbol(x)" := by decide +kernel
  refine ⟨h, .built built, _, left, Run.caught_of_error ran, ⟨Builtin.symbolText (some "x"), rfl, spelled⟩, ?_⟩
  have told : (ofThrown h.calls.call (.symbol 0 (some "x")) (h.outside .free) left).1 = ⟨"<thrown symbol>", none⟩ :=
    ofThrown_symbol trivial
  rw [told]
  decide

end Diagnostic
end ScriptedScene
