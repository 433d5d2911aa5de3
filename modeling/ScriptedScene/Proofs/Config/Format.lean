import ScriptedScene.Config.Codec
import ScriptedScene.Proofs.Json.Records

/-! The format of configurations. A text is read if it is a record of the format, and the configuration in it may be used if
both its names are identifiers and its memory limit leaves some memory. -/
namespace ScriptedScene

open Json Json.Reader

namespace Limits

/-- A limit: a number of 64 bits, or none. -/
def IsLimit : Option Nat → List Char → Prop := IsOptional (IsNatural (2 ^ 64))

/-- The text of limits. -/
def Written (l : Limits) (cs : List Char) : Prop :=
  ∃ given, IsRecord ["memory_limit", "max_stack_size", "gc_threshold"] given cs ∧
    Given IsLimit none (given "memory_limit") l.memory ∧
    Given IsLimit none (given "max_stack_size") l.stack ∧
    Given IsLimit none (given "gc_threshold") l.collection

theorem head?_of_isNatural {bound n : Nat} {cs : List Char} (form : IsNatural bound n cs) : cs.head? ≠ some 'n' := by
  obtain ⟨-, rfl⟩ := form
  rw [Nat.toString_eq_ofList_toDigits, String.toList_ofList]
  intro head
  have digit := (isWhole_toDigits n).1.2 'n' (List.mem_of_head? head)
  exact absurd digit (by decide)

theorem reads_limitReader : Reads limitReader IsLimit :=
  (reads_natural (Nat.le_refl _) "usize").optional fun _ _ => head?_of_isNatural

/-- What a member adds to the limits read so far. -/
def Fields.Step (name : String) (fields : Fields) (v : List Char) (next : Fields) : Prop :=
  if name = "memory_limit" then fields.memory = none ∧ ∃ a, IsLimit a v ∧ next = { fields with memory := some a }
  else if name = "max_stack_size" then fields.stack = none ∧ ∃ a, IsLimit a v ∧ next = { fields with stack := some a }
  else if name = "gc_threshold" then
    fields.collection = none ∧ ∃ a, IsLimit a v ∧ next = { fields with collection := some a }
  else IsValue v ∧ next = fields

theorem Fields.reads_read (name : String) (fields : Fields) : ReadsMember (Fields.read name fields) (Fields.Step name fields) := by
  unfold Fields.read Fields.Step
  split_ifs
  · exact readsMember_fieldValue reads_limitReader _ _ fun o => { fields with memory := o }
  · exact readsMember_fieldValue reads_limitReader _ _ fun o => { fields with stack := o }
  · exact readsMember_fieldValue reads_limitReader _ _ fun o => { fields with collection := o }
  · exact readsMember_skipField fields

theorem Fields.steps_iff {ms : List (String × List Char)} {s t : Fields} : Steps Fields.Step ms s t ↔
    Filled IsLimit "memory_limit" ms s.memory t.memory ∧ Filled IsLimit "max_stack_size" ms s.stack t.stack ∧
      Filled IsLimit "gc_threshold" ms s.collection t.collection ∧
      ∀ m ∈ ms, m.1 ∉ ["memory_limit", "max_stack_size", "gc_threshold"] → IsValue m.2 := by
  induction ms generalizing s with
  | nil =>
    obtain ⟨memory, stack, collection⟩ := s
    obtain ⟨memory', stack', collection'⟩ := t
    simp [steps_nil_iff, filled_nil, eq_comm]
  | cons m ms ih =>
    obtain ⟨name, v⟩ := m
    rw [steps_cons_iff]
    by_cases memory : name = "memory_limit"
    · subst memory
      simp only [ih, Fields.Step, filled_cons_self, filled_cons_other, ne_eq, String.reduceEq, not_false_eq_true, if_true, if_false]
      grind
    by_cases stack : name = "max_stack_size"
    · subst stack
      simp only [ih, Fields.Step, filled_cons_self, filled_cons_other, ne_eq, String.reduceEq, not_false_eq_true, if_true, if_false]
      grind
    by_cases collection : name = "gc_threshold"
    · subst collection
      simp only [ih, Fields.Step, filled_cons_self, filled_cons_other, ne_eq, String.reduceEq, not_false_eq_true, if_true, if_false]
      grind
    · simp only [ih, Fields.Step, memory, stack, collection, if_false, filled_cons_other memory, filled_cons_other stack,
        filled_cons_other collection, List.forall_mem_cons]
      grind

theorem Fields.finish_eq (fields : Fields) :
    fields.finish = ⟨fields.memory.getD none, fields.stack.getD none, fields.collection.getD none⟩ := by
  obtain ⟨_ | _, _ | _, _ | _⟩ := fields <;> rfl

theorem Fields.finish_iff {ms : List (String × List Char)} {l : Limits} :
    (∃ fields, Steps Fields.Step ms ⟨none, none, none⟩ fields ∧ l = fields.finish) ↔
      Given IsLimit none (valuesOf "memory_limit" ms) l.memory ∧ Given IsLimit none (valuesOf "max_stack_size" ms) l.stack ∧
        Given IsLimit none (valuesOf "gc_threshold" ms) l.collection ∧
        ∀ m ∈ ms, m.1 ∉ ["memory_limit", "max_stack_size", "gc_threshold"] → IsValue m.2 := by
  simp only [Fields.steps_iff, Fields.finish_eq, ← filled_given]
  constructor
  · rintro ⟨fields, ⟨memory, stack, collection, others⟩, rfl⟩
    exact ⟨⟨_, memory, rfl⟩, ⟨_, stack, rfl⟩, ⟨_, collection, rfl⟩, others⟩
  · obtain ⟨_, _, _⟩ := l
    rintro ⟨⟨memory, filled₁, rfl⟩, ⟨stack, filled₂, rfl⟩, ⟨collection, filled₃, rfl⟩, others⟩
    exact ⟨⟨memory, stack, collection⟩, ⟨filled₁, filled₂, filled₃, others⟩, rfl⟩

theorem reads_reader : ReadsDelimited reader Written := by
  have members := readsItems_members Fields.reads_read ⟨none, none, none⟩ Fields.finish
  have third (memory stack : Option Nat) : ReadsItems ']' Element false (element? false limitReader >>= fun collection =>
      listEnd >>= fun _ => pure (Fields.finish ⟨some memory, some stack, collection⟩)) fun vs l =>
      vs.length ≤ 1 ∧ l.memory = memory ∧ l.stack = stack ∧ Given IsLimit none vs[0]?.toList l.collection :=
    .element reads_limitReader (fun _ => rfl) (fun _ => readsItems_listEnd false _) false
      (fun ⟨_, _, _⟩ => by simp [given_nil, Fields.finish_eq]) (fun _ _ ⟨_, _, _⟩ => by
        simp [given_singleton, Fields.finish_eq, and_assoc, and_comm, and_left_comm])
  have second (memory : Option Nat) : ReadsItems ']' Element false (element? false limitReader >>= fun stack =>
      element? stack.isNone limitReader >>= fun collection =>
      listEnd >>= fun _ => pure (Fields.finish ⟨some memory, stack, collection⟩)) fun vs l =>
      vs.length ≤ 2 ∧ l.memory = memory ∧ Given IsLimit none vs[0]?.toList l.stack ∧
        Given IsLimit none vs[1]?.toList l.collection :=
    .element reads_limitReader (fun _ => rfl) (third memory) false
      (fun ⟨_, _, _⟩ => by simp [given_nil, Fields.finish_eq]) (fun _ _ ⟨_, _, _⟩ => by
        simp only [few_later, given_first, given_later, and_left_comm, ↓existsAndEq, true_and])
  have elements : ReadsItems ']' Element true (element? true limitReader >>= fun memory =>
      element? memory.isNone limitReader >>= fun stack => element? stack.isNone limitReader >>= fun collection =>
      listEnd >>= fun _ => pure (Fields.finish ⟨memory, stack, collection⟩)) fun vs l =>
      vs.length ≤ 3 ∧ Given IsLimit none vs[0]?.toList l.memory ∧ Given IsLimit none vs[1]?.toList l.stack ∧
        Given IsLimit none vs[2]?.toList l.collection :=
    .element reads_limitReader (fun _ => rfl) second true
      (fun ⟨_, _, _⟩ => by simp [given_nil, Fields.finish_eq]) (fun _ _ ⟨_, _, _⟩ => by
        simp only [few_later, given_first, given_later, and_left_comm, ↓existsAndEq, true_and])
  refine (reads_record members (by simpa only [bind_assoc, pure_bind] using elements) _).congr fun l cs => ?_
  constructor
  · rintro (⟨ms, object, form⟩ | ⟨vs, list, few, memory, stack, collection⟩)
    · obtain ⟨memory, stack, collection, others⟩ := Fields.finish_iff.mp form
      exact ⟨_, .object object others, memory, stack, collection⟩
    · exact ⟨_, .list list few, memory, stack, collection⟩
  · rintro ⟨given, record, memory, stack, collection⟩
    cases record with
    | object object others => exact .inl ⟨_, object, Fields.finish_iff.mpr ⟨memory, stack, collection, others⟩⟩
    | list list few => exact .inr ⟨_, list, few, memory, stack, collection⟩

end Limits

namespace Config

/-- The text of a configuration. What it does not name is as in the default one. -/
def Written (c : Config) (cs : List Char) : Prop :=
  ∃ given, IsRecord ["namespace", "update_hook", "console_global", "limits"] given cs ∧
    Given IsText default.scope (given "namespace") c.scope ∧
    Given IsText default.hook (given "update_hook") c.hook ∧
    Given IsBoolean default.globalConsole (given "console_global") c.globalConsole ∧
    Given Limits.Written default.limits (given "limits") c.limits

/-- What a member adds to the fields read so far. -/
def Fields.Step (name : String) (fields : Fields) (v : List Char) (next : Fields) : Prop :=
  if name = "namespace" then fields.scope = none ∧ ∃ a, IsText a v ∧ next = { fields with scope := some a }
  else if name = "update_hook" then fields.hook = none ∧ ∃ a, IsText a v ∧ next = { fields with hook := some a }
  else if name = "console_global" then
    fields.globalConsole = none ∧ ∃ a, IsBoolean a v ∧ next = { fields with globalConsole := some a }
  else if name = "limits" then fields.limits = none ∧ ∃ a, Limits.Written a v ∧ next = { fields with limits := some a }
  else IsValue v ∧ next = fields

theorem Fields.reads_read (name : String) (fields : Fields) : ReadsMember (Fields.read name fields) (Fields.Step name fields) := by
  unfold Fields.read Fields.Step
  split_ifs
  · exact readsMember_fieldValue (reads_text _) _ _ fun o => { fields with scope := o }
  · exact readsMember_fieldValue (reads_text _) _ _ fun o => { fields with hook := o }
  · exact readsMember_fieldValue reads_boolean _ _ fun o => { fields with globalConsole := o }
  · exact readsMember_fieldValue Limits.reads_reader.reads _ _ fun o => { fields with limits := o }
  · exact readsMember_skipField fields

theorem Fields.steps_iff {ms : List (String × List Char)} {s t : Fields} : Steps Fields.Step ms s t ↔
    Filled IsText "namespace" ms s.scope t.scope ∧ Filled IsText "update_hook" ms s.hook t.hook ∧
      Filled IsBoolean "console_global" ms s.globalConsole t.globalConsole ∧
      Filled Limits.Written "limits" ms s.limits t.limits ∧
      ∀ m ∈ ms, m.1 ∉ ["namespace", "update_hook", "console_global", "limits"] → IsValue m.2 := by
  induction ms generalizing s with
  | nil =>
    obtain ⟨scope, hook, globalConsole, limits⟩ := s
    obtain ⟨scope', hook', globalConsole', limits'⟩ := t
    simp [steps_nil_iff, filled_nil, eq_comm]
  | cons m ms ih =>
    obtain ⟨name, v⟩ := m
    rw [steps_cons_iff]
    by_cases scope : name = "namespace"
    · subst scope
      simp only [ih, Fields.Step, filled_cons_self, filled_cons_other, ne_eq, String.reduceEq, not_false_eq_true, if_true, if_false]
      grind
    by_cases hook : name = "update_hook"
    · subst hook
      simp only [ih, Fields.Step, filled_cons_self, filled_cons_other, ne_eq, String.reduceEq, not_false_eq_true, if_true, if_false]
      grind
    by_cases globalConsole : name = "console_global"
    · subst globalConsole
      simp only [ih, Fields.Step, filled_cons_self, filled_cons_other, ne_eq, String.reduceEq, not_false_eq_true, if_true, if_false]
      grind
    by_cases limits : name = "limits"
    · subst limits
      simp only [ih, Fields.Step, filled_cons_self, filled_cons_other, ne_eq, String.reduceEq, not_false_eq_true, if_true, if_false]
      grind
    · simp only [ih, Fields.Step, scope, hook, globalConsole, limits, if_false, filled_cons_other scope,
        filled_cons_other hook, filled_cons_other globalConsole, filled_cons_other limits, List.forall_mem_cons]
      grind

theorem Fields.finish_iff {ms : List (String × List Char)} {c : Config} :
    (∃ fields, Steps Fields.Step ms ⟨none, none, none, none⟩ fields ∧ c = fields.finish) ↔
      Given IsText default.scope (valuesOf "namespace" ms) c.scope ∧
        Given IsText default.hook (valuesOf "update_hook" ms) c.hook ∧
        Given IsBoolean default.globalConsole (valuesOf "console_global" ms) c.globalConsole ∧
        Given Limits.Written default.limits (valuesOf "limits" ms) c.limits ∧
        ∀ m ∈ ms, m.1 ∉ ["namespace", "update_hook", "console_global", "limits"] → IsValue m.2 := by
  simp only [Fields.steps_iff, ← filled_given]
  constructor
  · rintro ⟨fields, ⟨scope, hook, globalConsole, limits, others⟩, rfl⟩
    exact ⟨⟨_, scope, rfl⟩, ⟨_, hook, rfl⟩, ⟨_, globalConsole, rfl⟩, ⟨_, limits, rfl⟩, others⟩
  · obtain ⟨_, _, _, _⟩ := c
    rintro ⟨⟨scope, filled₁, rfl⟩, ⟨hook, filled₂, rfl⟩, ⟨globalConsole, filled₃, rfl⟩, ⟨limits, filled₄, rfl⟩, others⟩
    exact ⟨⟨scope, hook, globalConsole, limits⟩, ⟨filled₁, filled₂, filled₃, filled₄, others⟩, rfl⟩

theorem reads_reader : ReadsDelimited reader Written := by
  have members := readsItems_members Fields.reads_read ⟨none, none, none, none⟩ Fields.finish
  have fourth (scope hook : String) (globalConsole : Bool) : ReadsItems ']' Element false
      (element? false Limits.reader >>= fun limits =>
      listEnd >>= fun _ => pure (Fields.finish ⟨some scope, some hook, some globalConsole, limits⟩)) fun vs c =>
      vs.length ≤ 1 ∧ c.scope = scope ∧ c.hook = hook ∧ c.globalConsole = globalConsole ∧
        Given Limits.Written default.limits vs[0]?.toList c.limits :=
    .element Limits.reads_reader.reads (fun _ => rfl) (fun _ => readsItems_listEnd false _) false
      (fun ⟨_, _, _, _⟩ => by simp [given_nil, Fields.finish]) (fun _ _ ⟨_, _, _, _⟩ => by
        simp [given_singleton, Fields.finish, and_assoc, and_comm, and_left_comm])
  have third (scope hook : String) : ReadsItems ']' Element false (element? false boolean >>= fun globalConsole =>
      element? globalConsole.isNone Limits.reader >>= fun limits =>
      listEnd >>= fun _ => pure (Fields.finish ⟨some scope, some hook, globalConsole, limits⟩)) fun vs c =>
      vs.length ≤ 2 ∧ c.scope = scope ∧ c.hook = hook ∧
        Given IsBoolean default.globalConsole vs[0]?.toList c.globalConsole ∧
        Given Limits.Written default.limits vs[1]?.toList c.limits :=
    .element reads_boolean (fun _ => rfl) (fourth scope hook) false
      (fun ⟨_, _, _, _⟩ => by simp [given_nil, Fields.finish]) (fun _ _ ⟨_, _, _, _⟩ => by
        simp only [few_later, given_first, given_later, and_left_comm, ↓existsAndEq, true_and])
  have second (scope : String) : ReadsItems ']' Element false (element? false (text "a string") >>= fun hook =>
      element? hook.isNone boolean >>= fun globalConsole => element? globalConsole.isNone Limits.reader >>= fun limits =>
      listEnd >>= fun _ => pure (Fields.finish ⟨some scope, hook, globalConsole, limits⟩)) fun vs c =>
      vs.length ≤ 3 ∧ c.scope = scope ∧ Given IsText default.hook vs[0]?.toList c.hook ∧
        Given IsBoolean default.globalConsole vs[1]?.toList c.globalConsole ∧
        Given Limits.Written default.limits vs[2]?.toList c.limits :=
    .element (reads_text _) (fun _ => rfl) (third scope) false
      (fun ⟨_, _, _, _⟩ => by simp [given_nil, Fields.finish]) (fun _ _ ⟨_, _, _, _⟩ => by
        simp only [few_later, given_first, given_later, and_left_comm, ↓existsAndEq, true_and])
  have elements : ReadsItems ']' Element true (element? true (text "a string") >>= fun scope =>
      element? scope.isNone (text "a string") >>= fun hook => element? hook.isNone boolean >>= fun globalConsole =>
      element? globalConsole.isNone Limits.reader >>= fun limits =>
      listEnd >>= fun _ => pure (Fields.finish ⟨scope, hook, globalConsole, limits⟩)) fun vs c =>
      vs.length ≤ 4 ∧ Given IsText default.scope vs[0]?.toList c.scope ∧ Given IsText default.hook vs[1]?.toList c.hook ∧
        Given IsBoolean default.globalConsole vs[2]?.toList c.globalConsole ∧
        Given Limits.Written default.limits vs[3]?.toList c.limits :=
    .element (reads_text _) (fun _ => rfl) second true
      (fun ⟨_, _, _, _⟩ => by simp [given_nil, Fields.finish]) (fun _ _ ⟨_, _, _, _⟩ => by
        simp only [few_later, given_first, given_later, and_left_comm, ↓existsAndEq, true_and])
  refine (reads_record members (by simpa only [bind_assoc, pure_bind] using elements) _).congr fun c cs => ?_
  constructor
  · rintro (⟨ms, object, form⟩ | ⟨vs, list, few, scope, hook, globalConsole, limits⟩)
    · obtain ⟨scope, hook, globalConsole, limits, others⟩ := Fields.finish_iff.mp form
      exact ⟨_, .object object others, scope, hook, globalConsole, limits⟩
    · exact ⟨_, .list list few, scope, hook, globalConsole, limits⟩
  · rintro ⟨given, record, scope, hook, globalConsole, limits⟩
    cases record with
    | object object others =>
      exact .inl ⟨_, object, Fields.finish_iff.mpr ⟨scope, hook, globalConsole, limits, others⟩⟩
    | list list few => exact .inr ⟨_, list, few, scope, hook, globalConsole, limits⟩

/-! ## Configurations that may be used -/

/-- What stands anywhere in a name. -/
def Letter (c : Char) : Prop := 'A' ≤ c ∧ c ≤ 'Z' ∨ 'a' ≤ c ∧ c ≤ 'z' ∨ c = '_' ∨ c = '$'

/-- A name that guests can write: letters and digits, with a letter first. -/
def IsName (name : String) : Prop :=
  ∃ c cs, name.toList = c :: cs ∧ Letter c ∧ ∀ d ∈ cs, Letter d ∨ '0' ≤ d ∧ d ≤ '9'

/-- Why a configuration may not be used, with the field that is to blame. -/
inductive Invalid (c : Config) : (field reason : String) → Prop
  | scope (wrong : ¬ IsName c.scope) : Invalid c "namespace" ("'" ++ c.scope ++ "' is not an identifier")
  | hook (scope : IsName c.scope) (wrong : ¬ IsName c.hook) :
    Invalid c "update_hook" ("'" ++ c.hook ++ "' is not an identifier")
  | memory (scope : IsName c.scope) (hook : IsName c.hook) (wrong : c.limits.memory = some 0) :
    Invalid c "limits.memory_limit" "must be greater than zero"

/-- A configuration that may be used. -/
def Valid (c : Config) : Prop := IsName c.scope ∧ IsName c.hook ∧ c.limits.memory ≠ some 0

/-- A text that is one configuration, with blanks around it. -/
def Spelled (c : Config) (text : String) : Prop :=
  ∃ w v x, Blank w ∧ Written c v ∧ Blank x ∧ text.toList = w ++ v ++ x

theorem startsIdentifier_iff {c : Char} : startsIdentifier c = true ↔ Letter c := by
  simp only [startsIdentifier, Char.isAlpha, Char.isUpper, Char.isLower, Letter, Bool.or_eq_true, Bool.and_eq_true,
    decide_eq_true_eq, beq_iff_eq, or_assoc]
  rfl

theorem continuesIdentifier_iff {c : Char} : continuesIdentifier c = true ↔ Letter c ∨ '0' ≤ c ∧ c ≤ '9' := by
  have digit : c.isDigit = true ↔ '0' ≤ c ∧ c ≤ '9' := by
    simp only [Char.isDigit, Bool.and_eq_true, decide_eq_true_eq]
    rfl
  rw [← startsIdentifier_iff, ← digit]
  simp only [continuesIdentifier, startsIdentifier, Char.isAlphanum, Bool.or_eq_true]
  tauto

theorem isIdentifier_iff {name : String} : isIdentifier name = true ↔ IsName name := by
  unfold isIdentifier IsName
  split
  · next empty => simp [empty]
  · next c cs same =>
    simp only [same, Bool.and_eq_true, startsIdentifier_iff, List.all_eq_true, continuesIdentifier_iff]
    constructor
    · exact fun ⟨first, others⟩ => ⟨c, cs, rfl, first, others⟩
    · rintro ⟨_, _, ⟨⟩, first, others⟩
      exact ⟨first, others⟩

theorem checkIdentifier_of_isName {field name : String} (right : IsName name) : checkIdentifier field name = .ok () :=
  if_pos (isIdentifier_iff.mpr right)

theorem checkIdentifier_of_not_isName {field name : String} (wrong : ¬ IsName name) :
    checkIdentifier field name = .error (.invalid field ("'" ++ name ++ "' is not an identifier")) :=
  if_neg (mt isIdentifier_iff.mp wrong)

theorem validate_of_valid {c : Config} (valid : Valid c) : c.validate = .ok () := by
  obtain ⟨scope, hook, memory⟩ := valid
  rw [validate, checkIdentifier_of_isName scope, checkIdentifier_of_isName hook]
  exact if_neg memory

theorem validate_of_invalid {c : Config} {field reason : String} (invalid : Invalid c field reason) :
    c.validate = .error (.invalid field reason) := by
  unfold validate
  cases invalid with
  | scope wrong =>
    rw [checkIdentifier_of_not_isName wrong]
    rfl
  | hook scope wrong =>
    rw [checkIdentifier_of_isName scope, checkIdentifier_of_not_isName wrong]
    rfl
  | memory scope hook wrong =>
    rw [checkIdentifier_of_isName scope, checkIdentifier_of_isName hook]
    exact if_pos wrong

theorem valid_or_invalid (c : Config) : Valid c ∨ ∃ field reason, Invalid c field reason := by
  by_cases scope : IsName c.scope
  · by_cases hook : IsName c.hook
    · by_cases memory : c.limits.memory = some 0
      · exact .inr ⟨_, _, .memory scope hook memory⟩
      · exact .inl ⟨scope, hook, memory⟩
    · exact .inr ⟨_, _, .hook scope hook⟩
  · exact .inr ⟨_, _, .scope scope⟩

/-! ## Reading -/

theorem run_reader_eq_ok_iff {text : String} {c : Config} : run reader text = .ok c ↔ Spelled c text :=
  reads_reader.reads.run_eq_ok_iff

/-- A text gives the configuration that it spells if that one may be used. Otherwise something of that one is to blame, or the
text spells none. -/
theorem ofJson_accepts_format (text : String) :
    (∀ c, ofJson text = .ok c ↔ Spelled c text ∧ Valid c) ∧
      ((∃ cause, ofJson text = .error (.unparsable cause)) ↔ ∀ c, ¬ Spelled c text) ∧
      ∀ field reason, ofJson text = .error (.invalid field reason) ↔ ∃ c, Spelled c text ∧ Invalid c field reason := by
  simp only [← run_reader_eq_ok_iff, ofJson]
  cases decoded : run reader text with
  | error cause => simp
  | ok c =>
    rcases valid_or_invalid c with valid | ⟨field, reason, invalid⟩
    · have validated := validate_of_valid valid
      have blameless {field reason : String} : ¬ Invalid c field reason := fun invalid =>
        nomatch validated.symm.trans (validate_of_invalid invalid)
      simp only [validated, Except.ok.injEq, reduceCtorEq, exists_false, false_iff, exists_eq_left']
      refine ⟨fun d => ⟨?_, And.left⟩, fun none => none c rfl, fun _ _ => blameless⟩
      rintro rfl
      exact ⟨rfl, valid⟩
    · have validated := validate_of_invalid invalid
      have unusable : ¬ Valid c := fun valid => nomatch validated.symm.trans (validate_of_valid valid)
      simp only [validated, Except.ok.injEq, Except.error.injEq, Fault.invalid.injEq, reduceCtorEq, exists_false, false_iff,
        exists_eq_left']
      refine ⟨?_, fun none => none c rfl, fun field' reason' => ⟨?_, fun other => ?_⟩⟩
      · rintro d ⟨rfl, valid⟩
        exact unusable valid
      · rintro ⟨rfl, rfl⟩
        exact invalid
      · simpa [validated] using validate_of_invalid other

end Config

end ScriptedScene
