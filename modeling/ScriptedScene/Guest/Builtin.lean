import ScriptedScene.Guest.Convert
import ScriptedScene.Guest.Percent

/-!
The functions that every realm has. What the engine does with a function's text, with a program's text, with patterns
and with dates is left out; beside `Builtin` it says what is done in its place.
-/

namespace ScriptedScene.Guest

/-- What an object is called in its default text by its sort alone. -/
def Role.label : Role → String
  | array _ _ => "Array"
  | error => "Error"
  | function _ => "Function"
  | arguments => "Arguments"
  | date => "Date"
  | pattern => "RegExp"
  | boxed (.boolean _) => "Boolean"
  | boxed (.integer _) | boxed (.number _) => "Number"
  | boxed (.text _) => "String"
  | _ => "Object"

namespace Builtin

open Run

def name : Builtin → String
  | object => "Object"
  | function => "Function"
  | error c => c.name
  | array => "Array"
  | typedArray t => t.arrayName
  | container c => c.name
  | primitive p => p.className
  | date => "Date"
  | pattern => "RegExp"
  | promise => "Promise"
  | evaluate => "eval"
  | objectKeys => "keys"
  | objectCreate => "create"
  | objectDefineProperty => "defineProperty"
  | objectPrototypeOf => "getPrototypeOf"
  | objectSetPrototypeOf => "setPrototypeOf"
  | objectToString | functionToString | errorToString | arrayToString | primitiveToString _ => "toString"
  | objectToLocaleString => "toLocaleString"
  | objectValueOf | primitiveValueOf _ => "valueOf"
  | objectHasOwnProperty => "hasOwnProperty"
  | objectIsPrototypeOf => "isPrototypeOf"
  | objectPropertyIsEnumerable => "propertyIsEnumerable"
  | objectDefineAccessor setter => if setter then "__defineSetter__" else "__defineGetter__"
  | objectLookupAccessor setter => if setter then "__lookupSetter__" else "__lookupGetter__"
  | prototypeGetter => "get __proto__"
  | prototypeSetter => "set __proto__"
  | functionCall => "call"
  | functionApply => "apply"
  | arrayIsArray => "isArray"
  | arrayJoin => "join"
  | elementCount => "get length"
  | symbolDescription => "get description"
  | isNaN => "isNaN"
  | isFinite => "isFinite"
  | parseInteger => "parseInt"
  | parseNumber => "parseFloat"
  | escape .component => "encodeURIComponent"
  | escape .address => "encodeURI"
  | escape .units => "escape"
  | unescape .component => "decodeURIComponent"
  | unescape .address => "decodeURI"
  | unescape .units => "unescape"
  | minimum => "min"
  | forbidden | functionSecret | settle => ""

/-- How many parameters the function says it has. -/
def arity : Builtin → Nat
  | objectDefineProperty | typedArray _ => 3
  | objectCreate | objectSetPrototypeOf | objectDefineAccessor _ | functionApply | minimum | parseInteger
  | pattern | container .proxy | error .aggregateError => 2
  | date => 7
  | primitive .symbol | container .map | container .set | container .weakMap | container .weakSet
  | objectToString | functionToString | errorToString | arrayToString | primitiveToString _ | objectValueOf
  | primitiveValueOf _ | objectToLocaleString | prototypeGetter | elementCount | symbolDescription
  | forbidden | functionSecret => 0
  | _ => 1

/-- The argument at a place; one that is not given is undefined. -/
def argument (arguments : List Value) (i : Nat) : Value := arguments.getD i .undefined

/-- The object that a value is. -/
def needObject : Value → Run Ref
  | .object r => return r
  | _ => throwFault .notObject

/-- The primitive of a type that a value is, or is made for. -/
def needPrimitive (p : Primitive) (v : Value) : Run Value := do
  let held ←
    match v with
    | .object r =>
      match (← Run.object r).role with
      | .boxed v => pure v
      | _ => pure .undefined
    | v => pure v
  if held.primitive? = some p then return held else throwFault (.notPrimitive p)

/-- Refuses what cannot be called. -/
def needCallable (v : Value) : Run Unit := do
  if !(← isCallable v) then throwFault .notFunction

/-- The default text of a value. -/
def defaultText (v : Value) : Run Units := do
  let label ←
    match v with
    | .undefined => pure "Undefined"
    | .null => pure "Null"
    | v => do
      let r ← toObject v
      ask fun m => (m.tag? r).getD (m.object r).role.label
  return Units.ofString ("[object " ++ label ++ "]")

/-- The text of a function: a class is written as its declaration. -/
def functionText (call : Call) (v : Value) : Run Units := do
  match ← ask (·.callable? v) with
  | none => throwFault .notFunction
  | some (.classBody name) => return Units.ofString ("class " ++ name ++ " \x7b \x7d")
  | some _ =>
    let name ←
      match ← get call v "name" with
      | .undefined => pure Units.empty
      | name => toText call name
    return "function " ++ name ++ ("() \x7b\n    [native code]\n\x7d" : Units)

/-- A property of an error object as text, with what stands for an undefined one. -/
def errorPart (call : Call) (v : Value) (key : Units) (otherwise : Units) : Run Units := do
  match ← get call v key with
  | .undefined => return otherwise
  | part => toText call part

/-- The text of an error object: its name and its message, or the one of them that is not empty. -/
def errorText (call : Call) (v : Value) : Run Units := do
  let _ ← needObject v
  let name ← errorPart call v "name" "Error"
  let message ← errorPart call v messageKey Units.empty
  if name.isEmpty then return message
  else if message.isEmpty then return name
  else return name ++ (": " : Units) ++ message

/-- How many elements a list-like object has. -/
def lengthOf (call : Call) (v : Value) : Run Nat := do
  toLength call (← get call v Object.lengthKey)

/-- The elements of a list-like object, in order. -/
def elementsOf (call : Call) (v : Value) : Run (List Value) := do
  each (fun i => get call v (.ofNat i)) (List.range (← lengthOf call v))

/-- The elements of what can be gone through: a list, or a text's characters. -/
def iterated (call : Call) (v : Value) : Run (List Value) := do
  let role ←
    match v with
    | .object r => do pure (← Run.object r).role
    | v => pure (.boxed v)
  match role with
  | .array _ _ | .typedArray _ _ | .arguments | .boxed (.text _) => elementsOf call v
  | _ => throwFault .notIterable

/-- The text of an element in a joined list. -/
def elementText (call : Call) (list : Value) (i : Nat) : Run Units := do
  let v ← get call list (.ofNat i)
  if v.isNullish then return Units.empty else toText call v

/-- The elements' texts with a separator between them. -/
def joined (call : Call) (v separator : Value) : Run Units := do
  let list := Value.object (← toObject v)
  let length ← lengthOf call list
  let separator ←
    match separator with
    | .undefined => pure (Units.ofString ",")
    | v => toText call v
  let texts ← each (elementText call list) (List.range length)
  return Units.join separator texts

/-- The text of a list. -/
def listText (call : Call) (v : Value) : Run Value := do
  let list := Value.object (← toObject v)
  let join ← get call list "join"
  if ← isCallable join then call join list []
  else return .text (← defaultText list)

/-- The enumerable keys of a value. -/
def keysOf (v : Value) : Run (List Units) := do
  let o ← Run.object (← toObject v)
  return o.ownKeys.filter fun k => (o.own? k).any (·.enumerable)

/-- A field of a property's description, if it is there. -/
def field? (call : Call) (description : Value) (r : Ref) (key : Units) : Run (Option Value) := do
  if (← ask (·.find? r key)).isSome then return some (← get call description key) else return none

/-- A getter or setter in a property's description. -/
def accessor? (call : Call) (description : Value) (r : Ref) (setter : Bool) :
    Run (Option (Option Ref)) := do
  match ← field? call description r (if setter then "set" else "get") with
  | none => return none
  | some .undefined => return some none
  | some v =>
    match v with
    | .object f => if ← isCallable v then return some (some f) else throwFault (.invalidAccessor setter)
    | _ => throwFault (.invalidAccessor setter)

/-- What an object says of a property. -/
def definitionOf (call : Call) (description : Value) : Run Definition := do
  let r ← needObject description
  let enumerable ← field? call description r "enumerable"
  let configurable ← field? call description r "configurable"
  let value ← field? call description r "value"
  let writable ← field? call description r "writable"
  let getter ← accessor? call description r false
  let setter ← accessor? call description r true
  if (getter.isSome || setter.isSome) && (value.isSome || writable.isSome) then
    throwFault .accessorWithValue
  else
    return ⟨value, getter, setter, writable.map (·.isTrue), enumerable.map (·.isTrue),
      configurable.map (·.isTrue)⟩

/-- The prototype that a value can be. -/
def prototypeFor? : Value → Option (Option Ref)
  | .object r => some (some r)
  | .null => some none
  | _ => none

/-- The prototype of a value. -/
def prototypeOf (v : Value) : Run Value := do
  match (← Run.object (← toObject v)).prototype with
  | some p => return .object p
  | none => return .null

/-- Gives a value another prototype. Primitives keep theirs. -/
def changePrototype (v prototype : Value) : Run Unit :=
  match v, prototypeFor? prototype with
  | .object r, some p => setPrototype r p
  | v, some _ => if v.isNullish then throwFault .notObject else return ()
  | _, none => throwFault .notObject

/-- A new list: of a length if that is all there is, and else of the elements. -/
def makeArray (call : Call) (arguments : List Value) : Run Value :=
  match arguments with
  | [v] => do
    if v.number?.isSome then
      let n ← lengthFor call v
      let r ← newArray []
      updateObject r (·.withLength n true)
      return .object r
    else return .object (← newArray [some v])
  | elements => return .object (← newArray (elements.map some))

/-- How many bytes an array of elements takes at most. -/
def mostBytes : Nat := 2147483647

/-- A new typed array: of a length, or of the elements of a list-like object. -/
def makeTypedArray (call : Call) (t : ElementType) (v : Value) : Run Value := do
  let elements ←
    match v with
    | .object _ =>
      each (fun i => do toNumber call (← get call v (.ofNat i))) (List.range (← lengthOf call v))
    | v => do
      let n ← toWhole call v
      if n < 0 then throwFault .invalidIndex
      else if (mostBytes : Int) < n then throwFault .invalidLength
      else pure (List.replicate n.toNat (.zero false))
  return .object (← alloc
    ⟨some (Intrinsic.ref (.typedArrayPrototype t)),
      elements.zipIdx.map fun (x, i) => (.ofNat i, .plain (t.element x)),
      .typedArray t elements.length, none⟩)

/-- The cause in the options of an error object, if there is one. -/
def causeOf (call : Call) : Value → Run (List (Units × Property))
  | .object r => do
    match ← field? call (.object r) r "cause" with
    | some cause => return [("cause", .hidden cause)]
    | none => return []
  | _ => return []

/-- The errors that an error object stands for. -/
def errorsIn (call : Call) (v : Value) : Run (List (Units × Property)) := do
  let list ← newArray ((← iterated call v).map some)
  return [("errors", .hidden (.object list))]

/-- A new error object. It has a stack from the start. -/
def makeError (call : Call) (c : ErrorClass) (arguments : List Value) : Run Value := do
  let first := if c = .aggregateError then 1 else 0
  let message ←
    match argument arguments first with
    | .undefined => pure []
    | v => do pure [(messageKey, .hidden (.text (← toText call v)))]
  let cause ← causeOf call (argument arguments (first + 1))
  let errors ← if c = .aggregateError then errorsIn call (argument arguments 0) else pure []
  return .object (← alloc
    ⟨some (Intrinsic.ref (.errorPrototype c)),
      message ++ cause ++ errors ++ [(stackKey, .hidden (.text guestStack))], .error, none⟩)

/-- The text of a symbol. -/
def symbolText (description : Option Units) : Units :=
  "Symbol(" ++ description.getD Units.empty ++ (")" : Units)

/-- A value's text when it is asked for by name: symbols have one too. -/
def stringOf (call : Call) : Value → Run Units
  | .symbol _ description => return symbolText description
  | v => toText call v

/-- The base in which a number is to be written. -/
def baseFor (call : Call) (v : Value) : Run Nat := do
  match v with
  | .undefined => return 10
  | v =>
    let base ← toWhole call v
    if 2 ≤ base && base ≤ 36 then return base.toNat else throwFault .invalidRadix

/-- The text of a primitive, in a base if it is a number. -/
def textInBase (call : Call) (v base : Value) : Run Units := do
  match v with
  | .integer i => return .ofIntegerIn (← baseFor call base) i.toInt
  | .bigint i => return .ofIntegerIn (← baseFor call base) i
  | .number x =>
    let base ← baseFor call base
    return if base = 10 then .ofNumber x else .ofNumberIn base x
  | v => stringOf call v

/-- The smaller of two numbers; what is not a number wins, and negative zero is below zero. -/
def smaller (x y : Binary64) : Binary64 :=
  if x.isNaN || y.isNaN then .nan
  else if x.isZero && y.isZero then (if x.negative then x else y)
  else if y.lt x then y else x

/-- The characters of a text; what stands for a lone surrogate is in no numeral. -/
def charactersOf (t : Units) : List Char := t.list.map fun u => Char.ofNat u.toNat

/-- The characters of a text from the first that is not blank. -/
def leftTrimmed (t : Units) : List Char := charactersOf ⟨t.list.dropWhile Units.isBlank⟩

/-- The whole number in a base that a text starts with. -/
def integerAtStart (base : Nat) (t : Units) : Value :=
  let (negative, cs) := Decimal.splitSign (leftTrimmed t)
  let (base, cs) :=
    match cs with
    | '0' :: 'x' :: rest | '0' :: 'X' :: rest => if base = 0 || base = 16 then (16, rest) else (base, cs)
    | cs => (if base = 0 then 10 else base, cs)
  match Units.readBase? base (cs.takeWhile fun c => (Units.digitValue? c).any (· < base)) with
  | some n => if negative then (Run.numericOf (.ofNat n)).negate else .ofNat n
  | none => .number .nan

/-- The longest start of a text that is a numeral. -/
def numberAtStart (t : Units) : Value :=
  let (negative, cs) := Decimal.splitSign (leftTrimmed t)
  if "Infinity".toList.isPrefixOf cs then .number (.infinity negative)
  else
    let digits := cs.takeWhile fun c => c.isAlphanum || c == '.' || c == '+' || c == '-'
    match (List.range (digits.length + 1)).reverse.findSome? fun n => Decimal.read? (digits.take n) with
    | some d => .ofBinary (d.toBinary negative)
    | none => .number .nan

/-- What a computed property has on one side, on the first object of a chain that has the property. -/
def accessorOn (r : Ref) (key : Units) (setter : Bool) : Run Value := do
  match ← ask (·.find? r key) with
  | some ⟨.accessor g s, _, _⟩ =>
    match if setter then s else g with
    | some f => return .object f
    | none => return .undefined
  | _ => return .undefined

/-- A call of a builtin with a receiver. -/
def run (call : Call) (b : Builtin) (this : Value) (arguments : List Value) : Run Value := do
  let first := argument arguments 0
  match b with
  | object =>
    if first.isNullish then return .object (← newObject []) else return .object (← toObject first)
  | function => return .object (← alloc
      (.fresh (some (Intrinsic.ref .functionPrototype))
        (.function (.closure ⟨.function, [], [], [], false, .undefined⟩))))
  | error c => makeError call c arguments
  | array => makeArray call arguments
  | typedArray _ | container _ | promise => throwFault .calledWithoutNew
  | primitive .symbol =>
    match first with
    | .undefined => newSymbol none
    | v => newSymbol (some (← toText call v))
  | primitive .boolean => return .boolean first.isTrue
  | primitive .number =>
    match arguments with
    | [] => return .integer 0
    | v :: _ =>
      match ← toNumeric call v with
      | .big i => return .number (.ofInt i)
      | n => return n.value
  | primitive .string =>
    match arguments with
    | [] => return .text Units.empty
    | v :: _ => return .text (← stringOf call v)
  | primitive .bigint => return .bigint (← toBigint call first)
  | date => return .text Units.empty
  | pattern => return .object (← alloc (.fresh (some (Intrinsic.ref .patternPrototype)) .pattern))
  | evaluate => return first
  | objectKeys =>
    return .object (← newArray ((← keysOf first).map fun k => some (.text k)))
  | objectCreate =>
    match prototypeFor? first with
    | some prototype => return .object (← alloc (.fresh prototype .plain))
    | none => throwFault .notPrototype
  | objectDefineProperty =>
    let r ← needObject first
    let key ← toText call (argument arguments 1)
    define call r key (← definitionOf call (argument arguments 2))
    return first
  | objectPrototypeOf => prototypeOf first
  | objectSetPrototypeOf =>
    changePrototype first (argument arguments 1)
    return first
  | objectToString => return .text (← defaultText this)
  | objectToLocaleString => do
    let f ← get call this "toString"
    call f this []
  | objectValueOf => return .object (← toObject this)
  | objectHasOwnProperty =>
    let key ← toText call first
    return .boolean ((← Run.object (← toObject this)).own? key).isSome
  | objectIsPrototypeOf =>
    match first with
    | .object r =>
      let target ← toObject this
      match (← Run.object r).prototype with
      | some parent => return .boolean (← ask fun m => m.chainMeets target (m.heap.size + 1) parent)
      | none => return .boolean false
    | _ => return .boolean false
  | objectPropertyIsEnumerable =>
    let r ← toObject this
    let key ← toText call first
    return .boolean (((← Run.object r).own? key).any (·.enumerable))
  | objectDefineAccessor setter =>
    let r ← toObject this
    match argument arguments 1 with
    | .object f =>
      needCallable (.object f)
      let (g, s) := if setter then (none, some (some f)) else (some (some f), none)
      define call r (← toText call first) ⟨none, g, s, none, some true, some true⟩
      return .undefined
    | _ => throwFault .notFunction
  | objectLookupAccessor setter =>
    let r ← toObject this
    accessorOn r (← toText call first) setter
  | prototypeGetter => prototypeOf this
  | prototypeSetter =>
    if this.isNullish then throwFault .notObject
    else if (prototypeFor? first).isSome then
      changePrototype this first
      return .undefined
    else return .undefined
  | functionToString => return .text (← functionText call this)
  | functionCall =>
    needCallable this
    call this first arguments.tail
  | functionApply =>
    needCallable this
    let list := argument arguments 1
    if list.isNullish then call this first []
    else
      let _ ← needObject list
      call this first (← elementsOf call list)
  | forbidden => throwFault .untouchable
  | functionSecret =>
    match ← ask (·.callable? this) with
    | some (.closure c) =>
      if c.kind = .function && !c.strict then return .undefined else throwFault .untouchable
    | _ => throwFault .untouchable
  | errorToString => return .text (← errorText call this)
  | arrayIsArray =>
    match first with
    | .object r =>
      match (← Run.object r).role with
      | .array _ _ => return .boolean true
      | _ => return .boolean false
    | _ => return .boolean false
  | arrayJoin => return .text (← joined call this first)
  | arrayToString => listText call this
  | elementCount =>
    match this with
    | .object r =>
      match (← Run.object r).role with
      | .typedArray _ n => return .ofNat n
      | _ => throwFault .notTypedArray
    | _ => throwFault .notTypedArray
  | primitiveToString p => return .text (← textInBase call (← needPrimitive p this) first)
  | primitiveValueOf p => needPrimitive p this
  | symbolDescription =>
    match ← needPrimitive .symbol this with
    | .symbol _ (some description) => return .text description
    | _ => return .undefined
  | isNaN => return .boolean (← toNumber call first).isNaN
  | isFinite => return .boolean (← toNumber call first).isFinite
  | parseInteger =>
    let t ← toText call first
    let base ← toWhole call (argument arguments 1)
    if base = 0 || (2 ≤ base && base ≤ 36) then return integerAtStart base.toNat t
    else return .number .nan
  | parseNumber => return numberAtStart (← toText call first)
  | escape e =>
    match e.encode (← toText call first) with
    | some t => return .text t
    | none => throwFault .malformedEscape
  | unescape e =>
    match e.decode (← toText call first) with
    | some t => return .text t
    | none => throwFault .malformedEscape
  | minimum =>
    let numbers ← each (toNumber call) arguments
    return .ofBinary (numbers.foldl smaller (.infinity false))
  | settle => return .undefined

/-- Constructs with a builtin. -/
def construct (call : Call) (b : Builtin) (arguments : List Value) : Run Value := do
  let first := argument arguments 0
  match b with
  | object | function | error _ | array | pattern => run call b .undefined arguments
  | typedArray t => makeTypedArray call t first
  | container c =>
    if c.wrapsObject then
      let _ ← needObject first
    return .object (← alloc (.fresh (some (Intrinsic.ref (.containerPrototype c))) .plain))
  | primitive .string =>
    let t ← match arguments with
      | [] => pure Units.empty
      | v :: _ => toText call v
    return .object (← alloc (boxOf .string (.text t)))
  | primitive .number | primitive .boolean =>
    return .object (← toObject (← run call b .undefined arguments))
  | date => return .object (← alloc (.fresh (some (Intrinsic.ref .datePrototype)) .date))
  | promise =>
    needCallable first
    let r ← alloc (.fresh (some (Intrinsic.ref .promisePrototype)) .promise)
    let settler ← alloc (.fresh (some (Intrinsic.ref .functionPrototype)) (.function (.builtin settle)))
    let _ ← outcome (call first .undefined [.object settler, .object settler])
    return .object r
  | _ => throwFault .notConstructor

end Builtin

end ScriptedScene.Guest
