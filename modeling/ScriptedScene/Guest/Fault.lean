import ScriptedScene.Guest.Catalogue
import ScriptedScene.Scene.Fault

/-!
What the machine and the host's functions throw: the causes, with the class of error object and the wording
for each.
-/

namespace ScriptedScene.Guest

/-- Why a guest value does not convert to what a host function takes. -/
inductive ConversionFault where
  /-- A value of one type stands where another is wanted. -/
  | mismatch (found wanted : String)
  /-- A number is below zero. -/
  | underflow
  /-- A number is above the largest of 32 bits. -/
  | overflow
  | components (count : Nat)
  /-- A text has a lone surrogate after so many bytes. -/
  | notUnicode (offset : Nat)
  deriving DecidableEq, Repr

namespace ConversionFault

/-- The wording for a conversion between two types. -/
def between (found wanted : String) : String :=
  "Error converting from js '" ++ found ++ "' into type '" ++ wanted ++ "'"

def message : ConversionFault → String
  | mismatch found wanted => between found wanted
  | underflow => between "f64" "u32" ++ ": Underflow"
  | overflow => between "f64" "u32" ++ ": Overflow"
  | components count =>
    between "array" "color" ++ ": expected [r, g, b], got " ++ toString count ++ " components"
  | notUnicode offset =>
    "Conversion from string failed: invalid utf-8 sequence of 1 bytes from index " ++ toString offset

end ConversionFault

/-- Why a program's text is no program. -/
inductive TextFault where
  | functionName
  | unexpectedToken (token : String)
  | unterminatedString
  | missingInitializer
  deriving DecidableEq, Repr

/-- Why a program cannot be run at all: it has a form that is not allowed where it stands. -/
inductive FormFault where
  /-- A name is declared where a block has it already. -/
  | lexicalRedefinition
  /-- A name is declared in a function's body that one of its parameters has. -/
  | parameterRedefinition
  /-- A name is declared in a block in which a variable of that name is declared for the function around. -/
  | variableRedefinition
  /-- As `variableRedefinition`, for a program. -/
  | globalRedefinition
  | withInStrict
  | returnOutside
  | repeatedParameter
  | lexicalName
  | strictVariableName
  | strictFunctionName
  | strictParameterName
  | strictTarget
  | notTarget
  | repeatedPrototype
  deriving DecidableEq, Repr

namespace FormFault

def message : FormFault → String
  | lexicalRedefinition => "invalid redefinition of lexical identifier"
  | parameterRedefinition => "invalid redefinition of parameter name"
  | variableRedefinition => "invalid redefinition of a variable"
  | globalRedefinition => "invalid redefinition of global identifier"
  | withInStrict => "invalid keyword: with"
  | returnOutside => "return not in a function"
  | repeatedParameter => "duplicate argument names not allowed in this context"
  | lexicalName => "invalid lexical variable name"
  | strictVariableName => "invalid variable name in strict mode"
  | strictFunctionName => "invalid function name in strict code"
  | strictParameterName => "invalid argument name in strict code"
  | strictTarget => "invalid lvalue in strict mode"
  | notTarget => "invalid assignment left-hand side"
  | repeatedPrototype => "duplicate __proto__ property name"

end FormFault

/-- Why a value cannot be a big integer. -/
inductive BigintFault where
  | fraction
  | notFinite
  | text
  | other
  deriving DecidableEq, Repr

namespace BigintFault

def errorClass : BigintFault → ErrorClass
  | fraction | notFinite => .rangeError
  | text => .syntaxError
  | other => .typeError

def message : BigintFault → String
  | fraction => "cannot convert to BigInt: not an integer"
  | notFinite => "cannot convert NaN or Infinity to BigInt"
  | text => "invalid bigint literal"
  | other => "cannot convert to BigInt"

end BigintFault

/-- Why the machine or a host function throws. -/
inductive Fault where
  | notDefined (name : Units)
  | notInitialized (name : Units)
  | readOnly (name : Units)
  | noPropertyToRead (key : Units) (holder : String)
  | noPropertyToWrite (key : Units) (holder : String)
  | notFunction
  | notConstructor
  | classWithoutNew
  | calledWithoutNew
  | symbolAsText
  | symbolAsNumber
  | bigintAsNumber
  | mixedOperands
  | bigintDivisionByZero
  | bigint (b : BigintFault)
  | noPrimitive
  | notPrimitive (p : Primitive)
  | notTypedArray
  | notObject
  | notPrototype
  | nullAsObject
  | notIterable
  | notConfigurable
  | elementNotConfigurable
  | cannotDelete
  | noSetter
  | accessorWithValue
  | invalidAccessor (setter : Bool)
  | circularPrototype
  | untouchable
  | invalidLength
  | invalidIndex
  | outOfBounds
  /-- As `outOfBounds`, where an element is written. -/
  | writtenOutOfBounds
  | fractionalElement
  | negativeElement
  | invalidElementFlags
  | invalidRadix
  | malformedEscape
  | stackOverflow
  | redeclaration (name : Units)
  | cannotDefine (name : Units)
  | form (f : FormFault)
  | text (t : TextFault)
  | tooFewArguments (given required : Nat)
  | conversion (c : ConversionFault)
  | nullHandle
  | scene (f : SceneFault)
  | sceneBeingModified
  | sceneBorrowed
  deriving DecidableEq, Repr

/-- The class of the error object that a scene's fault becomes. -/
def sceneErrorClass : SceneFault → ErrorClass
  | .unknownLight _ => .referenceError
  | .invalidIntensity _ => .rangeError
  | .unknownKind _ | .duplicateName _ | .invalidColor => .typeError
  | .full => .internalError

namespace Fault

def errorClass : Fault → ErrorClass
  | notDefined _ | notInitialized _ | nullHandle => .referenceError
  | redeclaration _ | form _ | text _ => .syntaxError
  | invalidLength | invalidIndex | invalidRadix | bigintDivisionByZero => .rangeError
  | malformedEscape => .uriError
  | bigint b => b.errorClass
  | stackOverflow | sceneBeingModified | sceneBorrowed => .internalError
  | scene f => sceneErrorClass f
  | _ => .typeError

/-- A run of units whose bytes, counted unit by unit, start below the limit. -/
def takeBytes (limit : Nat) : Nat → List UInt16 → List UInt16
  | _, [] => []
  | used, u :: rest =>
    if used < limit then u :: takeBytes limit (used + Units.unitBytes u) rest else []

/-- A name as messages hold it: a long one is cut if it is not all ASCII. -/
def nameInMessage (name : Units) : Units :=
  if name.list.all (· < 0x80) then name.beforeNul else Units.beforeNul ⟨takeBytes 58 0 name.list⟩

/-- A name in quotes. -/
def quotedName (name : Units) : Units := "'" ++ nameInMessage name ++ ("'" : Units)

/-- As many characters from the start as fit into the bytes. -/
def fitBytes : Nat → List UInt16 → List UInt16
  | _, [] => []
  | limit, [u] => if limit < Units.unitBytes u then [] else [u]
  | limit, u :: v :: rest =>
    if Units.isLeading u && Units.isTrailing v then
      if limit < 4 then [] else u :: v :: fitBytes (limit - 4) rest
    else if limit < Units.unitBytes u then []
    else u :: fitBytes (limit - Units.unitBytes u) (v :: rest)

/-- The most bytes that a message has. -/
def messageBytes : Nat := 255

def textMessage : TextFault → String
  | .functionName => "function name expected"
  | .unexpectedToken token => "unexpected token in expression: '" ++ token ++ "'"
  | .unterminatedString => "unexpected end of string"
  | .missingInitializer => "missing initializer for const variable"

/-- The whole message of a fault. -/
def fullMessage : Fault → Units
  | notDefined name => quotedName name ++ (" is not defined" : Units)
  | notInitialized name => nameInMessage name ++ (" is not initialized" : Units)
  | readOnly name => quotedName name ++ (" is read-only" : Units)
  | noPropertyToRead key holder =>
    "cannot read property " ++ quotedName key ++ Units.ofString (" of " ++ holder)
  | noPropertyToWrite key holder =>
    "cannot set property " ++ quotedName key ++ Units.ofString (" of " ++ holder)
  | notFunction => "not a function"
  | notConstructor => "not a constructor"
  | classWithoutNew => "class constructors must be invoked with 'new'"
  | calledWithoutNew => "must be called with new"
  | symbolAsText => "cannot convert symbol to string"
  | symbolAsNumber => "cannot convert symbol to number"
  | bigintAsNumber => "cannot convert bigint to number"
  | mixedOperands => "both operands must be bigint"
  | bigintDivisionByZero => "invalid operation"
  | bigint b => b.message
  | noPrimitive => "toPrimitive"
  | notPrimitive p => Units.ofString ("not a " ++ p.noun)
  | notTypedArray => "not a TypedArray"
  | notObject => "not an object"
  | notPrototype => "not a prototype"
  | nullAsObject => "cannot convert to object"
  | notIterable => "value is not iterable"
  | notConfigurable => "property is not configurable"
  | elementNotConfigurable => "not configurable"
  | cannotDelete => "could not delete property"
  | noSetter => "no setter for property"
  | accessorWithValue => "cannot have both setter/getter and value or writable"
  | invalidAccessor setter => if setter then "invalid setter" else "invalid getter"
  | circularPrototype => "circular prototype chain"
  | untouchable => "invalid property access"
  | invalidLength => "invalid array length"
  | invalidIndex => "invalid array index"
  | outOfBounds => "out-of-bound index in typed array"
  | writtenOutOfBounds => "out-of-bound numeric index"
  | fractionalElement => "non integer index in typed array"
  | negativeElement => "negative index in typed array"
  | invalidElementFlags => "invalid descriptor flags"
  | invalidRadix => "radix must be between 2 and 36"
  | malformedEscape => "malformed UTF-8"
  | stackOverflow => "stack overflow"
  | redeclaration name => "redeclaration of " ++ quotedName name
  | cannotDefine name => "cannot define variable " ++ quotedName name
  | form f => f.message
  | text t => textMessage t
  | tooFewArguments given required =>
    Units.ofString ("Error calling function with " ++ toString given ++ " argument(s) while " ++
      toString required ++ " where expected")
  | conversion c => c.message
  | nullHandle => "light handle 0 is not valid"
  | scene f => f.message
  | sceneBeingModified => "scene is being modified by the host"
  | sceneBorrowed => "scene is borrowed by the host"

/-- The message of the error object: it ends before the first NUL, and is cut where it grows too long. -/
def message (f : Fault) : Units := ⟨fitBytes messageBytes f.fullMessage.beforeNul.list⟩

end Fault

end ScriptedScene.Guest
