import ScriptedScene.Guest.Value

/-!
What every realm has, by name: classes of errors, of lists and of other objects, the functions, and the objects
at known places.
-/

namespace ScriptedScene.Guest

/-- The classes of error objects. -/
inductive ErrorClass where
  | error
  | evalError
  | rangeError
  | referenceError
  | syntaxError
  | typeError
  | uriError
  | internalError
  /-- An error that stands for a list of others. -/
  | aggregateError
  deriving DecidableEq, Repr

namespace ErrorClass

def all : List ErrorClass :=
  [error, evalError, rangeError, referenceError, syntaxError, typeError, uriError, internalError,
    aggregateError]

def name : ErrorClass → String
  | error => "Error"
  | evalError => "EvalError"
  | rangeError => "RangeError"
  | referenceError => "ReferenceError"
  | syntaxError => "SyntaxError"
  | typeError => "TypeError"
  | uriError => "URIError"
  | internalError => "InternalError"
  | aggregateError => "AggregateError"

end ErrorClass

/-- The element types of typed arrays. -/
inductive ElementType where
  | int8
  | uint8
  /-- Whole numbers of 8 bits without a sign; what is outside of the range becomes the nearest bound. -/
  | clamped8
  | int16
  | uint16
  | int32
  | uint32
  | float32
  | float64
  deriving DecidableEq, Repr

namespace ElementType

def all : List ElementType := [int8, uint8, clamped8, int16, uint16, int32, uint32, float32, float64]

/-- The name of the arrays of a type. -/
def arrayName : ElementType → String
  | int8 => "Int8Array"
  | uint8 => "Uint8Array"
  | clamped8 => "Uint8ClampedArray"
  | int16 => "Int16Array"
  | uint16 => "Uint16Array"
  | int32 => "Int32Array"
  | uint32 => "Uint32Array"
  | float32 => "Float32Array"
  | float64 => "Float64Array"

end ElementType

/-- Classes of which a realm knows no more than that they are there. An instance holds nothing of what it is made of; one
of `Proxy` does not stand for the object that it is made around, and asks no handler. -/
inductive Container where
  | map
  | set
  | weakMap
  | weakSet
  | arrayBuffer
  | sharedArrayBuffer
  | bigInt64Array
  | bigUint64Array
  | dataView
  | proxy
  deriving DecidableEq, Repr

namespace Container

def all : List Container :=
  [map, set, weakMap, weakSet, arrayBuffer, sharedArrayBuffer, bigInt64Array, bigUint64Array, dataView, proxy]

def name : Container → String
  | map => "Map"
  | set => "Set"
  | weakMap => "WeakMap"
  | weakSet => "WeakSet"
  | arrayBuffer => "ArrayBuffer"
  | sharedArrayBuffer => "SharedArrayBuffer"
  | bigInt64Array => "BigInt64Array"
  | bigUint64Array => "BigUint64Array"
  | dataView => "DataView"
  | proxy => "Proxy"

/-- Whether instances are made around an object that has to be given. -/
def wrapsObject : Container → Bool
  | dataView | proxy => true
  | _ => false

end Container

/-- The types of primitives that objects can be made for. -/
inductive Primitive where
  | boolean
  | number
  | bigint
  | string
  | symbol
  deriving DecidableEq, Repr

namespace Primitive

def all : List Primitive := [boolean, number, bigint, string, symbol]

/-- The name of the class of objects for a type. -/
def className : Primitive → String
  | boolean => "Boolean"
  | number => "Number"
  | bigint => "BigInt"
  | string => "String"
  | symbol => "Symbol"

/-- What a value of the type is called. -/
def noun : Primitive → String
  | boolean => "boolean"
  | number => "number"
  | bigint => "bigint"
  | string => "string"
  | symbol => "symbol"

end Primitive

/-- The type of a primitive. -/
def Value.primitive? : Value → Option Primitive
  | .boolean _ => some .boolean
  | .integer _ | .number _ => some .number
  | .bigint _ => some .bigint
  | .text _ => some .string
  | .symbol _ _ => some .symbol
  | .undefined | .null | .object _ => none

/-- The ways to write a text with escapes, and to read it. -/
inductive Escaping where
  /-- Bytes in hexadecimal after a percent sign. -/
  | component
  /-- As `component`; the characters that separate the parts of an address are kept. -/
  | address
  /-- Units in hexadecimal after a percent sign. -/
  | units
  deriving DecidableEq, Repr

namespace Escaping

def all : List Escaping := [component, address, units]

end Escaping

/-- The functions that every realm has. Not all of them are told in full; some are there only for guests to find. -/
inductive Builtin where
  | object
  /-- Makes a function with an empty body, also if it is given the text of another body. -/
  | function
  | error (c : ErrorClass)
  | array
  | typedArray (t : ElementType)
  | container (c : Container)
  | primitive (p : Primitive)
  /-- Dates know no time. -/
  | date
  /-- Patterns match nothing. -/
  | pattern
  | promise
  /-- Hands back what it is given, as the engine does with all but texts; a text is handed back too, and not run. -/
  | evaluate
  | objectKeys
  | objectCreate
  | objectDefineProperty
  | objectPrototypeOf
  | objectSetPrototypeOf
  | objectToString
  | objectToLocaleString
  | objectValueOf
  | objectHasOwnProperty
  | objectIsPrototypeOf
  | objectPropertyIsEnumerable
  /-- Defines a getter, or a setter. -/
  | objectDefineAccessor (setter : Bool)
  /-- Finds a getter, or a setter. -/
  | objectLookupAccessor (setter : Bool)
  | prototypeGetter
  | prototypeSetter
  | functionToString
  | functionCall
  | functionApply
  /-- What stands for the properties that nothing may touch. -/
  | forbidden
  /-- What a function says of its call: nothing, and strict functions do not even say that. -/
  | functionSecret
  | errorToString
  | arrayIsArray
  | arrayJoin
  | arrayToString
  | elementCount
  | primitiveToString (p : Primitive)
  | primitiveValueOf (p : Primitive)
  | symbolDescription
  | isNaN
  | isFinite
  | parseInteger
  | parseNumber
  | escape (e : Escaping)
  | unescape (e : Escaping)
  | minimum
  /-- Ends a promise. What waits for promises never runs, so it does nothing. -/
  | settle
  deriving DecidableEq, Repr

/-- The methods of the console module. -/
inductive ConsoleMethod where
  | log
  | info
  | debug
  | warn
  | error
  deriving DecidableEq, Repr

/-- The functions of the light module. -/
inductive LightFunction where
  | create
  | find
  | getKind
  | getColor
  | setColor
  | getIntensity
  | setIntensity
  | count
  deriving DecidableEq, Repr

/-- The functions that a host gives to its guests. -/
inductive HostFunction where
  | console (method : ConsoleMethod)
  | light (function : LightFunction)
  /-- A function that answers with one number. -/
  | constant (name : Units) (value : Int)
  /-- A function of the embedder, which may make calls to the host and answers with a number. -/
  | embedder (name : Units)
  deriving DecidableEq, Repr

/-- The objects that every realm has, at the same places in all of them. -/
inductive Intrinsic where
  | global
  | objectPrototype
  | functionPrototype
  | asyncPrototype
  | generatorFunctionPrototype
  | arrayPrototype
  /-- What all typed arrays inherit. -/
  | elementsPrototype
  | typedArrayPrototype (t : ElementType)
  | errorPrototype (c : ErrorClass)
  | primitivePrototype (p : Primitive)
  | containerPrototype (c : Container)
  | datePrototype
  | patternPrototype
  | promisePrototype
  | generatorPrototype
  /-- The function behind what nothing may touch. -/
  | forbidden
  deriving DecidableEq, Repr

namespace Intrinsic

def all : List Intrinsic :=
  [global, objectPrototype, functionPrototype, asyncPrototype, generatorFunctionPrototype, arrayPrototype,
    elementsPrototype] ++
    ElementType.all.map typedArrayPrototype ++ ErrorClass.all.map errorPrototype ++
    Primitive.all.map primitivePrototype ++ Container.all.map containerPrototype ++
    [datePrototype, patternPrototype, promisePrototype, generatorPrototype, forbidden]

/-- The place of an object that every realm has. -/
def ref (i : Intrinsic) : Ref := ⟨all.idxOf i⟩

end Intrinsic

end ScriptedScene.Guest
