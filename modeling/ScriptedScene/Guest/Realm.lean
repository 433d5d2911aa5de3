import ScriptedScene.Guest.Builtin

/-!
The realm: the global object and the builtins on it, as every machine has them at its start.
-/

namespace ScriptedScene.Guest

namespace Intrinsic

/-- What an object of the realm inherits from. -/
def parent? : Intrinsic → Option Intrinsic
  | objectPrototype => none
  | errorPrototype .error => some objectPrototype
  | errorPrototype _ => some (errorPrototype .error)
  | typedArrayPrototype _ => some elementsPrototype
  | asyncPrototype | generatorFunctionPrototype | forbidden => some functionPrototype
  | _ => some objectPrototype

def role : Intrinsic → Role
  | functionPrototype => .function (.builtin .settle)
  | forbidden => .function (.builtin .forbidden)
  | arrayPrototype => .array 0 true
  | primitivePrototype .boolean => .boxed (.boolean false)
  | primitivePrototype .number => .boxed (.integer 0)
  | primitivePrototype .string => .boxed (.text Units.empty)
  | _ => .plain

/-- The properties that an object has from the start. -/
def properties : Intrinsic → List (Units × Property)
  | primitivePrototype .string => [(Object.lengthKey, .fixed (.integer 0))]
  | _ => []

/-- What the objects that inherit from it are called in their default text. -/
def tag? : Intrinsic → Option String
  | global => some "global"
  | asyncPrototype => some "AsyncFunction"
  | generatorFunctionPrototype => some "GeneratorFunction"
  | typedArrayPrototype t => some t.arrayName
  | primitivePrototype .bigint => some "BigInt"
  | primitivePrototype .symbol => some "Symbol"
  | containerPrototype c => some c.name
  | promisePrototype => some "Promise"
  | generatorPrototype => some "Generator"
  | _ => none

/-- The object at its start. -/
def initial (i : Intrinsic) : Object := ⟨i.parent?.map ref, i.properties, i.role, i.tag?⟩

end Intrinsic

namespace Run

/-- The key under which functions have their names. -/
def nameKey : Units := "name"

/-- The key under which constructors have what their instances inherit from. -/
def prototypeKey : Units := "prototype"

/-- The key under which objects find their constructor. -/
def constructorKey : Units := "constructor"

/-- What functions say of themselves. -/
def functionProperties (name : Units) (arity : Nat) : List (Units × Property) :=
  [(Object.lengthKey, .described (.ofNat arity)), (nameKey, .described (.text name))]

/-- Makes a function object that inherits from one of the realm's. -/
def newFunctionOf (parent : Intrinsic) (f : Callable) (name : Units) (arity : Nat) : Run Ref :=
  alloc ⟨some parent.ref, functionProperties name arity, .function f, none⟩

/-- Makes a function object. -/
def newFunction (f : Callable) (name : Units) (arity : Nat) : Run Ref :=
  newFunctionOf .functionPrototype f name arity

end Run

namespace Realm

open Run

/-- The builtins that are called by a name of the global object and belong to objects of the realm. -/
def classes : List (Builtin × Intrinsic) :=
  [(.object, .objectPrototype), (.function, .functionPrototype), (.array, .arrayPrototype),
    (.date, .datePrototype), (.pattern, .patternPrototype), (.promise, .promisePrototype)] ++
  Primitive.all.map (fun p => (.primitive p, .primitivePrototype p)) ++
  ErrorClass.all.map (fun c => (.error c, .errorPrototype c)) ++
  ElementType.all.map (fun t => (.typedArray t, .typedArrayPrototype t)) ++
  Container.all.map fun c => (.container c, .containerPrototype c)

/-- The methods of the realm's objects. -/
def methods : List (Intrinsic × List Builtin) :=
  [(.objectPrototype,
      [.objectToString, .objectToLocaleString, .objectValueOf, .objectHasOwnProperty, .objectIsPrototypeOf,
        .objectPropertyIsEnumerable, .objectDefineAccessor false, .objectDefineAccessor true,
        .objectLookupAccessor false, .objectLookupAccessor true]),
    (.functionPrototype, [.functionToString, .functionCall, .functionApply]),
    (.arrayPrototype, [.arrayJoin, .arrayToString]),
    (.elementsPrototype, [.arrayJoin, .arrayToString]),
    (.errorPrototype .error, [.errorToString]),
    (.global, [.isNaN, .isFinite, .parseInteger, .parseNumber, .evaluate] ++ Escaping.all.map .escape ++
      Escaping.all.map .unescape)] ++
  Primitive.all.map fun p => (.primitivePrototype p, [.primitiveToString p, .primitiveValueOf p])

/-- The functions of the objects that are reached by a name of the global object. -/
def functionsOf : Builtin → List Builtin
  | .object => [.objectKeys, .objectCreate, .objectDefineProperty, .objectPrototypeOf, .objectSetPrototypeOf]
  | .array => [.arrayIsArray]
  | _ => []

def newBuiltin (b : Builtin) : Run Ref := newFunction (.builtin b) (.ofString b.name) b.arity

/-- Puts a builtin onto an object. -/
def install (holder : Ref) (b : Builtin) : Run Unit := do
  putOwn holder (.ofString b.name) (.hidden (.object (← newBuiltin b)))

/-- Puts a list of builtins onto an object. -/
def installAll (holder : Ref) : List Builtin → Run Unit
  | [] => return ()
  | b :: rest => do
    install holder b
    installAll holder rest

/-- Makes a class known by its name, and tied to the object that its instances inherit from. -/
def installClass (b : Builtin) (prototype : Intrinsic) : Run Unit := do
  let r ← newBuiltin b
  installAll r (functionsOf b)
  putOwn r prototypeKey (.fixed (intrinsic prototype))
  putOwn prototype.ref constructorKey (.hidden (.object r))
  putOwn (Intrinsic.ref .global) (.ofString b.name) (.hidden (.object r))

/-- What the instances of a class of errors inherit. -/
def describeErrors (c : ErrorClass) : Run Unit := do
  putOwn (Intrinsic.ref (.errorPrototype c)) nameKey (.hidden (.ofString c.name))
  putOwn (Intrinsic.ref (.errorPrototype c)) messageKey (.hidden (.text Units.empty))

/-- A global object that only holds functions. -/
def installHolder (name : String) (functions : List Builtin) : Run Unit := do
  let r ← alloc ⟨some (Intrinsic.ref .objectPrototype), [], .plain, some name⟩
  installAll r functions
  putOwn (Intrinsic.ref .global) (.ofString name) (.hidden (.object r))

/-- Properties that are computed by builtins. -/
def installComputed : Run Unit := do
  let getter ← newBuiltin .prototypeGetter
  let setter ← newBuiltin .prototypeSetter
  putOwn (Intrinsic.ref .objectPrototype) "__proto__" (.computed (some getter) (some setter))
  let count ← newBuiltin .elementCount
  putOwn (Intrinsic.ref .elementsPrototype) Object.lengthKey (.computed (some count) none)
  let description ← newBuiltin .symbolDescription
  putOwn (Intrinsic.ref (.primitivePrototype .symbol)) "description" (.computed (some description) none)
  let secret := some (← newBuiltin .functionSecret)
  let forbidden := some (Intrinsic.ref .forbidden)
  putOwn (Intrinsic.ref .functionPrototype) "caller" (.computed secret forbidden)
  putOwn (Intrinsic.ref .functionPrototype) "arguments" (.computed secret forbidden)

/-- Makes everything that a realm has, the objects at known places first. -/
def build : Run Unit := do
  let _ ← each (fun i => alloc i.initial) Intrinsic.all
  let _ ← each (fun (b, i) => installClass b i) classes
  let _ ← each (fun (i, bs) => installAll i.ref bs) methods
  let _ ← each describeErrors ErrorClass.all
  installHolder "Math" [.minimum]
  installHolder "JSON" []
  installHolder "Reflect" []
  installHolder "Atomics" []
  installComputed
  let global := Intrinsic.ref .global
  putOwn global "globalThis" (.hidden (.object global))
  putOwn global "undefined" (.fixed .undefined)
  putOwn global "NaN" (.fixed (.number .nan))
  putOwn global "Infinity" (.fixed (.number (.infinity false)))

/-- A machine on which nothing was built. -/
def blank : Machine := ⟨⟨#[], #[], [], 0⟩, .empty, #[], .new⟩

/-- The memory of every machine at its start. -/
def memory : Memory := (build.run (.silent .free) blank).2.memory

end Realm

/-- A machine at its start, with the given scene. -/
def Machine.new (scene : Store) : Machine := ⟨Realm.memory, scene, #[], .new⟩

end ScriptedScene.Guest
