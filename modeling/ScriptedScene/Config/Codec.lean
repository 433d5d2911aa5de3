import ScriptedScene.Config.Basic
import ScriptedScene.Json.Typed

/-!
Configurations as JSON text. Every field may be left out, and unknown ones are skipped; the list form
may end early.
-/

namespace ScriptedScene

open Json

namespace Limits

/-- One above the largest limit. -/
def bound : Nat := twoTo 64

/-- A limit, or `null` for none. -/
def limitReader : Reader (Option Nat) := Reader.optional (Reader.natural bound "usize")

/-- The limits read so far. -/
structure Fields where
  memory : Option (Option Nat)
  stack : Option (Option Nat)
  collection : Option (Option Nat)

/-- Reads the value of a field; unknown fields are skipped. -/
def Fields.read (key : String) (fields : Fields) : Reader Fields := do
  if key = "memory_limit" then
    return { fields with memory := ← Reader.fieldValue key fields.memory limitReader }
  else if key = "max_stack_size" then
    return { fields with stack := ← Reader.fieldValue key fields.stack limitReader }
  else if key = "gc_threshold" then
    return { fields with collection := ← Reader.fieldValue key fields.collection limitReader }
  else
    Reader.skipField
    return fields

def Fields.finish (fields : Fields) : Limits :=
  ⟨fields.memory.join, fields.stack.join, fields.collection.join⟩

def reader : Reader Limits :=
  Reader.record "struct RuntimeLimits"
    (do return (← Reader.members Fields.read ⟨none, none, none⟩).finish)
    (do
      let memory ← Reader.element? true limitReader
      let stack ← Reader.element? memory.isNone limitReader
      let collection ← Reader.element? stack.isNone limitReader
      return Fields.finish ⟨memory, stack, collection⟩)

def toJson (l : Limits) : String :=
  object [
    ("memory_limit", optional toString l.memory),
    ("max_stack_size", optional toString l.stack),
    ("gc_threshold", optional toString l.collection)]

end Limits

namespace Config

/-- The fields read so far. -/
structure Fields where
  scope : Option String
  hook : Option String
  globalConsole : Option Bool
  limits : Option Limits

/-- Reads the value of a field; unknown fields are skipped. -/
def Fields.read (key : String) (fields : Fields) : Reader Fields := do
  if key = "namespace" then
    return { fields with scope := ← Reader.fieldValue key fields.scope (Reader.text "a string") }
  else if key = "update_hook" then
    return { fields with hook := ← Reader.fieldValue key fields.hook (Reader.text "a string") }
  else if key = "console_global" then
    return { fields with
      globalConsole := ← Reader.fieldValue key fields.globalConsole Reader.boolean }
  else if key = "limits" then
    return { fields with limits := ← Reader.fieldValue key fields.limits Limits.reader }
  else
    Reader.skipField
    return fields

/-- What was not given is as in the default configuration. -/
def Fields.finish (fields : Fields) : Config where
  scope := fields.scope.getD default.scope
  hook := fields.hook.getD default.hook
  globalConsole := fields.globalConsole.getD default.globalConsole
  limits := fields.limits.getD default.limits

def reader : Reader Config :=
  Reader.record "struct HostConfig"
    (do return (← Reader.members Fields.read ⟨none, none, none, none⟩).finish)
    (do
      let scope ← Reader.element? true (Reader.text "a string")
      let hook ← Reader.element? scope.isNone (Reader.text "a string")
      let globalConsole ← Reader.element? hook.isNone Reader.boolean
      let limits ← Reader.element? globalConsole.isNone Limits.reader
      return Fields.finish ⟨scope, hook, globalConsole, limits⟩)

def toJson (c : Config) : String :=
  object [
    ("namespace", quote c.scope),
    ("update_hook", quote c.hook),
    ("console_global", boolean c.globalConsole),
    ("limits", c.limits.toJson)]

/-- The configuration that a text holds, if it may be used. -/
def ofJson (text : String) : Except Fault Config :=
  match Reader.run reader text with
  | .error fault => .error (.unparsable fault)
  | .ok c =>
    match c.validate with
    | .error fault => .error fault
    | .ok () => .ok c

/-- The configuration that a file holds, given what reading the file as text came to. -/
def ofFile (path : String) (content : Except FileFault String) : Except Fault Config :=
  match content with
  | .error cause => .error (.unreadable path cause)
  | .ok text => ofJson text

end Config

end ScriptedScene
