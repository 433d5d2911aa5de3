/-!
The log: records of a level, a target and a message, in the order they were made.
-/

namespace ScriptedScene

/-- How much a record matters, from least to most. -/
inductive LogLevel where
  | debug
  | info
  | warn
  | error
  deriving DecidableEq, Repr

namespace LogLevel

/-- The place of a level in the order. -/
def rank : LogLevel → Nat
  | debug => 0
  | info => 1
  | warn => 2
  | error => 3

instance : Ord LogLevel := ⟨fun a b => compare a.rank b.rank⟩

def name : LogLevel → String
  | debug => "debug"
  | info => "info"
  | warn => "warn"
  | error => "error"

def all : List LogLevel := [debug, info, warn, error]

def ofName? (s : String) : Option LogLevel := all.find? fun level => level.name = s

end LogLevel

/-- One entry of a log. -/
structure LogRecord where
  level : LogLevel
  target : String
  message : String
  deriving DecidableEq, Repr

/-- The target of everything that guests say and of the reports on their failures. -/
def scriptTarget : String := "script"

/-- A log that keeps its records. -/
structure Log where
  records : Array LogRecord
  deriving DecidableEq, Repr

namespace Log

def empty : Log := ⟨#[]⟩

instance : Inhabited Log := ⟨empty⟩

def emit (log : Log) (record : LogRecord) : Log := ⟨log.records.push record⟩

def append (log : Log) (records : List LogRecord) : Log := ⟨log.records ++ records.toArray⟩

def size (log : Log) : Nat := log.records.size

def isEmpty (log : Log) : Bool := log.records.isEmpty

/-- The records that report an error. -/
def errors (log : Log) : List LogRecord := log.records.toList.filter (·.level = .error)

/-- The records, and the log without them. -/
def drain (log : Log) : List LogRecord × Log := (log.records.toList, empty)

end Log

end ScriptedScene
