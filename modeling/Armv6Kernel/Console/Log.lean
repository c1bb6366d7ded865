/-!
# Log records

A record has a level, the name of the part of the kernel that wrote it, and a message.  A filter
passes the records up to its level, and the console writes each of them on a line of its own.
-/

namespace Armv6Kernel

/-- The importance of a log record, most important first. -/
inductive LogLevel where
  | error
  | warn
  /-- A milestone was reached. -/
  | info
  /-- A detail for whoever looks for a fault. -/
  | debug
  /-- A detail of a single step. -/
  | trace
  deriving DecidableEq, Repr

namespace LogLevel

/-- The rank of the level, one for the most important. -/
def rank : LogLevel → Nat
  | error => 1
  | warn => 2
  | info => 3
  | debug => 4
  | trace => 5

def name : LogLevel → String
  | error => "ERROR"
  | warn => "WARN"
  | info => "INFO"
  | debug => "DEBUG"
  | trace => "TRACE"

end LogLevel

/-- Which records are passed on: none, or those up to a level. -/
structure LogFilter where
  /-- The least important level that passes. -/
  level? : Option LogLevel
  deriving DecidableEq, Repr

namespace LogFilter

def off : LogFilter := ⟨none⟩

/-- Whether records of the level pass. -/
def admits (filter : LogFilter) (level : LogLevel) : Bool :=
  match filter.level? with
  | none => false
  | some least => level.rank ≤ least.rank

def name (filter : LogFilter) : String :=
  match filter.level? with
  | none => "OFF"
  | some least => least.name

end LogFilter

/-- A message to the console. -/
structure LogRecord where
  level : LogLevel
  /-- The part of the kernel that wrote it. -/
  target : String
  message : String
  deriving DecidableEq, Repr

namespace LogRecord

def line (record : LogRecord) : String :=
  "[" ++ record.level.name ++ "] " ++ record.target ++ ": " ++ record.message ++ "\n"

/-- What the console writes for a record behind a filter. -/
def written (filter : LogFilter) (record : LogRecord) : String :=
  if filter.admits record.level then record.line else ""

end LogRecord

/-- What the console writes for a run of records behind a filter. -/
def consoleText (filter : LogFilter) (records : List LogRecord) : String :=
  String.join (records.map (·.written filter))

end Armv6Kernel
