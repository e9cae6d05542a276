import CppIdioms.Fault
import CppIdioms.Text.Upper
import CppIdioms.Value.Compare

/-!
# Log levels and records

Every log record has a level, and a log is kept from a threshold upwards. Thresholds are given by
name, in any case.

## Contents

* `Level`, `Level.name`, `Level.rank`: the levels.
* `threshold?`: the rank that a name stands for.
* `write?`: the record of an event, if the threshold lets it pass.
-/

namespace CppIdioms.Log

open CppIdioms.Text

/-- The level of a log record. -/
inductive Level where
  | debug
  | info
  | warning
  | error
  | critical
  deriving DecidableEq, Repr, Inhabited

namespace Level

/-- The levels, lowest first. -/
def all : List Level := [.debug, .info, .warning, .error, .critical]

/-- The name of a level in records. -/
def name : Level → String
  | .debug => "debug"
  | .info => "info"
  | .warning => "warning"
  | .error => "error"
  | .critical => "critical"

/-- The level of a given name. -/
def ofName? (name : String) : Option Level := all.find? (·.name == name)

/-- How weighty a level is. -/
def rank : Level → Nat
  | .debug => 10
  | .info => 20
  | .warning => 30
  | .error => 40
  | .critical => 50

end Level

/-- The names of thresholds with their ranks; some ranks have two names, and the lowest lies below
every level. -/
def thresholds : List (String × Nat) :=
  [("CRITICAL", 50), ("FATAL", 50), ("ERROR", 40), ("WARNING", 30), ("WARN", 30), ("INFO", 20),
   ("DEBUG", 10), ("NOTSET", 0)]

/-- The rank that the name of a threshold stands for, in any case (`configure_logging`). -/
def threshold? (name : String) : Option Nat := thresholds.lookup (upper name)

/-- The message about a name that is no threshold. -/
def unknownThreshold (name : String) : String := "Unknown log level: " ++ name

/-! ## §1 Records -/

/-- A threshold lets a level pass. -/
def passes (threshold : Nat) (level : Level) : Bool := threshold ≤ level.rank

/-- The record of an event: its fields, and in their place or after them what happened and the
level. -/
def record (level : Level) (event : Value) (fields : Entries) : Entries :=
  let fields :=
    match event with
    | .null => fields
    | _ => fields.put (.str "event") event
  fields.put (.str "level") (.str level.name)

/-- The record of an event, if the threshold lets it pass. The logger has a use of its own for
some names, which fields cannot take. -/
def write? (threshold : Nat) (level : Level) (event : Value) (fields : Entries) :
    Except Fault (Option Entries) :=
  if fields.hasKey "self" || fields.hasKey "event" then .error .wrongType
  else if !passes threshold level then .ok none
  else if fields.hasKey "method_name" then .error .wrongType
  else .ok (some (record level event fields))

end CppIdioms.Log
