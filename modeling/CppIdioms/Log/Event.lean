import CppIdioms.Log.Level

/-!
# Events of an analysis

What an analysis tells about itself while it runs: the settings it found, the rules it was told to
leave out, and what happened to its detectors.

## Contents

* `Event`: the events, by cause.
* `Event.text`, `Event.level`, `Event.fields`: an event as a log record.
-/

namespace CppIdioms

open CppIdioms.Log

/-- Something that happened on the way to a report. -/
inductive Event where
  | catalogBuilt (rules : Nat)
  /-- Rules were left out that are not in the catalog. -/
  | unknownRules (ids : List String)
  | started (file : String) (excluded : List String)
  | finished (file : String) (nodes findings failures : Nat)
  /-- A detector did not learn from the tree what it needs to know. -/
  | unresolved (rule kind detail : String)
  /-- A detector met data that it cannot handle. -/
  | failed (rule kind location : String)
  | settingsFound (path : String)
  | noSettings (path : String)
  deriving DecidableEq, Repr, Inhabited

namespace Event

/-- What happened. -/
def text : Event → String
  | catalogBuilt _ => "Rule catalog built"
  | unknownRules _ => "Ignoring unknown rule ids"
  | started _ _ => "Analysis started"
  | finished _ _ _ _ => "Analysis finished"
  | unresolved _ _ _ => "Unresolved context"
  | failed _ _ _ => "Detector failed"
  | settingsFound _ => "Loading config"
  | noSettings _ => "No config file found, using defaults"

/-- The level of an event in a log. -/
def level : Event → Level
  | catalogBuilt _ => .debug
  | unknownRules _ => .warning
  | started _ _ => .debug
  | finished _ _ _ _ => .info
  | unresolved _ _ _ => .debug
  | failed _ _ _ => .warning
  | settingsFound _ => .info
  | noSettings _ => .info

/-- A list of texts as a value. -/
def texts (items : List String) : Value := .list (items.map .str)

/-- The particulars of an event. -/
def fields : Event → List (String × Value)
  | catalogBuilt rules => [("rules", .int rules)]
  | unknownRules ids => [("rule_ids", texts ids)]
  | started file excluded => [("file", .str file), ("excluded", texts excluded)]
  | finished file nodes findings failures =>
    [("file", .str file), ("nodes", .int nodes), ("findings", .int findings),
     ("detector_failures", .int failures)]
  | unresolved rule kind detail =>
    [("rule", .str rule), ("node_kind", .str kind), ("detail", .str detail)]
  | failed rule kind location =>
    [("rule", .str rule), ("node_kind", .str kind), ("location", .str location)]
  | settingsFound path => [("config_file", .str path)]
  | noSettings path => [("search_path", .str path)]

end Event

end CppIdioms
