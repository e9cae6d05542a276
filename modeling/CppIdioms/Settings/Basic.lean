import CppIdioms.Text.Blank
import CppIdioms.Text.Upper
import CppIdioms.Value.Elements
import CppIdioms.Value.Text

/-!
# Settings

The settings of an analysis. Numbers among them are kept as the values that were given, since
settings may also be set one by one, without a check; a detector that cannot use one fails.

## Contents

* `ruleId`: rule ids as they are compared, without blanks around them and in capitals.
* `inOrder`, `normalized`: lists of rule ids in order and without repetition.
* `normalize`: a list of rule ids that is checked first.
* `Settings`, `Settings.ofFields`: settings, and settings set one by one.
-/

namespace CppIdioms

open CppIdioms.Text

/-- A rule id as it is compared: without blanks around it and in capitals. -/
def ruleId (id : Value) : String := upper (String.ofList (trim id.text.toList))

/-- Rule ids in order, each once. -/
def inOrder (ids : List String) : List String := ids.eraseDups.mergeSort fun a b => a ≤ b

/-- Rule ids as they are compared, in order, each once. -/
def normalized (ids : List Value) : List String := inOrder (ids.map ruleId)

/-- Rule ids as they are compared; a number among them may have too many digits to be written. -/
def normalize (ids : List Value) : Except Fault (List String) :=
  if ids.all Value.isWritable then .ok (normalized ids) else .error .badValue

/-- The settings of an analysis (`EngineConfig`). -/
structure Settings where
  /-- The least number of branches of a chain that is reported. -/
  minBranches : Value := .int 4
  /-- Types of more bytes than these count as non-trivial. -/
  sizeThreshold : Value := .int 16
  /-- The rules that are left out, in order, each once. -/
  excluded : List String := []
  /-- The number of files that are analysed at a time. -/
  workers : Value := .null
  deriving Inhabited

namespace Settings

/-- The settings with one of them set. -/
def setField (s : Settings) (key : String) (value : Value) : Except Fault Settings :=
  if key = "min_else_if_branches" then .ok { s with minBranches := value }
  else if key = "trivial_size_threshold" then .ok { s with sizeThreshold := value }
  else if key = "excluded_rules" then
    (value.elements.bind normalize).map fun ids => { s with excluded := ids }
  else if key = "max_workers" then .ok { s with workers := value }
  else .error .wrongType

/-- Settings set one by one, from the defaults. -/
def ofFields (fields : List (String × Value)) : Except Fault Settings :=
  fields.foldlM (fun s (key, value) => s.setField key value) {}

end Settings

end CppIdioms
