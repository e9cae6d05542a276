import CppIdioms.Error
import CppIdioms.Settings.Basic

/-!
# Settings as data

Settings are written as a mapping, with the settings of rules in a mapping of their own. Whatever is
not set keeps its default.

## Contents

* `wholeSetting`: a setting that is a natural number.
* `exclusions`: the rules that are left out, one or several.
* `Settings.ofEntries`, `Settings.ofData`: the settings that data describe.
-/

namespace CppIdioms

/-- The whole number that a setting denotes (`_positive_int`); it must not be negative. A truth value
is no number here, and a number that is too large to be whole is a fault of its own. -/
def wholeSetting (key : String) (value : Value) : Except Error Nat :=
  match value with
  | .bool _ => .error (.settings (.notAnInteger key))
  | _ =>
    match value.toInt with
    | .error .overflow => .error (.fault .overflow)
    | .error _ => .error (.settings (.notAnInteger key))
    | .ok (.ofNat n) => .ok n
    | .ok (.negSucc _) => .error (.settings (.negative key))

/-- The rules that are left out: one, or the items of a list or set. -/
def exclusions (value : Value) : Except Error (List Value) :=
  if !value.isTrue then .ok []
  else
    match value with
    | .str s => .ok [.str s]
    | .list ids => .ok ids
    | .set ids => .ok ids
    | _ => .error (.settings .badExclusions)

/-- The number of workers, if it is set: at least one. -/
def workerSetting (value : Value) : Except Error Value :=
  match value with
  | .null => .ok .null
  | _ =>
    match wholeSetting "max_workers" value with
    | .error e => .error e
    | .ok 0 => .error (.settings .noWorkers)
    | .ok n => .ok (.int n)

/-- The settings of rules that a mapping describes: the least number of branches, at least two, and
the size threshold. -/
def ruleSettings (rules : Entries) : Except Error (Nat × Nat) :=
  let setting (key : String) (default : Int) : Except Error Nat :=
    wholeSetting ("rules." ++ key) ((Entries.get? key rules).getD (.int default))
  match setting "min_else_if_branches" 4 with
  | .error e => .error e
  | .ok branches =>
    if branches < 2 then .error (.settings .tooFewBranches)
    else (setting "trivial_size_threshold" 16).map fun size => (branches, size)

namespace Settings

/-- The settings that a mapping describes. -/
def ofEntries (entries : Entries) : Except Error Settings :=
  let rules : Except Error Entries :=
    match entries.find "rules" with
    | .map rules => .ok rules
    | v => if v.isTrue then .error (.settings .rulesNotAMapping) else .ok []
  match rules.bind ruleSettings with
  | .error e => .error e
  | .ok (branches, size) =>
    match exclusions (entries.find "exclude") with
    | .error e => .error e
    | .ok ids =>
      match workerSetting (entries.find "max_workers") with
      | .error e => .error e
      | .ok workers =>
        ((normalize ids).mapError .fault).map fun excluded =>
          ⟨.int branches, .int size, excluded, workers⟩

/-- The settings that a value describes (`parse_config`): only a mapping does. -/
def ofData (value : Value) : Except Error Settings :=
  match value with
  | .map entries => ofEntries entries
  | _ => .error (.settings .notAMapping)

end Settings

end CppIdioms
