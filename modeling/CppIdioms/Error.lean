import CppIdioms.Fault
import CppIdioms.Text.Quoted
import CppIdioms.Tree.Span

/-!
# Errors

What a reader, a registry or an analysis reports when it cannot give an answer, by cause. The
wording is fixed in one place, `Error.message`.

## Contents

* `DumpError`: a dump that is not a tree.
* `SettingsError`: settings that cannot be used.
* `ClosedUse`: the two uses of a collector that is already closed.
* `Error`: all causes together; `Error.message`: their wording.
-/

namespace CppIdioms

open CppIdioms.Text

/-- Why a dump is not a tree (`SyntaxModelError`). -/
inductive DumpError where
  /-- A value of another type stands where a node is expected. -/
  | notANode (typeName : String)
  | missingKind
  | badLocation (text : String)
  /-- The children of a node of this kind are not sorted by role. -/
  | badChildren (kind : String)
  | badAttributes (kind : String)
  | notFound (path : String)
  | notAMapping (path : String)
  deriving DecidableEq, Repr

/-- The wording of a dump error. -/
def DumpError.message : DumpError → String
  | .notANode typeName => "Expected a node mapping, got " ++ typeName
  | .missingKind => "Node mapping is missing 'kind'"
  | .badLocation text => "Malformed location " ++ quoted text
  | .badChildren kind => "'children' of " ++ kind ++ " must be a mapping"
  | .badAttributes kind => "'attrs' of " ++ kind ++ " must be a mapping"
  | .notFound path => "Syntax model dump not found: " ++ path
  | .notAMapping path => "Syntax model at " ++ path ++ " is not a mapping"

/-- Why settings cannot be used (`ConfigError`). -/
inductive SettingsError where
  | notAMapping
  | rulesNotAMapping
  | notAnInteger (key : String)
  | negative (key : String)
  | tooFewBranches
  | badExclusions
  | noWorkers
  deriving DecidableEq, Repr

/-- The wording of a settings error. -/
def SettingsError.message : SettingsError → String
  | .notAMapping => "Configuration must be a mapping"
  | .rulesNotAMapping => "'rules' must be a mapping"
  | .notAnInteger key => key ++ " must be an integer"
  | .negative key => key ++ " must not be negative"
  | .tooFewBranches => "rules.min_else_if_branches must be at least 2"
  | .badExclusions => "'exclude' must be a list of rule ids"
  | .noWorkers => "max_workers must be positive"

/-- What was asked of a collector after it was closed (`CollectorClosedError`). -/
inductive ClosedUse where
  | adding
  | finalizing
  deriving DecidableEq, Repr

/-- Why there is no answer (`IdiomLintError`). -/
inductive Error where
  | dump (cause : DumpError)
  | settings (cause : SettingsError)
  | duplicateRule (id : String)
  | catalogFrozen (id : String)
  | collectorClosed (use : ClosedUse)
  | cancelled (file : String)
  /-- The type or reference asked for is not known at this place. -/
  | unresolved (what : String) (place : Span)
  /-- The text is not a document of the data format. -/
  | malformedDocument
  | fault (cause : Fault)
  deriving DecidableEq, Repr

/-- The wording of an error; what has none is empty. -/
def Error.message : Error → String
  | .dump cause => cause.message
  | .settings cause => cause.message
  | .duplicateRule id => "Rule " ++ quoted id ++ " is already registered"
  | .catalogFrozen id => "Cannot register " ++ id ++ ": catalog is frozen"
  | .collectorClosed .adding => "Cannot add findings after finalize()"
  | .collectorClosed .finalizing => "finalize() may only be called once"
  | .cancelled file => "Analysis of " ++ file ++ " was cancelled"
  | .unresolved what place => "Unresolved " ++ what ++ " at " ++ place.text
  | .malformedDocument => ""
  | .fault _ => ""

end CppIdioms
