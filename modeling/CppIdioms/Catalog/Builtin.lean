import CppIdioms.Catalog.Registry
import CppIdioms.Log.Event
import CppIdioms.Settings.Basic
import CppIdioms.Rule.CastStyle
import CppIdioms.Rule.ConstLocal
import CppIdioms.Rule.CopiedParameter
import CppIdioms.Rule.CopyingLoop
import CppIdioms.Rule.DiscardedPostfix
import CppIdioms.Rule.EmptinessTest
import CppIdioms.Rule.FlushingNewline
import CppIdioms.Rule.ImplicitConversion
import CppIdioms.Rule.MacroConstant
import CppIdioms.Rule.NamespaceImport
import CppIdioms.Rule.NarrowingInit
import CppIdioms.Rule.NullArgument
import CppIdioms.Rule.RawArray
import CppIdioms.Rule.RawOwnership
import CppIdioms.Rule.SignedIndex
import CppIdioms.Rule.SwitchChain
import CppIdioms.Rule.TypedefAlias
import CppIdioms.Rule.UnscopedEnum

/-!
# The catalog of all rules

## Contents

* `builtinDetectors`: the detectors of the eighteen rules, in the order of their ids.
* `Catalog.builtin`: the frozen catalog that holds them.
* `Registry.builtin`: the registry that keeps it.
-/

namespace CppIdioms

open CppIdioms.Rules

/-- The detectors of all rules under given settings (`load_detectors`). -/
def builtinDetectors (s : Settings) : List Detector :=
  [namespaceImport, flushingNewline, switchChain s.minBranches, discardedPostfix, rawArray,
   macroConstant, copyingLoop s.sizeThreshold, signedIndex, nullArgument, narrowingInit, constLocal,
   copiedParameter s.sizeThreshold, castStyle, rawOwnership, typedefAlias, unscopedEnum,
   emptinessTest, implicitConversion]

namespace Catalog

/-- The catalog of all rules under given settings (`build_catalog`). -/
def builtin (s : Settings) : Catalog := ⟨builtinDetectors s, true⟩

/-- What is told when the catalog of all rules is made. -/
def builtinEvent (s : Settings) : Event := .catalogBuilt (builtin s).detectors.length

end Catalog

/-- The registry of all rules under given settings: they are registered one after the other, and
then it is frozen. -/
def Registry.builtin (s : Settings) : Registry :=
  (Registry.changeAll {} ((builtinDetectors s).map .register)).freeze

end CppIdioms
