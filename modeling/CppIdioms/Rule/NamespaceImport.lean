import CppIdioms.Rule.Basic

/-!
# Namespace-wide imports

Every `using namespace` directive is reported; at file scope the message says so.

## Contents

* `namespaceImportRule`, `namespaceImport`: the rule and its detector.
-/

namespace CppIdioms.Rules

/-- Avoid importing all names of a namespace. -/
def namespaceImportRule : Rule where
  id := "R01"
  title := "Avoid wildcard namespace imports"
  rationale := "'using namespace' pulls every name of a namespace into the current scope. "
    ++ "Names that collide with local declarations or with other imported namespaces "
    ++ "become ambiguous or silently resolve to the wrong entity. Import the individual "
    ++ "names you need ('using std::string;') or qualify them."
  severity := .warning
  kinds := [.namespaceUsingDirective]

/-- What the directive imports. -/
def importedNames (n : Node) : String :=
  match n.called? "namespace" with
  | some name => "'using namespace " ++ name ++ "' imports every name of '" ++ name
      ++ "' into this scope"
  | none => "namespace-wide using directive imports every name of the namespace into this scope"

/-- The directive stands outside all functions, records and namespaces. -/
def atFileScope (c : Cursor) : Bool :=
  c.scope == .inNamespace && (c.nearest? [.namespaceDecl]).isNone

/-- Report the directive (`UsingNamespaceDetector`). -/
def namespaceImport : Detector where
  rule := namespaceImportRule
  inspect c :=
    let note := if atFileScope c then " (file scope: affects every following declaration)" else ""
    .ok [namespaceImportRule.finding c.node (importedNames c.node ++ note)]

end CppIdioms.Rules
