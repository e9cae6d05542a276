/-!
# Kinds of nodes

The kinds of syntax nodes that a dump may hold, each with the name it has there.

## Contents

* `Kind`: the kinds.
* `Kind.name`, `Kind.all`: their names and their list.
* `Kind.ofName?`, `Kind.ofName`: the kind of a given name; names that no kind has are `unknown`.

## Main statements

* `Kind.ofName_name`: a kind is recovered from its name.
-/

namespace CppIdioms

/-- The kind of a syntax node (`NodeKind`). -/
inductive Kind where
  | translationUnit
  | namespaceDecl
  | linkageSpecDecl
  | namespaceUsingDirective
  | recordDecl
  | functionDecl
  | methodDecl
  | constructorDecl
  | lambdaExpr
  | fieldDecl
  | parameterDecl
  | variableDecl
  | rawArrayDecl
  | typedefDecl
  | enumDecl
  | macroObjectLikeDecl
  | macroFunctionLikeDecl
  | compoundStatement
  | exprStatement
  | ifStatement
  | forStatement
  | rangeForStatement
  | iterationVariableBinding
  | whileStatement
  | doStatement
  | switchStatement
  | returnStatement
  | binaryOperator
  | unaryOperator
  | assignmentExpr
  | preIncrementExpr
  | preDecrementExpr
  | postIncrementExpr
  | postDecrementExpr
  | declRefExpr
  | memberExpr
  | literal
  | parenExpr
  | implicitCastExpr
  | cStyleCastExpr
  | callExpr
  | memberCallExpr
  | constructExpr
  | newExpr
  | deleteExpr
  | streamInsertExpr
  | containerIndexExpr
  | errorNode
  | unknown
  deriving DecidableEq, Repr, Inhabited

/-- The name of a kind. -/
def Kind.name : Kind → String
  | .translationUnit => "TranslationUnit"
  | .namespaceDecl => "NamespaceDecl"
  | .linkageSpecDecl => "LinkageSpecDecl"
  | .namespaceUsingDirective => "NamespaceUsingDirective"
  | .recordDecl => "RecordDecl"
  | .functionDecl => "FunctionDecl"
  | .methodDecl => "MethodDecl"
  | .constructorDecl => "ConstructorDecl"
  | .lambdaExpr => "LambdaExpr"
  | .fieldDecl => "FieldDecl"
  | .parameterDecl => "ParameterDecl"
  | .variableDecl => "VariableDecl"
  | .rawArrayDecl => "RawArrayDecl"
  | .typedefDecl => "TypedefDecl"
  | .enumDecl => "EnumDecl"
  | .macroObjectLikeDecl => "MacroObjectLikeDecl"
  | .macroFunctionLikeDecl => "MacroFunctionLikeDecl"
  | .compoundStatement => "CompoundStatement"
  | .exprStatement => "ExprStatement"
  | .ifStatement => "IfStatement"
  | .forStatement => "ForStatement"
  | .rangeForStatement => "RangeForStatement"
  | .iterationVariableBinding => "IterationVariableBinding"
  | .whileStatement => "WhileStatement"
  | .doStatement => "DoStatement"
  | .switchStatement => "SwitchStatement"
  | .returnStatement => "ReturnStatement"
  | .binaryOperator => "BinaryOperator"
  | .unaryOperator => "UnaryOperator"
  | .assignmentExpr => "AssignmentExpr"
  | .preIncrementExpr => "PreIncrementExpr"
  | .preDecrementExpr => "PreDecrementExpr"
  | .postIncrementExpr => "PostIncrementExpr"
  | .postDecrementExpr => "PostDecrementExpr"
  | .declRefExpr => "DeclRefExpr"
  | .memberExpr => "MemberExpr"
  | .literal => "Literal"
  | .parenExpr => "ParenExpr"
  | .implicitCastExpr => "ImplicitCastExpr"
  | .cStyleCastExpr => "CStyleCastExpr"
  | .callExpr => "CallExpr"
  | .memberCallExpr => "MemberCallExpr"
  | .constructExpr => "ConstructExpr"
  | .newExpr => "NewExpr"
  | .deleteExpr => "DeleteExpr"
  | .streamInsertExpr => "StreamInsertExpr"
  | .containerIndexExpr => "ContainerIndexExpr"
  | .errorNode => "ErrorNode"
  | .unknown => "Unknown"

/-- Every kind. -/
def Kind.all : List Kind := [
  .translationUnit, .namespaceDecl, .linkageSpecDecl, .namespaceUsingDirective, .recordDecl,
  .functionDecl, .methodDecl, .constructorDecl, .lambdaExpr, .fieldDecl, .parameterDecl,
  .variableDecl, .rawArrayDecl, .typedefDecl, .enumDecl, .macroObjectLikeDecl,
  .macroFunctionLikeDecl, .compoundStatement, .exprStatement, .ifStatement, .forStatement,
  .rangeForStatement, .iterationVariableBinding, .whileStatement, .doStatement, .switchStatement,
  .returnStatement, .binaryOperator, .unaryOperator, .assignmentExpr, .preIncrementExpr,
  .preDecrementExpr, .postIncrementExpr, .postDecrementExpr, .declRefExpr, .memberExpr, .literal,
  .parenExpr, .implicitCastExpr, .cStyleCastExpr, .callExpr, .memberCallExpr, .constructExpr,
  .newExpr, .deleteExpr, .streamInsertExpr, .containerIndexExpr, .errorNode, .unknown]

/-- The kind that has a given name. -/
def Kind.ofName? (name : String) : Option Kind := Kind.all.find? (·.name == name)

/-- The kind of a given name; a name that no kind has belongs to `unknown` (`lookup`). -/
def Kind.ofName (name : String) : Kind := (Kind.ofName? name).getD .unknown

theorem Kind.mem_all (k : Kind) : k ∈ Kind.all := by
  cases k <;> decide

/-- A kind is recovered from its name. -/
theorem Kind.ofName_name (k : Kind) : Kind.ofName k.name = k := by
  cases k <;> decide

/-! ## §1 Classes of kinds -/

/-- Parentheses and implicit conversions, which the reader of an expression looks through. -/
def Kind.isWrapper (k : Kind) : Bool := k == .parenExpr || k == .implicitCastExpr

/-- The kinds whose inside is local to a function (`FUNCTION_SCOPES`). -/
def Kind.opensLocalScope : Kind → Bool
  | .functionDecl => true
  | .methodDecl => true
  | .constructorDecl => true
  | .lambdaExpr => true
  | .compoundStatement => true
  | _ => false

end CppIdioms
