/-!
# Faults

The ways in which a step cannot be carried out on the data it is given, as distinct from the
errors that a reader or an analysis reports about its input.

## Contents

* `Fault`: one constructor for each cause.
-/

namespace CppIdioms

/-- Why a step could not be carried out. -/
inductive Fault where
  /-- A value of this type does not take part in the operation. -/
  | wrongType
  /-- The type is right and the value is not. -/
  | badValue
  /-- The value is too large for the result. -/
  | overflow
  /-- Nothing is stored under this key. -/
  | missingKey
  /-- A text or list is shorter than the operation needs. -/
  | outOfBounds
  /-- The operation asks for a part that the value does not have. -/
  | missingPart
  /-- A directory stands where a file is read. -/
  | isDirectory
  deriving DecidableEq, Repr, Inhabited

end CppIdioms
