import CppIdioms.Error
import CppIdioms.Files.Path
import CppIdioms.Value.Basic

/-!
# Files

The files and directories below a working directory, by their paths.

## Contents

* `Item`, `Store`: what stands at a path.
* `Store.item?`: looking up a path.
* `Store.readDocument`: the value of the document in a file.
-/

namespace CppIdioms.Files

/-- What stands at a path. -/
inductive Item where
  | file (text : String)
  | directory
  deriving DecidableEq, Repr, Inhabited

/-- Files and directories below a working directory, by their steps from it. -/
structure Store where
  items : List (List String × Item)
  deriving Inhabited

namespace Store

/-- The files of a working directory by name; a name without a text is a directory. -/
def ofNames (names : List (String × Option String)) : Store :=
  ⟨names.map fun (name, text) => ((Path.ofText name).steps, (text.map .file).getD .directory)⟩

/-- What stands at some steps from the working directory. What lies in a directory implies it. -/
def at? (store : Store) (steps : List String) : Option Item :=
  match store.items.lookup steps with
  | some item => some item
  | none =>
    if steps.isEmpty || store.items.any (fun (s, _) => steps.isPrefixOf s) then some .directory
    else none

/-- Follow steps from a place below the working directory, given by its steps, last first. Nothing is
known of what lies above the working directory but that it is there. -/
def follow (store : Store) : List String → List String → Option Item
  | place, [] => store.at? place.reverse
  | place, step :: steps =>
    if store.at? place.reverse ≠ some .directory then none
    else if step ≠ ".." then store.follow (step :: place) steps
    else
      match place with
      | _ :: place => store.follow place steps
      | [] => if steps.all (· == "..") then some .directory else none

/-- What stands at a path. -/
def item? (store : Store) (p : Path) : Option Item :=
  if p.rooted then (if p.steps.isEmpty then some .directory else none)
  else store.follow [] p.steps

/-- A file stands at a path. -/
def isFile (store : Store) (p : Path) : Bool :=
  match store.item? p with
  | some (.file _) => true
  | _ => false

/-- The text of a file as it is read: every end of a line is a line feed. -/
def readText : List Char → List Char
  | [] => []
  | '\r' :: '\n' :: cs => '\n' :: readText cs
  | c :: cs => (if c == '\r' then '\n' else c) :: readText cs

/-- The value of the document in a file (`read_yaml_file`), nothing if there is no file; a directory
cannot be read. What a text is read as is left to `read`. -/
def readDocument (read : String → Except Error Value) (store : Store) (p : Path) :
    Except Error Value :=
  match store.item? p with
  | none => .ok .null
  | some .directory => .error (.fault .isDirectory)
  | some (.file text) => read (String.ofList (readText text.toList))

end Store

end CppIdioms.Files
