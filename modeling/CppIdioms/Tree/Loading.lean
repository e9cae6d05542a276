import CppIdioms.Files.Store
import CppIdioms.Tree.Dump

/-!
# Trees in files

## Contents

* `Node.load`: the tree whose dump is kept in a file.
-/

namespace CppIdioms

open CppIdioms.Files

/-- The tree whose dump is kept in a file (`load_syntax_model`). The dump may name the source file;
else the path stands for it. What the text of a file is read as is left to `read`. -/
def Node.load (read : String → Except Error Value) (store : Store) (path : String) :
    Except Error Node :=
  match store.readDocument read (Path.ofText path) with
  | .error e => .error e
  | .ok .null => .error (.dump (.notFound path))
  | .ok (.map fields) =>
    Node.ofDump (.map fields) ((Entries.find fields "file").orElse (.str path)).text
  | .ok _ => .error (.dump (.notAMapping path))

end CppIdioms
