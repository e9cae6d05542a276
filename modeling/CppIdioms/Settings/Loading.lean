import CppIdioms.Files.Store
import CppIdioms.Log.Event
import CppIdioms.Settings.Reading

/-!
# Settings in files

Settings are kept in a document, in a file of their own or in a file of one of the usual names in a
directory. How the text of a document is read is a parameter, `read`.

## Contents

* `Settings.ofText`, `Settings.ofContent`: settings from the text of a document, and from a value that
  may be such a text.
* `settingsNames`: the usual names of settings files.
* `Settings.load`: settings by path.
-/

namespace CppIdioms

open CppIdioms.Files

/-- A value, or an empty mapping in place of one that counts as false. -/
def orNoEntries (v : Value) : Value := v.orElse (.map [])

/-- The names of settings files in a directory; the first that is there counts (`CONFIG_NAMES`). -/
def settingsNames : List String := [".idiomlint.yml", ".idiomlint.yaml", "idiomlint.yml"]

namespace Settings

section Reader

variable (read : String → Except Error Value)

/-- The settings that the text of a document describes (`parse_config` of a text). -/
def ofText (text : String) : Except Error Settings :=
  (read text).bind fun v => ofData (orNoEntries v)

/-- The settings that a value describes; a text is the text of a document (`parse_config`). -/
def ofContent (value : Value) : Except Error Settings :=
  match value with
  | .str text => ofText read text
  | _ => ofData value

/-- The settings in a file. -/
def ofFile (store : Store) (p : Path) : Except Error Settings :=
  (store.readDocument read p).bind fun v => ofContent read (orNoEntries v)

end Reader

/-- The settings file that a path stands for: itself, or the first of the usual names below it. -/
def locate? (store : Store) (p : Path) : Option Path :=
  if store.isFile p then some p
  else (settingsNames.map p.join).find? fun q => (store.item? q).isSome

/-- The settings that a path stands for, the defaults if there are none, and what is told about it
(`load_config`). -/
def load (read : String → Except Error Value) (store : Store) (path : String) :
    Except Error Settings × List Event :=
  let p := Path.ofText path
  match locate? store p with
  | some q => (ofFile read store q, [.settingsFound q.text])
  | none => (.ok {}, [.noSettings p.text])

end Settings

end CppIdioms
