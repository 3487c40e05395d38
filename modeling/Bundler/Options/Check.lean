import Bundler.Engine.Options
import Bundler.Files.System
import Bundler.Options.Issue

/-! # Checking options one by one

Each check turns one option into the form that an engine takes and says what is wrong with it. A
check goes through all of its option, so one bad item hides no other, and what it returns for a bad
item does not matter: with any issue, no engine is asked. -/

set_option autoImplicit false

namespace Bundler

/-- A checked option: the form that an engine takes, and what is wrong. -/
abbrev Checked (α : Type) := α × List Issue

namespace Check

/-- What JSX elements or fragments become. -/
def jsx (role text : String) : Checked (Option (List String)) :=
  if text == "" then (none, [])
  else if Text.isDottedPath text then (some (Text.dottedParts text), [])
  else (none, [.jsx role text])

/-- What one entry of the defines gives: a define or an issue, the key being judged first. -/
def define (key value : String) : Except Issue (String × Replacement) :=
  if !Text.isDottedPath key then .error (.defineKey key)
  else
    match Replacement.parse? value with
    | some replacement => .ok (key, replacement)
    | none => .error (.defineValue value)

/-- The table of the defines. Without entries there is no table, and entries with an issue are left
out. -/
def defines (entries : Dictionary String) : Checked (Option DefineTable) :=
  if entries.isEmpty then (none, [])
  else
    let checked := entries.entries.map fun (key, value) => define key value
    (some (.ofList (checked.filterMap Except.toOption)),
      checked.filterMap fun
        | .ok _ => none
        | .error issue => some issue)

/-- The absolute form of a path. Nothing stays nothing, and a path without an absolute form stays
as it is. -/
def path (fs : FileSystem) (text : String) : Checked String :=
  if text == "" then ("", [])
  else
    match fs.abs text with
    | some absolute => (absolute, [])
    | none => (text, [.path text])

/-- Whether a text is a dot with something behind it. -/
def isExtension (text : String) : Bool :=
  match text.toList with
  | '.' :: _ :: _ => true
  | _ => false

/-- Whether an extension can have a loader: it is a dot with something behind it that has no further
dot. -/
def isLoaderKey (text : String) : Bool := isExtension text && !text.toList.tail.contains '.'

/-- The loaders of a run: the given ones over the usual ones. -/
def loaders (given : Dictionary Loader) : Checked LoaderTable :=
  if given.isEmpty then (.usual, [])
  else
    (.custom (usualLoaders.insertAll given.entries),
      (given.keys.filter fun key => !isLoaderKey key).map .extension)

/-- The extensions to try. -/
def extensions : Option (List String) → Checked (List String)
  | none => (usualExtensions, [])
  | some order => (order, (order.filter fun text => !isExtension text).map .extension)

/-- The modules that stay imports, none of which may be a file. -/
def externals (names : List String) : Checked NameSet :=
  (.ofList names, (names.filter namesFile).map .moduleName)

end Check

end Bundler
