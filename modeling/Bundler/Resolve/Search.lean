import Bundler.Resolve.Options
import Bundler.Resolve.Target

/-! # The search for a file

Finds the file that an import means, in a tree of files. A path is taken from the directory of the
importing module and may leave out the extension, or name a directory that stands for a file in it.
A name is looked up in the packages installed beside the module and in each directory above it.

In a browser, packages may replace files, and then the search begins anew with what replaces them.
A `Step` is one beginning of the search; `Search.find` joins the steps and bounds their number. -/

set_option autoImplicit false

namespace Bundler.Resolve

/-- What stays the same in a search. -/
structure Search where
  tree : FileTree
  /-- The extensions to try, in order. -/
  extensions : List String
  /-- The conditions that hold for what packages offer. -/
  conditions : List String
  /-- The fields of a description that may name the file of the package, in order. -/
  mainFields : List String
  /-- Whether packages may replace files. -/
  replaces : Bool

/-- The search of a resolver. -/
def Search.of (tree : FileTree) (o : ResolveOptions) : Search :=
  match o.platform with
  | .browser => ⟨tree, o.extensions, ["browser", "import", "default"],
      ["browser", "module", "main"], true⟩
  | .node => ⟨tree, o.extensions, ["node", "import", "require", "default"],
      ["module", "main"], false⟩

/-- One beginning of the search. -/
structure Step extends Search where
  /-- Begins anew with a specifier from a directory. -/
  again : String → String → Outcome

namespace Step

/-! ## Replaced files -/

/-- What a package has for a file, or for a name when there is one. -/
def replacement? (path : String) (name? : Option String) (p : Package) : Option Data :=
  match name? with
  | some name => p.replaced.lookup name
  | none =>
    (p.replaced.find? fun entry => Path.Host.resolve p.directory entry.1 == path).map Prod.snd

/-- Whether a path ends with the segments of a relative one that begins with `./`. -/
def endsWith (path relative : String) : Bool :=
  match relative.toList with
  | '.' :: '/' :: rest =>
    let segments := (Path.Host.components rest).map fun
      | .name segment => String.ofList segment
      | _ => ""
    segments.reverse.isPrefixOf (FileTree.stackOf path)
  | _ => false

/-- Looks at what a package replaces a file by, or a name when there is one. -/
def replaced (s : Step) (path : String) (name? : Option String) (p : Package) : Outcome := do
  if s.replaces then
    match replacement? path name? p with
    | some (.text specifier) =>
      if name? = some specifier then return none
      if (← get).replacement = some specifier then
        if !endsWith path specifier then throw .endless
        if !s.tree.isFile path then throw .notFound
        return some path
      modify ({ · with replacement := some specifier })
      (s.again p.directory specifier).orFail .notFound
    | some (.bool false) => throw .ignored
    | _ => return none
  else return none

/-- Looks at what a file is replaced by. -/
def replacedFile (s : Step) (path : String) : Outcome := do
  if s.replaces then
    match ← nearestPackage s.tree path with
    | some p => s.replaced path none p
    | none => return none
  else return none

/-! ## Files and directories -/

/-- Looks for a file under its whole name. -/
def exactly (s : Step) (path : String) : Outcome :=
  (s.replacedFile path).orTry fun _ => return if s.tree.isFile path then some path else none

/-- Looks for a file under its name without the extension. -/
def extended (s : Step) (path : String) : Outcome :=
  firstOf (fun extension => s.exactly (path ++ extension)) s.extensions

/-- Whether a name has its turn as it is only among the extensions, as the one with an empty
extension. -/
def extensionsOnly (s : Step) : Bool := s.extensions.contains ""

/-- Looks for a file. -/
def asFile (s : Step) (path : String) : Outcome :=
  if s.extensionsOnly then s.extended path
  else (s.exactly path).orTry fun _ => s.extended path

/-- Looks for the file that stands for a directory. It has an extension, but its name without one
may be replaced. -/
def asIndex (s : Step) (directory : String) : Outcome :=
  let path := Path.Host.resolve directory "index"
  let bare : Outcome := if s.extensionsOnly then return none else s.replacedFile path
  bare.orTry fun _ => s.extended path

/-- Looks for what stands for a directory: what its description names, or else its index. -/
def asDirectory (s : Step) (directory : String) : Outcome := do
  let entries :=
    match ← packageAt s.tree directory with
    | some p => p.entryPaths s.mainFields
    | none => []
  let named := firstOf (fun entry =>
    let path := Path.Host.resolve directory (if entry.startsWith "/" then "." ++ entry else entry)
    (s.asFile path).orTry fun _ => s.asIndex path) entries
  named.orTry fun _ => s.asIndex directory

/-- Looks for a file, and then for a directory. With a slash at the end of a specifier only a
directory is meant. -/
def asEither (s : Step) (path : String) (slashed : Bool) : Outcome :=
  let file : Outcome := if slashed then return none else s.asFile path
  file.orTry fun _ => if s.tree.isDirectory path then s.asDirectory path else return none

/-- Looks for what a package says is there. -/
def offered (s : Step) (found : Outcome) : Outcome := do
  match ← found with
  | some path => (s.asEither path false).orFail .notFound
  | none => return none

/-! ## Packages -/

/-- The table of a package that says what others can import, as it is looked at. -/
def offer (s : Step) (directory : String) : Offer := ⟨directory, s.conditions, none⟩

/-- The directories of installed packages, as seen from a directory. -/
def installations (s : Step) (directory : String) : List String :=
  (ancestors directory).filter s.tree.isDirectory |>.map (Path.Host.resolve · installedIn)
    |>.filter s.tree.isDirectory

/-- Looks up a package that another one names for itself. -/
def package (s : Step) (directory specifier : String) : Outcome := do
  let (name, place) := splitPackage specifier
  let homes := (s.installations directory).map (Path.Host.resolve · name)
  match homes.find? s.tree.isDirectory with
  | none => throw .notFound
  | some home =>
    match (← packageAt s.tree home).bind Package.offers? with
    | some offers => (s.offer home).exported offers ("." ++ place)
    | none => s.again home ("." ++ place)

/-- Looks up a name that the package of the importing module has for itself. -/
def ownName (s : Step) (directory name : String) : Outcome := do
  let some p ← nearestPackage s.tree directory | return none
  let some table := p.ownNames? | return none
  let offer : Offer := ⟨p.directory, s.conditions, some (s.package p.directory)⟩
  s.offered (offer.imported table name)

/-- The place in a package that a specifier begins with the name of. -/
def placeIn? (p : Package) (specifier : String) : Option String := do
  let name := (← p.name?).toList
  let cs := specifier.toList
  let rest := cs.drop name.length
  if name.isPrefixOf cs ∧ rest.head?.all fun c => c = '/' ∨ c = '\\' then some (String.ofList rest)
  else none

/-- Looks at what the package of the importing module offers under its own name, and at what it
replaces. -/
def ownPackage (s : Step) (directory specifier : String) : Outcome := do
  let some p ← nearestPackage s.tree directory | return none
  let own : Outcome :=
    match placeIn? p specifier, p.offers? with
    | some place, some offers =>
      s.offered ((s.offer p.directory).exported offers ("." ++ place))
    | _, _ => return none
  own.orTry fun _ => s.replaced directory (some specifier) p

/-- Looks at a path in a directory of installed packages. Where a directory is, only a place in a
package can be a file beside it, and a slash at the end means the directory. -/
def amongPackages (s : Step) (place path : String) : Outcome :=
  if s.tree.isDirectory path then
    let file : Outcome := if place = "" ∨ place.endsWith "/" then return none else s.asFile path
    (file.orTry fun _ => s.replacedFile path).orTry fun _ => s.asDirectory path
  else s.asFile path

/-- Looks up a specifier in one directory of installed packages, where its package may be. -/
def inPackage (s : Step) (installation specifier : String) : Outcome := do
  let (name, place) := splitPackage specifier
  let home := Path.Host.resolve installation name
  let path := Path.Host.resolve installation specifier
  if name = "" then s.amongPackages place path
  else if s.tree.isDirectory home then
    let offered : Outcome :=
      match (← packageAt s.tree home).bind Package.offers? with
      | some offers => s.offered ((s.offer home).exported offers ("." ++ place))
      | none => return none
    offered.orTry fun _ => s.amongPackages place path
  else if place ≠ "" then return none
  else if name.startsWith "@" ∧ ¬ s.tree.isDirectory (Path.Host.resolve home "..") then return none
  else s.asFile path

/-- Looks up a specifier in one directory of installed packages. A way through a package that is not
there is cut short. -/
def inInstallation (s : Step) (specifier installation : String) : Outcome :=
  let (name, place) := splitPackage specifier
  if place = "" ∨ s.tree.isDirectory (Path.Host.resolve installation name) then
    s.inPackage installation specifier
  else s.inPackage installation (withoutDetours specifier)

/-- Looks up a specifier that names a package. -/
def byName (s : Step) (directory specifier : String) : Outcome :=
  ((s.ownPackage directory specifier).orTry fun _ =>
    firstOf (s.inInstallation specifier) (s.installations directory)).orFail .notFound

/-! ## Specifiers -/

/-- Looks for what a path or a name means in a directory. -/
def fromDirectory (s : Step) (directory specifier : String) : Outcome :=
  match Path.Host.components specifier.toList with
  | .root :: _ =>
    (s.asEither (Path.Host.resolve "/" specifier) (specifier.endsWith "/")).orFail .notFound
  | .here :: _ | .up :: _ =>
    let slashed := specifier == "." || specifier.endsWith "/"
    (s.asEither (Path.Host.resolve directory specifier) slashed).orFail .notFound
  | _ =>
    if specifier.startsWith "#" then (s.ownName directory specifier).orFail .notFound
    else s.byName directory specifier

end Step

namespace Search

/-- The number of times that a search may begin. -/
def limit : Nat := 64

/-- Begins the search with a specifier from a directory. A fragment without a query may be part of
the path, so that is tried first. -/
def begin (s : Search) (again : String → String → Outcome) (directory text : String) :
    Outcome := do
  if limit ≤ (← get).begun then throw .endless
  modify fun trail => { trail with begun := trail.begun + 1 }
  let some specifier := Specifier.parse? text | throw .emptySpecifier
  modify (·.carry specifier)
  let step : Step := { s with again }
  let trail ← get
  if let (none, some fragment) := (trail.query, trail.fragment) then
    set { trail with fragment := none }
    if let .ok (some path) ←
        attempt (step.fromDirectory directory (specifier.path ++ fragment)) then
      return some path
    modify ({ · with fragment := some fragment })
  step.fromDirectory directory specifier.path

/-- Searches with a bound on how deep one beginning of the search is inside another. -/
def within (s : Search) : Nat → String → String → Outcome
  | 0, _, _ => throw .endless
  | depth + 1, directory, text => s.begin (s.within depth) directory text

/-- The file that an import means, if there is one. -/
def find (s : Search) (directory specifier : String) : Option String :=
  let found : Outcome := do
    let path? ← s.within limit directory specifier
    path?.forM fun path => liftExcept (checkPackage s.tree path)
    return path?
  match (found.run.run {}).1 with
  | .ok path? => path?
  | .error _ => none

end Search

/-- The file that an import means in a tree of files. -/
def findIn (tree : FileTree) (o : ResolveOptions) : String → String → Option String :=
  (Search.of tree o).find

end Bundler.Resolve
