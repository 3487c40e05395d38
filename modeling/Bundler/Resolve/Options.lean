import Bundler.Options.Choice
import Bundler.Text.Dictionary

/-! # Resolvers

A resolver finds the file that an import means. It is told the platform, the extensions to try and
the modules that stay imports. -/

set_option autoImplicit false

namespace Bundler

/-- The extensions that are tried, in order, unless the caller gives others. -/
def usualExtensions : List String := [".tsx", ".ts", ".jsx", ".mjs", ".cjs", ".js", ".json"]

/-- What a resolver is told. -/
structure ResolveOptions where
  platform : Platform := .browser
  /-- The extensions to try, in order. -/
  extensions : List String := []
  /-- The modules that stay imports. -/
  externals : NameSet := ∅
  deriving DecidableEq

/-- What an import means. -/
inductive Resolved
  /-- A file, by its absolute path. -/
  | path (path : String)
  /-- A module that stays an import. -/
  | external (specifier : String)
  deriving DecidableEq, Repr

/-- Says what an import means that stands in a directory, if it means anything. -/
abbrev Resolver := String → String → Option Resolved

/-- The resolver that leaves the externals alone and looks for a file for every other import. -/
def Resolver.of (externals : NameSet) (find : String → String → Option String) : Resolver :=
  fun directory specifier =>
    if externals.contains specifier then some (.external specifier)
    else (find directory specifier).map .path

/-- Whether an import names a file and not a package: it begins at the root, at a drive, or at the
directory of the importing module. Files are never looked up among the packages. -/
def namesFile (specifier : String) : Bool :=
  match specifier.toList with
  | '/' :: _ => true
  | ['.'] => true
  | ['.', '.'] => true
  | '.' :: '/' :: _ => true
  | '.' :: '.' :: '/' :: _ => true
  | drive :: ':' :: separator :: _ =>
    drive.isAlpha && (separator == '/' || separator == '\\')
  | _ => false

end Bundler
