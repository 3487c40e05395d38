/-! # Options with named values

Some options take one of a few values, each written by a name: the same names stand in a
configuration and on the command line. A value has one name of its own and may have further ones. -/

set_option autoImplicit false

namespace Bundler

/-- A type of option values that are written by name. -/
class Choice (α : Type) where
  /-- What a value of the type is called in messages. -/
  kind : String
  /-- Every value. -/
  values : List α
  /-- The name of a value. -/
  name : α → String
  /-- Further names. -/
  aliases : List (String × α)

/-- A name that stands for no value of a kind. -/
structure UnknownName where
  kind : String
  name : String
  deriving DecidableEq, Repr

/-- The text of the error. The name is given as it was written. -/
def UnknownName.message (e : UnknownName) : String :=
  "Unknown " ++ e.kind ++ ": \"" ++ e.name ++ "\""

/-- The value that a name stands for. Names are told apart by case. -/
def Choice.parse {α : Type} [Choice α] (text : String) : Except UnknownName α :=
  let own : List (String × α) := Choice.values.map fun v => (Choice.name v, v)
  let known : List (String × α) := own ++ Choice.aliases
  match known.find? fun entry => entry.1 == text with
  | some entry => .ok entry.2
  | none => .error ⟨Choice.kind α, text⟩

/-! ## The kinds of values -/

/-- The platform that the output is meant to run on. -/
inductive Platform
  | browser
  | node
  deriving DecidableEq, Repr, Inhabited

instance : Choice Platform where
  kind := "platform"
  values := [.browser, .node]
  name
    | .browser => "browser"
    | .node => "node"
  aliases := []

/-- The module format of the output. -/
inductive Format
  /-- The input's own format; a bundle takes the usual one of its platform. -/
  | preserve
  /-- One function that is called at once. -/
  | iife
  | commonJs
  | esModule
  deriving DecidableEq, Repr, Inhabited

instance : Choice Format where
  kind := "format"
  values := [.preserve, .iife, .commonJs, .esModule]
  name
    | .preserve => "default"
    | .iife => "iife"
    | .commonJs => "cjs"
    | .esModule => "esm"
  aliases := [("commonjs", .commonJs)]

/-- Whether a source map is made, and where it goes. -/
inductive SourceMap
  | none
  /-- A file of its own, which the output names in a comment. -/
  | linked
  /-- Inside the output. -/
  | inside
  /-- A file of its own, which the output does not name. -/
  | separate
  deriving DecidableEq, Repr, Inhabited

instance : Choice SourceMap where
  kind := "source map mode"
  values := [.none, .linked, .inside, .separate]
  name
    | .none => "none"
    | .linked => "linked"
    | .inside => "inline"
    | .separate => "external"
  aliases := [("true", .linked)]

/-- When printed diagnostics are styled. -/
inductive ColorMode
  /-- When they go to a terminal. -/
  | auto
  | never
  | always
  deriving DecidableEq, Repr, Inhabited

instance : Choice ColorMode where
  kind := "color mode"
  values := [.auto, .never, .always]
  name
    | .auto => "auto"
    | .never => "never"
    | .always => "always"
  aliases := [("false", .never), ("true", .always)]

/-- The least serious diagnostics that are printed. -/
inductive LogLevel
  | info
  | warning
  | error
  /-- Nothing is printed. -/
  | silent
  deriving DecidableEq, Repr, Inhabited

instance : Choice LogLevel where
  kind := "log level"
  values := [.info, .warning, .error, .silent]
  name
    | .info => "info"
    | .warning => "warning"
    | .error => "error"
    | .silent => "silent"
  aliases := []

/-- The language version that the output must run on. -/
inductive Target
  | es2015
  | es2016
  | es2017
  | es2018
  | es2019
  | es2020
  | esNext
  deriving DecidableEq, Repr

instance : Inhabited Target := ⟨.esNext⟩

instance : Choice Target where
  kind := "target"
  values := [.esNext, .es2015, .es2016, .es2017, .es2018, .es2019, .es2020]
  name
    | .es2015 => "es2015"
    | .es2016 => "es2016"
    | .es2017 => "es2017"
    | .es2018 => "es2018"
    | .es2019 => "es2019"
    | .es2020 => "es2020"
    | .esNext => "esnext"
  aliases := [("es6", .es2015)]

/-- How the contents of a file become a module. -/
inductive Loader
  | js
  | jsx
  | ts
  | tsx
  | json
  | text
  | base64
  | dataUrl
  /-- The file is copied to the output, and the module is its path. -/
  | file
  deriving DecidableEq, Repr, Inhabited

instance : Choice Loader where
  kind := "loader"
  values := [.js, .jsx, .ts, .tsx, .json, .text, .base64, .dataUrl, .file]
  name
    | .js => "js"
    | .jsx => "jsx"
    | .ts => "ts"
    | .tsx => "tsx"
    | .json => "json"
    | .text => "text"
    | .base64 => "base64"
    | .dataUrl => "dataurl"
    | .file => "file"
  aliases := []

end Bundler
