import Bundler.Json.Decode
import Bundler.Options.Record

/-! # Option records in configuration texts

A configuration text is one JSON value that gives an option record. The tables below list the fields
of each record in the order in which an array gives them; `buildFields` and `transformFields` begin
with the fields that both records share. -/

set_option autoImplicit false

namespace Bundler

/-- The fields of `StrictOptions`. -/
def strictFields : List (Field StrictOptions) :=
  [ .of "nullishCoalescing" Json.asBool fun b o => { o with nullishCoalescing := b },
    .of "classFields" Json.asBool fun b o => { o with classFields := b } ]

/-- The fields that both option records share. -/
def commonFields : List (Field CommonOptions) :=
  [ .of "color" Json.asChoice fun v o => { o with color := v },
    .of "errorLimit" Json.asNatural fun v o => { o with errorLimit := v },
    .of "logLevel" Json.asChoice fun v o => { o with logLevel := v },
    .of "sourcemap" Json.asChoice fun v o => { o with sourcemap := v },
    .of "target" Json.asChoice fun v o => { o with target := v },
    .of "strict" (Record.decode strictFields {}) fun v o => { o with strict := v },
    .of "minifyWhitespace" Json.asBool fun v o => { o with minifyWhitespace := v },
    .of "minifyIdentifiers" Json.asBool fun v o => { o with minifyIdentifiers := v },
    .of "minifySyntax" Json.asBool fun v o => { o with minifySyntax := v },
    .of "jsxFactory" Json.asText fun v o => { o with jsxFactory := v },
    .of "jsxFragment" Json.asText fun v o => { o with jsxFragment := v },
    .of "defines" (Json.asDictionary Json.asText) fun v o => { o with defines := v } ]

/-- The fields of `BuildOptions`. -/
def buildFields : List (Field BuildOptions) :=
  commonFields.map (.within fun change o => { o with toCommonOptions := change o.toCommonOptions })
    ++ [ .of "globalName" Json.asText fun v o => { o with globalName := v },
      .of "bundle" Json.asBool fun v o => { o with bundle := v },
      .of "splitting" Json.asBool fun v o => { o with splitting := v },
      .of "outfile" Json.asText fun v o => { o with outfile := v },
      .of "metafile" Json.asText fun v o => { o with metafile := v },
      .of "outdir" Json.asText fun v o => { o with outdir := v },
      .of "platform" Json.asChoice fun v o => { o with platform := v },
      .of "format" Json.asChoice fun v o => { o with format := v },
      .of "externals" (Json.asList Json.asText) fun v o => { o with externals := v },
      .of "loaders" (Json.asDictionary Json.asChoice) fun v o => { o with loaders := v },
      .of "resolveExtensions" (Json.asOption (Json.asList Json.asText))
        fun v o => { o with resolveExtensions := v },
      .of "entryPoints" (Json.asList Json.asText) fun v o => { o with entryPoints := v } ]

/-- The fields of `TransformOptions`. -/
def transformFields : List (Field TransformOptions) :=
  commonFields.map (.within fun change o => { o with toCommonOptions := change o.toCommonOptions })
    ++ [ .of "sourcefile" Json.asText fun v o => { o with sourcefile := v },
      .of "loader" Json.asChoice fun v o => { o with loader := v } ]

/-! ## Loading -/

/-- Why a configuration gives no options. -/
inductive ConfigError
  /-- There is no file. -/
  | missing
  /-- The file is not UTF-8. -/
  | notText
  /-- The text gives no option record. -/
  | invalid (problem : Problem)
  deriving DecidableEq, Repr

/-- The text of the error. What is wrong with the form of a JSON text is not spelled out. -/
def ConfigError.message? : ConfigError → Option String
  | .missing => some "Failed to read config file: No such file or directory (os error 2)"
  | .notText => some "Failed to read config file: stream did not contain valid UTF-8"
  | .invalid (.unknown name) => some ("Failed to parse config file: " ++ name.message)
  | .invalid _ => none

/-- A record that configuration texts can give. -/
class Configurable (σ : Type) where
  fields : List (Field σ)
  defaults : σ

instance : Configurable BuildOptions := ⟨buildFields, {}⟩
instance : Configurable TransformOptions := ⟨transformFields, {}⟩

/-- The options that a configuration text gives. -/
def loadText {σ : Type} [Configurable σ] (text : String) : Decoded σ :=
  Record.decodeText Configurable.fields Configurable.defaults text

/-- The options that the contents of a configuration file give, if there is a file. -/
def loadConfig {σ : Type} [Configurable σ] (contents? : Option ByteArray) : Except ConfigError σ :=
  match contents? with
  | none => .error .missing
  | some bytes =>
    match String.fromUTF8? bytes with
    | none => .error .notText
    | some text =>
      match loadText text with
      | .ok s => .ok s
      | .error problem => .error (.invalid problem)

/-! ## Key and value -/

/-- A flag's value that should be a key and a value but has no equals sign. -/
structure MissingEquals where
  text : String
  deriving DecidableEq, Repr

/-- The text of the error. -/
def MissingEquals.message (e : MissingEquals) : String :=
  "Expected KEY=VALUE, got \"" ++ e.text ++ "\""

/-- Splits a text at its first equals sign. -/
def splitKeyValue (text : String) : Except MissingEquals (String × String) :=
  let cs := text.toList
  match cs.dropWhile (· != '=') with
  | [] => .error ⟨text⟩
  | _ :: value => .ok (String.ofList (cs.takeWhile (· != '=')), String.ofList value)

end Bundler
