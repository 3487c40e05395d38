import Bundler.Diagnostic.Log
import Bundler.Options.Record

/-! # The log that options ask for

The log level `silent` asks for a deferred log, and any other level for one that prints. Whether
what it prints is styled depends on what it is printed on, too. -/

set_option autoImplicit false

namespace Bundler

/-- A log level at which no log prints. -/
structure InvalidLogLevel where
  level : LogLevel
  deriving DecidableEq, Repr

/-- The text of the error. -/
def InvalidLogLevel.message (e : InvalidLogLevel) : String :=
  "Invalid log level: " ++ Choice.name e.level

/-- The level at which a log prints. -/
def LogLevel.threshold : LogLevel → Except InvalidLogLevel Threshold
  | .info => .ok .info
  | .warning => .ok .warning
  | .error => .ok .error
  | .silent => .error ⟨.silent⟩

/-- What diagnostics are printed on. -/
structure Display where
  /-- Whether printed text can be styled at all. -/
  styles : Bool
  /-- Whether it is a terminal. -/
  terminal : Bool := false
  deriving DecidableEq, Repr

instance : Coe Bool Display := ⟨fun styles => { styles }⟩

/-- Whether diagnostics are styled: in the mode that asks for it in any case, or on a terminal in
the mode that leaves it to this, and only where styles are possible at all. -/
def ColorMode.styled (mode : ColorMode) (display : Display) : Bool :=
  display.styles &&
    match mode with
    | .auto => display.terminal
    | .never => false
    | .always => true

/-- The log of a run with the given options. -/
def CommonOptions.log (o : CommonOptions) (display : Display) : Log :=
  match o.logLevel.threshold with
  | .error _ => .deferred
  | .ok level => .new (some ⟨true, o.errorLimit, o.color.styled display, level⟩)

end Bundler
