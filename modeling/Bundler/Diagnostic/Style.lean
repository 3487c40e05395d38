/-! # Styled text

A terminal shows a stretch of text in a style when it stands between an opening escape sequence and
a reset. -/

set_option autoImplicit false

namespace Bundler

/-- What a stretch of printed text is, as far as its looks go. -/
inductive Style
  | errorLabel
  | warningLabel
  | place
  | marker
  | success
  deriving DecidableEq, Repr

namespace Style

/-- The escape sequence that turns a style on. -/
def opening : Style → String
  | .errorLabel => "\x1b[1;31m"
  | .warningLabel => "\x1b[1;33m"
  | .place => "\x1b[1m"
  | .marker => "\x1b[32m"
  | .success => "\x1b[32m"

/-- The escape sequence that turns every style off. -/
def reset : String := "\x1b[0m"

/-- A text in which the style is turned on again after each reset that the text itself holds. -/
def reopen (style : Style) : List Char → List Char
  | '\x1b' :: '[' :: '0' :: 'm' :: rest =>
    reset.toList ++ style.opening.toList ++ reopen style rest
  | c :: rest => c :: reopen style rest
  | [] => []

/-- A text in a style, or as it is when styles are off. -/
def paint (style : Style) (styled : Bool) (text : String) : String :=
  if styled then style.opening ++ String.ofList (style.reopen text.toList) ++ reset else text

end Style

end Bundler
