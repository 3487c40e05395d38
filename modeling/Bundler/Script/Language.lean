import Bundler.Script.Lowering
import Bundler.Script.Printer
import Bundler.Script.Reader

/-! # The script language

The language of modules whose programs are those of `Script.Program`. Every target is accepted. -/

set_option autoImplicit false

namespace Bundler

/-- The script language. -/
def scriptLanguage : Language where
  Program := Script.Program
  parse := Script.Program.parse
  refusal := fun _ => none
  lower := Script.Program.lower
  print := fun isTight => Script.Program.print (if isTight then .tight else .readable)

end Bundler
