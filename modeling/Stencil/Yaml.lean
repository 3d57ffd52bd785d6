import Stencil.Yaml.Meaning
import Stencil.Yaml.Token.Scanner

/-!
# Reading YAML

Settings files are written in YAML 1.2: block and flow collections, plain,
quoted and block scalars, names and comments.  A text is empty or holds one
document.  Tags and directives are not read, and the spellings of fractions and
of dates are texts.  A reader of settings files is handed in from outside; this one
stands for it where the program runs on its own, and nothing that is proved of
settings depends on it.
-/

namespace Stencil

namespace Yaml

/-- The text without the byte order mark that it may begin with. -/
def withoutMark (text : Text) : Text :=
  if text.head? = some (CodePoint.ofChar '\ufeff') then text.drop 1 else text

/-- The value of a text; that of an empty one is null. -/
def read (source : Text) : Except Fault Value := do
  let text := unifyBreaks source
  if text.all isAllowed then
    let node ← Node.ofTokens (Token.list (withoutMark text))
    node.meaning
  else .error .malformed

end Yaml

end Stencil
