import Parlance.Parser.Choice
import Parlance.Parser.Terminal

/-!
# Letters and digits

Single symbols of the basic Latin alphabet.
-/

namespace Parlance.Token

open Parlance.Parser

/-- One decimal digit. -/
def digit : Parser Char := range '0' '9'

/-- One small letter. -/
def lowercase : Parser Char := range 'a' 'z'

/-- One capital letter. -/
def uppercase : Parser Char := range 'A' 'Z'

/-- One letter. -/
def alpha : Parser Char := pick [lowercase, uppercase]

/-- One letter or digit. -/
def alphanumeric : Parser Char := pick [alpha, digit]

end Parlance.Token
