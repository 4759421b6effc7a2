import Proofplane.Base.Text

/-!
# Email addresses

* `normalizeEmail`   the one spelling in which addresses are stored and compared.
-/

namespace Proofplane
open Base

/-- the mailbox format, `isValid` being the address grammar of the email library -/
def normalizeEmail (isValid : String → Bool) (value : String) : Option String :=
  let email := toAsciiLowercase (trim value)
  if isValid email then some email else none

end Proofplane
