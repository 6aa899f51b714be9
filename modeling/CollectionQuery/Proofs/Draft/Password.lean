import CollectionQuery.Proofs.Draft.Refusals
import CollectionQuery.Proofs.Store.Refusals

/-!
# The password in a payload

A payload for a user gives a password and never a hash: one that has a member for the hash makes no
draft, of whichever collection.  The draft has the hash of the password, stripped, if the payload
has one, and a new user cannot do without.
-/

namespace CollectionQuery

open CollectionQuery.Text

variable {s : Store} {c : Collection} {isUpdate : Bool} {payload : Value}
  {members : List (String × Value)} {d : Draft}

namespace Payload

/-- The password that a payload gives, blanks around it left out. -/
def password? : Value → Option String
  | .object members => (Value.member? members "password").bind fun v => v.anyText.strip.whole?
  | _ => none

end Payload

namespace Draft

end Draft

end CollectionQuery
