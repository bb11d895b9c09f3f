import Loyalty.Double
import Loyalty.Text.Decimal

/-!
# JSON values

Values of JSON. Whole numbers of 64 bits, which are exact, are kept apart from all other numbers,
which are doubles and which no amount is read from. The members of an object are listed by name.
-/

namespace Loyalty

inductive Json where
  | null
  | bool (b : Bool)
  | integer (i : Int)
  | double (x : Double)
  | string (s : String)
  | array (items : List Json)
  | object (members : List (String × Json))
  deriving Repr, Inhabited

namespace Json

def ofAmount (a : Amount) : Json := .integer a.toInt

end Json

end Loyalty
