import ListenQuery.Attribute.Value
import ListenQuery.Collation.Order
import ListenQuery.Number.Literal

/-!
# Comparing an attribute with a literal

Strings compare in the order of texts, and what is absent or null compares as the empty text.
Numbers compare with the number that the literal spells, booleans as zero and one; a literal that
spells no number is in no order with them. Lists and objects cannot be compared.
-/

namespace ListenQuery

open Number Collation

namespace Value

def orderNumber (x : Double) (literal : String) : Option Ordering :=
  (readNumber literal).map x.order

/-- The order of a value and a literal, or the kind that has none. -/
def compareWith (literal : String) : Value → Except Kind (Option Ordering)
  | bool b => .ok (orderNumber (.ofInt (if b then 1 else 0)) literal)
  | number x => .ok (orderNumber x literal)
  | absent => .ok (some (collate "" literal))
  | null => .ok (some (collate "" literal))
  | text s => .ok (some (collate s literal))
  | list _ => .error .list
  | object => .error .object

end Value

end ListenQuery
