import DocQuery.Json.Basic

/-!
Comparison of JSON values. Scalars of one type are ordered, numbers by value whatever their kind;
arrays and objects are compared as a whole.
-/

namespace DocQuery.Json

def order? : Json → Json → Option Ordering
  | .number a, .number b => some (a.order b)
  | .text a, .text b => some (compare a b)
  | .bool a, .bool b => some (compare a b)
  | .null, .null => some .eq
  | _, _ => none

/-- Arrays and objects are equal if they are structurally the same, scalars if neither comes first. -/
def equals : Json → Json → Bool
  | .array a, .array b => sameItems a b
  | .object a, .object b => sameFields a b
  | a, b => a.order? b == some .eq

end DocQuery.Json
