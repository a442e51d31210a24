/-!
Comparison operators of filters, their names in query text and their symbols.
-/

namespace DocQuery

inductive Operator where
  | equalTo
  | isIn
  | greaterThan
  | greaterThanOrEqualTo
  | lessThan
  | lessThanOrEqualTo
  | negation (operator : Operator)
  deriving DecidableEq

namespace Operator

def notEqualTo : Operator := .negation .equalTo

def ofName? (name : String) : Option Operator :=
  if name = "=" ∨ name = "is" then some .equalTo
  else if name = "in" then some .isIn
  else if name = "<>" ∨ name = "!=" then some .notEqualTo
  else if name = ">" then some .greaterThan
  else if name = ">=" then some .greaterThanOrEqualTo
  else if name = "<" then some .lessThan
  else if name = "<=" then some .lessThanOrEqualTo
  else none

def symbol : Operator → String
  | .equalTo => "="
  | .isIn => "in"
  | .greaterThan => ">"
  | .greaterThanOrEqualTo => ">="
  | .lessThan => "<"
  | .lessThanOrEqualTo => "<="
  | .negation .equalTo => "!="
  | .negation operator => "not " ++ operator.symbol

end Operator

end DocQuery
