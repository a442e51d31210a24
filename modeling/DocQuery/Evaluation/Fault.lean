import DocQuery.Json.Writing
import DocQuery.Token

/-!
The ways in which a record cannot be compared with a filter.
-/

namespace DocQuery

inductive EvalFault where
  | invalidNumber (content : String)
  | expectedArray (found : Json)
  | unsupportedValue (kind : TokenKind) (content : String)
  | unknownAlias (qualifier column table : String)
  | unconvertible (reason : String)

def unconvertibleText (reason : String) : String :=
  "Record could not be converted to JSON: " ++ reason

def EvalFault.message : EvalFault → String
  | .invalidNumber content => s!"Invalid number literal '{content}'"
  | .expectedArray found =>
      "Operator 'in' expects an array value, found '" ++ found.compact ++ "'"
  | .unsupportedValue kind content =>
      kind.name ++ s!" token '{content}' cannot be used as a value"
  | .unknownAlias qualifier column table =>
      s!"Unknown alias '{qualifier}' in '{column}'; the query reads from {table}"
  | .unconvertible reason => unconvertibleText reason

end DocQuery
