import DocQuery.Lexing.Tokenise
import DocQuery.Query.Basic

/-!
The ways in which a query text, a list of tokens or a filter fails to make a query.
-/

namespace DocQuery

inductive ParseFault where
  | lexing (failure : Lexing.Failure)
  | beforeSelect (content : String)
  | repeatedSelect
  | fromWithoutSelect
  | emptySelect
  | repeatedWhere
  | whereWithoutTable
  | operatorWithoutColumn (content : String)
  | connectiveWithoutFilter (connective : Connective)
  | endsWithConnective (connective : Connective)
  | missingTable
  | emptyWhere
  | extraTableToken (content : String)
  | unclosedFilter (column content : String)
  | operatorExpected (column content : String)
  | valueWithoutColumn (content : String)
  | operatorAlreadySet (column held added : String)
  | valueBeforeOperator (column content : String)
  | valueAlreadySet (column held : String)
  | missingOperator (column : String)
  | missingValue (column : String)
  | unsupportedTableToken (kind : TokenKind) (content : String)
  | parenthesisedGroup
  | unsupportedValue (kind : TokenKind) (content : String)
  | unknownOperator (name : String)
  deriving DecidableEq

namespace ParseFault

def kind : ParseFault → FaultKind
  | .lexing failure => failure.cause.kind
  | .beforeSelect _ | .repeatedSelect | .fromWithoutSelect | .emptySelect | .repeatedWhere
  | .whereWithoutTable | .operatorWithoutColumn _ | .connectiveWithoutFilter _
  | .endsWithConnective _ | .missingTable | .emptyWhere => .malformed
  | .extraTableToken _ | .unclosedFilter _ _ | .operatorExpected _ _ | .valueWithoutColumn _
  | .operatorAlreadySet _ _ _ | .valueBeforeOperator _ _ | .valueAlreadySet _ _
  | .missingOperator _ | .missingValue _ => .misplaced
  | .unsupportedTableToken _ _ | .parenthesisedGroup | .unsupportedValue _ _
  | .unknownOperator _ => .unsupported

def text : ParseFault → String
  | .lexing failure => failure.cause.text
  | .beforeSelect content => s!"Query must start with 'select', found '{content}'"
  | .repeatedSelect => "'select' may only appear at the start of the query"
  | .fromWithoutSelect => "'from' is only valid after 'select'"
  | .emptySelect => "Select list is empty"
  | .repeatedWhere => "'where' may only appear once"
  | .whereWithoutTable => "'where' requires a table in a preceding 'from' clause"
  | .operatorWithoutColumn content => s!"Operator '{content}' has no column to filter"
  | .connectiveWithoutFilter connective =>
      "'" ++ connective.word ++ "' must follow a complete filter"
  | .endsWithConnective connective =>
      "Query ends with '" ++ connective.word ++ "' but no filter follows"
  | .missingTable => "No table present in query"
  | .emptyWhere => "'where' clause has no filters"
  | .extraTableToken content => s!"From token is invalid: '{content}'"
  | .unclosedFilter column content =>
      s!"Filter on '{column}' was not closed with 'and' or 'or' before '{content}'"
  | .operatorExpected column content =>
      s!"Expected an operator after '{column}', found '{content}'"
  | .valueWithoutColumn content => s!"Value '{content}' has no column to filter"
  | .operatorAlreadySet column held added =>
      s!"Operator for '{column}' is already set to '{held}', cannot add '{added}'"
  | .valueBeforeOperator column content =>
      s!"Filter on '{column}' has no operator before value '{content}'"
  | .valueAlreadySet column held => s!"Value for '{column}' is already set to '{held}'"
  | .missingOperator column => s!"Filter on '{column}' has no operator"
  | .missingValue column => s!"Filter on '{column}' has no value"
  | .unsupportedTableToken kind content =>
      kind.name ++ s!" token '{content}' is not supported in the from clause"
  | .parenthesisedGroup => "Parenthesized groups are not supported in the where clause"
  | .unsupportedValue kind content =>
      kind.name ++ s!" '{content}' is not supported as a filter value"
  | .unknownOperator name => s!"Operator '{name}' is not supported"

def message : ParseFault → String
  | .lexing failure => failure.message
  | fault => fault.kind.label ++ ": " ++ fault.text

end ParseFault

end DocQuery
