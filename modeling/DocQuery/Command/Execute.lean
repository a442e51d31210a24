import DocQuery.Command.Arguments
import DocQuery.Query.Document
import DocQuery.Store.Basic

/-!
What the commands do: show the tokens of a query, show the query as JSON, or run the query on
JSON documents.
-/

namespace DocQuery

inductive CommandFault where
  | parse (fault : ParseFault)
  | store (fault : StoreFault)
  | invalidJson
  | noInput
  | invalidDocuments

def CommandFault.message : CommandFault → String
  | .parse fault => "Parse error: " ++ fault.message
  | .store fault => fault.message
  | .invalidJson => "Invalid JSON"
  | .noInput => "No input provided. Use --input or pipe JSON to stdin."
  | .invalidDocuments => "Input must be a JSON object or an array of objects"

def showTokens (query : String) : Except CommandFault (List Token) :=
  match tokenise query with
  | .error failure => .error (.parse (.lexing failure))
  | .ok tokens => .ok tokens

def showQuery (query : String) : Except CommandFault Json :=
  match Query.parse query with
  | .error fault => .error (.parse fault)
  | .ok query => .ok query.toJson

def documents (input : String) : Except CommandFault (List Json) :=
  match Json.read? input with
  | none => .error .invalidJson
  | some (.array items) => if items.all Json.isObject then .ok items else .error .invalidDocuments
  | some (.object fields) => .ok [.object fields]
  | some _ => .error .invalidDocuments

/-- The rows of a query on the documents of an input. The input is looked at before the query. -/
def runQuery (query container : String) (input : Option String) (ignoreCase : Bool) :
    Except CommandFault (List Json) :=
  match input with
  | none => .error .noInput
  | some input => do
      let records ← documents input
      let store : Store Json := { config := ⟨container, !ignoreCase⟩, records }
      match store.select query with
      | .error fault => .error (.store fault)
      | .ok rows => .ok rows

structure Report where
  code : Nat := 0
  output : String := ""
  complaint : String := ""
  deriving DecidableEq

namespace Report

def ofFault : CommandFault → Report
  | .invalidJson => { code := 1, complaint := CommandFault.invalidJson.message }
  | fault => { code := 1, complaint := fault.message ++ "\n" }

def ofResult {α : Type} (write : α → String) : Except CommandFault α → Report
  | .ok value => { output := write value }
  | .error fault => ofFault fault

def usage : Report := { code := 2, complaint := "usage" }

end Report

namespace Command

def awaitsInput : Command → Bool
  | .run _ _ none _ _ => true
  | _ => false

def writeJson (pretty : Bool) (document : Json) : String :=
  (if pretty then document.pretty else document.compact) ++ "\n"

def execute (piped : String) : Command → Report
  | .tokens query =>
      .ofResult (fun tokens => String.join (tokens.map (·.line ++ "\n"))) (showTokens query)
  | .parse query pretty => .ofResult (writeJson pretty) (showQuery query)
  | .run query container input ignoreCase pretty =>
      .ofResult (fun rows => writeJson pretty (.array rows))
        (runQuery query container (some (input.getD piped)) ignoreCase)

def executeArguments (arguments : List String) (piped : String) : Report :=
  match ofArguments? arguments with
  | none => .usage
  | some command => command.execute piped

end Command

end DocQuery
