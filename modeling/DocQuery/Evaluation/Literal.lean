import DocQuery.Evaluation.Fault
import DocQuery.Json.Reading

/-!
The JSON value that a token denotes.
-/

namespace DocQuery.Token

def numberLiteral (content : String) : Except EvalFault Json :=
  match Json.read? content with
  | some (.number value) => .ok (.number value)
  | _ => .error (.invalidNumber content)

def wordLiteral (content : String) : Except EvalFault Json :=
  if content = "true" then .ok (.bool true)
  else if content = "false" then .ok (.bool false)
  else if content = "null" then .ok .null
  else .error (.unsupportedValue .query content)

mutual

def literal : Token → Except EvalFault Json
  | ⟨.text, content, _⟩ => .ok (.text content)
  | ⟨.number, content, _⟩ => numberLiteral content
  | ⟨.array, _, elements⟩ => (literals elements).map Json.array
  | ⟨.query, content, _⟩ => wordLiteral content
  | ⟨kind, content, _⟩ => .error (.unsupportedValue kind content)

def literals : List Token → Except EvalFault (List Json)
  | [] => .ok []
  | token :: rest =>
      match literal token with
      | .error fault => .error fault
      | .ok value => (literals rest).map (value :: ·)

end

end DocQuery.Token
