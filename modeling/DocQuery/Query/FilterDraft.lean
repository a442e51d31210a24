import DocQuery.Query.Fault

/-!
A filter that is still being read: its column is known, its operator and its value come later.
Every operation tells what it refuses and leaves the draft as it was when it does.
-/

namespace DocQuery

/-- The parts of a filter that have been read. Operators are kept by name until the filter is built. -/
structure FilterDraft where
  column : String
  operator : Option String := none
  value : Option Token := none
  negated : Bool := false
  deriving DecidableEq

namespace FilterDraft

/-- Sets the operator. Only `is` may be followed by a second one, a single `not`. -/
def setOperator (draft : FilterDraft) (name : String) : Except ParseFault FilterDraft :=
  match draft.operator with
  | none => .ok { draft with operator := some name }
  | some held =>
      if held = "is" ∧ name = "not" ∧ draft.negated = false then .ok { draft with negated := true }
      else .error (.operatorAlreadySet draft.column held name)

def setValue (draft : FilterDraft) (value : Token) : Except ParseFault FilterDraft :=
  match draft.operator, draft.value with
  | none, _ => .error (.valueBeforeOperator draft.column value.content)
  | some _, some held => .error (.valueAlreadySet draft.column held.content)
  | some _, none => .ok { draft with value := some value }

def build (draft : FilterDraft) : Except ParseFault Filter :=
  match draft.operator, draft.value with
  | none, _ => .error (.missingOperator draft.column)
  | some _, none => .error (.missingValue draft.column)
  | some name, some value =>
      match Operator.ofName? name with
      | none => .error (.unknownOperator name)
      | some operator =>
          .ok ⟨.ofText draft.column, if draft.negated then .negation operator else operator, value⟩

end FilterDraft

end DocQuery
