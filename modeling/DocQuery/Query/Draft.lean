import DocQuery.Query.FilterDraft

/-!
A query that is still being read, token by token. The keywords `select`, `from` and `where` open
the clauses; every other token is read by the clause that is open. A refused token leaves a draft
that goes on reading.
-/

namespace DocQuery

inductive Clause where
  | select
  | from
  | where
  deriving DecidableEq

/-- `tableTokens` counts the tokens of the table, its name and its alias. `connective` is the last
one read, and while `dangling` no filter has begun behind it. -/
structure QueryDraft where
  clause : Option Clause := none
  columns : List String := []
  table : Option Table := none
  tableTokens : Nat := 0
  group : Option FilterGroup := none
  pending : Option FilterDraft := none
  connective : Option Connective := none
  dangling : Bool := false
  deriving DecidableEq

/-- The draft after a token, and the fault if the token was refused. -/
structure Fed where
  draft : QueryDraft
  fault : Option ParseFault := none

namespace QueryDraft

def refuse (draft : QueryDraft) (fault : ParseFault) : Fed := ⟨draft, some fault⟩

def openSelect (draft : QueryDraft) : Fed :=
  if draft.clause.isSome then draft.refuse .repeatedSelect
  else ⟨{ draft with clause := some .select }, none⟩

def openFrom (draft : QueryDraft) : Fed :=
  if draft.clause ≠ some .select then draft.refuse .fromWithoutSelect
  else if draft.columns = [] then draft.refuse .emptySelect
  else ⟨{ draft with clause := some .from }, none⟩

def openWhere (draft : QueryDraft) : Fed :=
  if draft.clause = some .where then draft.refuse .repeatedWhere
  else if draft.table = none then draft.refuse .whereWithoutTable
  else ⟨{ draft with clause := some .where, group := some {} }, none⟩

def readTable (draft : QueryDraft) (token : Token) : Fed :=
  if token.kind ≠ .query then
    draft.refuse (.unsupportedTableToken token.kind token.content)
  else match draft.tableTokens with
    | 0 => ⟨{ draft with table := some { name := token.content }, tableTokens := 1 }, none⟩
    | 1 =>
        let table := draft.table.map fun table => { table with aliasName := some token.content }
        ⟨{ draft with table, tableTokens := 2 }, none⟩
    | _ => draft.refuse (.extraTableToken token.content)

def file (draft : QueryDraft) (filter : Filter) (connective : Connective) : QueryDraft :=
  { draft with group := some ((draft.group.getD {}).file filter connective) }

/-- A connective ends the pending filter, which is gone even if it turns out to be incomplete. -/
def closeFilter (draft : QueryDraft) (connective : Connective) : Fed :=
  match draft.pending with
  | none => draft.refuse (.connectiveWithoutFilter connective)
  | some pending =>
      let draft := { draft with pending := none }
      match pending.build with
      | .error fault => draft.refuse fault
      | .ok filter =>
          ⟨{ draft.file filter connective with
              connective := some connective, dangling := true }, none⟩

def beginFilter (draft : QueryDraft) (token : Token) : Fed :=
  match token.kind with
  | .query => ⟨{ draft with pending := some { column := token.content }, dangling := false }, none⟩
  | .operator => draft.refuse (.operatorWithoutColumn token.content)
  | _ => draft.refuse (.valueWithoutColumn token.content)

def keep (draft : QueryDraft) : Except ParseFault FilterDraft → Fed
  | .ok pending => ⟨{ draft with pending := some pending }, none⟩
  | .error fault => draft.refuse fault

def isValue (token : Token) : Bool :=
  match token.kind with
  | .text | .number | .array => true
  | .query => token.content == "true" || token.content == "false" || token.content == "null"
  | _ => false

def isOperator (token : Token) : Bool :=
  token.kind == .operator || token.kind == .query && token.content == "in"

def continueFilter (draft : QueryDraft) (pending : FilterDraft) (token : Token) : Fed :=
  if pending.value.isSome then
    draft.refuse (.unclosedFilter pending.column token.content)
  else if pending.operator.isNone ∨ token.kind = .operator then
    if isOperator token then draft.keep (pending.setOperator token.content)
    else draft.refuse (.operatorExpected pending.column token.content)
  else if isValue token then draft.keep (pending.setValue token)
  else draft.refuse (.unsupportedValue token.kind token.content)

def readFilter (draft : QueryDraft) (token : Token) : Fed :=
  if token.kind = .block then draft.refuse .parenthesisedGroup
  else if token.kind = .query ∧ token.content = "and" then draft.closeFilter .and
  else if token.kind = .query ∧ token.content = "or" then draft.closeFilter .or
  else match draft.pending with
    | none => draft.beginFilter token
    | some pending => draft.continueFilter pending token

def feed (draft : QueryDraft) (token : Token) : Fed :=
  if token.isComment then ⟨draft, none⟩
  else if token.kind = .query ∧ token.content = "select" then draft.openSelect
  else if token.kind = .query ∧ token.content = "from" then draft.openFrom
  else if token.kind = .query ∧ token.content = "where" then draft.openWhere
  else match draft.clause with
    | none => draft.refuse (.beforeSelect token.content)
    | some .select => ⟨{ draft with columns := draft.columns ++ [token.content] }, none⟩
    | some .from => draft.readTable token
    | some .where => draft.readFilter token

/-- Files the pending filter, if there is one, under the last connective, or under `and` if there
was none. A connective must not be the last thing read. -/
def settle (draft : QueryDraft) : Except ParseFault QueryDraft :=
  match draft.pending with
  | some pending => do
      let filter ← pending.build
      .ok { draft.file filter (draft.connective.getD .and) with pending := none }
  | none =>
      if draft.dangling then .error (.endsWithConnective (draft.connective.getD .and))
      else .ok draft

def build (draft : QueryDraft) : Except ParseFault Query := do
  let draft ← draft.settle
  match draft.table with
  | none => .error .missingTable
  | some table =>
      if draft.group.any FilterGroup.isEmpty then .error .emptyWhere
      else .ok { columns := draft.columns, table, groups := draft.group.map ([·]) }

def feedAll (draft : QueryDraft) : List Token → Except ParseFault QueryDraft
  | [] => .ok draft
  | token :: rest =>
      match draft.feed token with
      | ⟨_, some fault⟩ => .error fault
      | ⟨next, none⟩ => next.feedAll rest

end QueryDraft

namespace Query

def ofTokens (tokens : List Token) : Except ParseFault Query := do
  let draft ← ({} : QueryDraft).feedAll tokens
  draft.build

def parse (text : String) : Except ParseFault Query :=
  match tokenise text with
  | .error failure => .error (.lexing failure)
  | .ok tokens => ofTokens tokens

end Query

end DocQuery
