import DocQuery.Evaluation.Comparison
import DocQuery.Evaluation.Field
import DocQuery.Evaluation.Literal

/-!
Whether a record satisfies an operator, a filter, a group of filters and a query.
-/

namespace DocQuery

/-- Applies an operator to a field of a record, which may be missing. A missing field satisfies no
comparison, so it satisfies every negated one. -/
def Operator.apply (field : Option Json) (value : Json) : Operator → Except EvalFault Bool
  | .negation operator => (operator.apply field value).map (!·)
  | .equalTo => .ok (field.any (·.equals value))
  | .isIn =>
      match field, value with
      | none, _ => .ok false
      | some field, .array items => .ok (items.any field.equals)
      | some _, found => .error (.expectedArray found)
  | .greaterThan => .ok (field.any fun field => field.order? value == some .gt)
  | .greaterThanOrEqualTo =>
      .ok (field.any fun field => (field.order? value).any (·.isGE))
  | .lessThan => .ok (field.any fun field => field.order? value == some .lt)
  | .lessThanOrEqualTo =>
      .ok (field.any fun field => (field.order? value).any (·.isLE))

def Filter.accepts (filter : Filter) (record : Json) (table : Table) : Except EvalFault Bool := do
  let value ← filter.value.literal
  let path ← filter.column.path table
  filter.operator.apply (record.lookup? path) value

namespace FilterGroup

def allAccept (record : Json) (table : Table) : List Filter → Except EvalFault Bool
  | [] => .ok true
  | filter :: rest =>
      match filter.accepts record table with
      | .ok true => allAccept record table rest
      | other => other

def anyAccepts (record : Json) (table : Table) : List Filter → Except EvalFault Bool
  | [] => .ok false
  | filter :: rest =>
      match filter.accepts record table with
      | .ok false => anyAccepts record table rest
      | other => other

/-- An empty group accepts everything. Otherwise all `and` filters must accept the record, if there
are any, or some `or` filter. -/
def accepts (group : FilterGroup) (record : Json) (table : Table) : Except EvalFault Bool :=
  match group.and, group.or with
  | [], [] => .ok true
  | _ :: _, [] => allAccept record table group.and
  | [], _ :: _ => anyAccepts record table group.or
  | _ :: _, _ :: _ =>
      match allAccept record table group.and with
      | .ok false => anyAccepts record table group.or
      | other => other

end FilterGroup

class Recordable (α : Type) where
  toRecord : α → Except String Json

instance : Recordable Json := ⟨.ok⟩

namespace Query

def groupsAccept (record : Json) (table : Table) : List FilterGroup → Except EvalFault Bool
  | [] => .ok true
  | group :: rest =>
      match group.accepts record table with
      | .ok true => groupsAccept record table rest
      | other => other

def accepts (query : Query) (record : Json) : Except EvalFault Bool :=
  groupsAccept record query.table (query.groups.getD [])

def acceptsRecord {α : Type} [Recordable α] (query : Query) (record : α) : Except EvalFault Bool :=
  match Recordable.toRecord record with
  | .error reason => .error (.unconvertible reason)
  | .ok document => query.accepts document

end Query

end DocQuery
