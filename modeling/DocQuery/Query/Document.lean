import DocQuery.Json.Basic
import DocQuery.Query.Basic

/-!
The JSON form of tokens, operators and queries.
-/

namespace DocQuery

namespace Token

mutual

def toJson : Token → Json
  | ⟨kind, content, elements⟩ =>
      let own := [("content", .text content), ("kind", .text kind.name)]
      match elements with
      | [] => Json.ofFields own
      | first :: rest =>
          Json.ofFields (own ++ [("elements", .array (toJson first :: toJsonList rest))])

def toJsonList : List Token → List Json
  | [] => []
  | token :: rest => toJson token :: toJsonList rest

end

end Token

def Operator.toJson : Operator → Json
  | .equalTo => .text "EqualTo"
  | .isIn => .text "In"
  | .greaterThan => .text "GreaterThan"
  | .greaterThanOrEqualTo => .text "GreaterThanOrEqualTo"
  | .lessThan => .text "LessThan"
  | .lessThanOrEqualTo => .text "LessThanOrEqualTo"
  | .negation operator => Json.ofFields [("Not", operator.toJson)]

def ColumnRef.toJson (column : ColumnRef) : Json :=
  Json.ofFields
    [("column_name", .text column.name), ("table_alias", Json.ofOption .text column.qualifier)]

def Table.toJson (table : Table) : Json :=
  Json.ofFields [("name", .text table.name), ("alias", Json.ofOption .text table.aliasName)]

def Filter.toJson (filter : Filter) : Json :=
  Json.ofFields
    [("column_name", filter.column.toJson), ("operator", filter.operator.toJson),
      ("value", filter.value.toJson)]

def FilterGroup.toJson (group : FilterGroup) : Json :=
  Json.ofFields
    [("and", .array (group.and.map Filter.toJson)), ("or", .array (group.or.map Filter.toJson))]

def Query.toJson (query : Query) : Json :=
  Json.ofFields
    [("select_columns", .array (query.columns.map fun column =>
        Json.ofFields [("expression", .text column)])),
      ("from", query.table.toJson),
      ("where", Json.ofOption (fun groups => .array (groups.map FilterGroup.toJson)) query.groups)]

end DocQuery
