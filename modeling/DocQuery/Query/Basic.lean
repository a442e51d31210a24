import DocQuery.Query.Operator
import DocQuery.Token

/-!
Queries: a select list, a table, and groups of filters. Every part is written back as query text
by its `render`.
-/

namespace DocQuery

def splitAtDot? : List Char → Option (List Char × List Char)
  | [] => none
  | c :: rest =>
      if c = '.' then some ([], rest)
      else (splitAtDot? rest).map fun (before, after) => (c :: before, after)

structure ColumnRef where
  name : String
  qualifier : Option String
  deriving DecidableEq

namespace ColumnRef

def ofText (text : String) : ColumnRef :=
  match splitAtDot? text.toList with
  | some (qualifier, name) => ⟨String.ofList name, some (String.ofList qualifier)⟩
  | none => ⟨text, none⟩

def render (column : ColumnRef) : String :=
  match column.qualifier with
  | some qualifier => qualifier ++ "." ++ column.name
  | none => column.name

end ColumnRef

structure Table where
  name : String
  aliasName : Option String := none
  deriving DecidableEq

namespace Table

def answersTo (table : Table) (text : String) : Bool :=
  table.aliasName == some text || table.name == text

def render (table : Table) : String :=
  match table.aliasName with
  | some aliasName => table.name ++ " " ++ aliasName
  | none => table.name

end Table

structure Filter where
  column : ColumnRef
  operator : Operator
  value : Token
  deriving DecidableEq

def Filter.render (filter : Filter) : String :=
  filter.column.render ++ " " ++ filter.operator.symbol ++ " " ++ filter.value.source

inductive Connective where
  | and
  | or
  deriving DecidableEq

def Connective.word : Connective → String
  | .and => "and"
  | .or => "or"

/-- Filters filed by connective. A group asks for all of its `and` filters or for one of its `or`
filters. -/
structure FilterGroup where
  and : List Filter := []
  or : List Filter := []
  deriving DecidableEq

namespace FilterGroup

def isEmpty (group : FilterGroup) : Bool := group.and.isEmpty && group.or.isEmpty

def size (group : FilterGroup) : Nat := group.and.length + group.or.length

def file (group : FilterGroup) (filter : Filter) : Connective → FilterGroup
  | .and => { group with and := group.and ++ [filter] }
  | .or => { group with or := group.or ++ [filter] }

def renderLeading (connective : Connective) (filters : List Filter) : String :=
  String.join (filters.map fun filter => filter.render ++ " " ++ connective.word ++ " ")

def renderTrailing (connective : Connective) (filters : List Filter) : String :=
  (" " ++ connective.word ++ " ").intercalate (filters.map Filter.render)

/-- Reading a chain of filters files each one under the connective behind it and the last one under
the last connective. So the list that holds the last filter is written last: the `or` list if it
has two filters or the `and` list none, and otherwise the `and` list. -/
def render (group : FilterGroup) : String :=
  if 2 ≤ group.or.length ∨ group.and = [] then
    renderLeading .and group.and ++ renderTrailing .or group.or
  else renderLeading .or group.or ++ renderTrailing .and group.and

end FilterGroup

/-- A query: the entries of its select list as they stand in the text, its table, and the filter
groups of its where clause, if it has one. -/
structure Query where
  columns : List String
  table : Table
  groups : Option (List FilterGroup) := none
  deriving DecidableEq

namespace Query

def filters (query : Query) : List Filter :=
  (query.groups.getD []).flatMap fun group => group.and ++ group.or

def render (query : Query) : String :=
  "select " ++ ", ".intercalate query.columns ++ " from " ++ query.table.render ++
    String.join ((query.groups.getD []).map fun group => " where " ++ group.render)

end Query

end DocQuery
