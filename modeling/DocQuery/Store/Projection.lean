import DocQuery.Evaluation.Field

/-!
The row that a query shows for a record: the record itself, or the selected columns.
-/

namespace DocQuery

def isWholeRecord (table : Table) (entry : String) : Bool :=
  entry == "*" || table.answersTo entry

def lastSegment (path : String) : String :=
  String.ofList ((segments path.toList).getLastD [])

/-- Adds the selected columns to a row in order. A column that the record lacks is left out, and a
later one takes the place of an earlier one of the same name. -/
def projectColumns (record : Json) (table : Table) (row : List (String × Json)) :
    List String → Except EvalFault (List (String × Json))
  | [] => .ok row
  | entry :: rest =>
      match (ColumnRef.ofText entry).path table with
      | .error fault => .error fault
      | .ok path =>
          match record.lookup? path with
          | some value =>
              projectColumns record table (Json.insertField (lastSegment path) value row) rest
          | none => projectColumns record table row rest

def project (record : Json) (columns : List String) (table : Table) : Except EvalFault Json :=
  if columns.any (isWholeRecord table) then .ok record
  else (projectColumns record table [] columns).map Json.object

end DocQuery
