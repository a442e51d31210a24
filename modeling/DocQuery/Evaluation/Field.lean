import DocQuery.Evaluation.Fault
import DocQuery.Query.Basic

/-!
Fields of a record. A column names a path, and the path is followed segment by segment: by key
through objects and by index through arrays.
-/

namespace DocQuery

def segments : List Char → List (List Char)
  | [] => [[]]
  | c :: rest =>
      if c = '.' then [] :: segments rest
      else match segments rest with
        | [] => [[c]]
        | first :: others => (c :: first) :: others

/-- An index into an array: decimal digits, perhaps behind a plus sign, of a value below
`2 ^ 64`. -/
def index? (segment : List Char) : Option Nat :=
  let digits := match segment with
    | '+' :: digits => digits
    | digits => digits
  if digits ≠ [] ∧ digits.all Char.isDigit then
    let index := Json.digitsValue digits
    if index < 18446744073709551616 then some index else none
  else none

namespace Json

def child? (document : Json) (segment : List Char) : Option Json :=
  match document with
  | .array items => (index? segment).bind fun index => items[index]?
  | document => document.field? (String.ofList segment)

def lookup? (document : Json) (path : String) : Option Json :=
  (segments path.toList).foldlM child? document

end Json

def ColumnRef.path (column : ColumnRef) (table : Table) : Except EvalFault String :=
  match column.qualifier with
  | none => .ok column.name
  | some qualifier =>
      if table.answersTo qualifier then .ok column.name
      else .error (.unknownAlias qualifier column.render table.render)

end DocQuery
