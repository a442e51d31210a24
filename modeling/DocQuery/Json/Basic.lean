import DocQuery.Json.Number

/-!
JSON documents. The fields of an object are kept in ascending order of their keys, with one field
for each key.
-/

namespace DocQuery

inductive Json where
  | null
  | bool (value : Bool)
  | number (value : Json.Number)
  | text (value : String)
  | array (items : List Json)
  | object (fields : List (String × Json))
  deriving Inhabited

namespace Json

def insertField (key : String) (value : Json) : List (String × Json) → List (String × Json)
  | [] => [(key, value)]
  | (other, held) :: rest =>
      if key < other then (key, value) :: (other, held) :: rest
      else if key = other then (key, value) :: rest
      else (other, held) :: insertField key value rest

/-- The object with the given fields; of two fields with one key the later one stays. -/
def ofFields (fields : List (String × Json)) : Json :=
  .object (fields.foldl (fun held (key, value) => insertField key value held) [])

def field? (key : String) : Json → Option Json
  | .object fields => fields.lookup key
  | _ => none

def isObject : Json → Bool
  | .object _ => true
  | _ => false

def ofOption {α : Type} (encode : α → Json) : Option α → Json
  | none => .null
  | some value => encode value

mutual

/-- Structural equality. Numbers must be of one kind, so `1` and `1.0` differ. -/
def same : Json → Json → Bool
  | .null, .null => true
  | .bool a, .bool b => a == b
  | .number a, .number b => a.same b
  | .text a, .text b => a == b
  | .array a, .array b => sameItems a b
  | .object a, .object b => sameFields a b
  | _, _ => false

def sameItems : List Json → List Json → Bool
  | [], [] => true
  | a :: as, b :: bs => same a b && sameItems as bs
  | _, _ => false

def sameFields : List (String × Json) → List (String × Json) → Bool
  | [], [] => true
  | (key, a) :: as, (other, b) :: bs => key == other && same a b && sameFields as bs
  | _, _ => false

end

end Json

end DocQuery
