import DocQuery.Evaluation.Matching
import DocQuery.Query.Draft
import DocQuery.Store.Projection
import DocQuery.Text.Lowercase

/-!
A store of records in the order of their insertion, answering queries on one container.
-/

namespace DocQuery

structure StoreConfig where
  container : String
  caseSensitive : Bool := true
  deriving DecidableEq

def StoreConfig.serves (config : StoreConfig) (table : String) : Bool :=
  if config.caseSensitive then config.container == table
  else Text.lowercase config.container == Text.lowercase table

inductive StoreFault where
  | parse (query : String) (fault : ParseFault)
  | containerMismatch (requested container : String)
  | evaluation (fault : EvalFault)
  | unconvertible (reason : String)

def StoreFault.message : StoreFault → String
  | .parse query fault => s!"Invalid query '{query}': " ++ fault.message
  | .containerMismatch requested container =>
      s!"Query reads from '{requested}' but this store holds '{container}'"
  | .evaluation fault => "Evaluation error: " ++ fault.message
  | .unconvertible reason => unconvertibleText reason

structure Store (α : Type) where
  config : StoreConfig
  records : List α := []

namespace Store

variable {α : Type}

def insert (store : Store α) (record : α) : Store α :=
  { store with records := store.records ++ [record] }

def size (store : Store α) : Nat := store.records.length

def isEmpty (store : Store α) : Bool := store.records.isEmpty

def prepare (store : Store α) (text : String) : Except StoreFault Query :=
  match Query.parse text with
  | .error fault => .error (.parse text fault)
  | .ok query =>
      if store.config.serves query.table.name then .ok query
      else .error (.containerMismatch query.table.name store.config.container)

variable [Recordable α]

def accepted? (query : Query) (record : α) : Except StoreFault (Option Json) :=
  match Recordable.toRecord record with
  | .error reason => .error (.unconvertible reason)
  | .ok document =>
      match query.accepts document with
      | .error fault => .error (.evaluation fault)
      | .ok accepted => .ok (if accepted then some document else none)

def matching (query : Query) : List α → Except StoreFault (List α)
  | [] => .ok []
  | record :: rest =>
      match accepted? query record with
      | .error fault => .error fault
      | .ok none => matching query rest
      | .ok (some _) => (matching query rest).map (record :: ·)

/-- The rows of the accepted records in order. The first record that fails, or whose row does,
ends the search. -/
def rows (query : Query) : List α → Except StoreFault (List Json)
  | [] => .ok []
  | record :: rest =>
      match accepted? query record with
      | .error fault => .error fault
      | .ok none => rows query rest
      | .ok (some document) =>
          match project document query.columns query.table with
          | .error fault => .error (.evaluation fault)
          | .ok row => (rows query rest).map (row :: ·)

def query (store : Store α) (text : String) : Except StoreFault (List α) :=
  match store.prepare text with
  | .error fault => .error fault
  | .ok query => matching query store.records

def select (store : Store α) (text : String) : Except StoreFault (List Json) :=
  match store.prepare text with
  | .error fault => .error fault
  | .ok query => rows query store.records

end Store

end DocQuery
