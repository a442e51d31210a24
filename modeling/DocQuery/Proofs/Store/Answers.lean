import Mathlib.Data.List.Forall2
import DocQuery.Proofs.Outcomes
import DocQuery.Store.Basic

/-!
The answers of a store. Whatever was asked between the insertions, a store holds the inserted
records in their order (`records_afterAll`). A query is answered by the records it accepts, or by
the fault of the first record that cannot be judged (`matching_answers`), and the rows shown for it
are those of the same records (`rows_eq_ok_iff`). So the two ways of reading agree
(`query_and_select_agree`).
-/

namespace DocQuery.Store

variable {α : Type}

section Histories

inductive Request (α : Type) where
  | insert (record : α)
  | prepare (text : String)
  | query (text : String)
  | select (text : String)

def after (store : Store α) : Request α → Store α
  | .insert record => store.insert record
  | .prepare _ | .query _ | .select _ => store

def afterAll (store : Store α) (requests : List (Request α)) : Store α :=
  requests.foldl after store

def Request.inserted? : Request α → Option α
  | .insert record => some record
  | .prepare _ | .query _ | .select _ => none

def inserted (requests : List (Request α)) : List α := requests.filterMap Request.inserted?

/-- Only insertions count in a history. -/
theorem records_afterAll (store : Store α) (requests : List (Request α)) :
    store.afterAll requests = { store with records := store.records ++ inserted requests } := by
  induction requests generalizing store with
  | nil => simp [afterAll, inserted]
  | cons request rest ih =>
      have step : store.afterAll (request :: rest) = (store.after request).afterAll rest := rfl
      rw [step, ih]
      cases request <;> simp [after, insert, inserted, Request.inserted?, List.filterMap_cons]

end Histories

variable [Recordable α]

section Verdicts

def verdict (query : Query) (record : α) : Except StoreFault Bool :=
  match Recordable.toRecord record with
  | .error reason => .error (.unconvertible reason)
  | .ok document => (query.accepts document).mapError .evaluation

/-- The record can be judged, one way or the other. -/
def Judged (query : Query) (record : α) : Prop := ∃ accepted, verdict query record = .ok accepted

def isAccepted (query : Query) (record : α) : Bool := (verdict query record).toOption == some true

/-- What answers a query on records: the accepted ones in order, or the fault of the first record
that cannot be judged. -/
inductive Answers (query : Query) (records : List α) : Except StoreFault (List α) → Prop where
  | found (judged : ∀ record ∈ records, Judged query record) :
      Answers query records (.ok (records.filter (isAccepted query)))
  | failed {before rest : List α} {record : α} {fault : StoreFault}
      (split : records = before ++ record :: rest)
      (judged : ∀ earlier ∈ before, Judged query earlier)
      (failed : verdict query record = .error fault) : Answers query records (.error fault)

def Shows (query : Query) (record : α) (row : Json) : Prop :=
  ∃ document, Recordable.toRecord record = .ok document ∧
    project document query.columns query.table = .ok row

variable {query : Query} {record : α}

theorem accepted?_of_fault {fault : StoreFault} (failed : verdict query record = .error fault) :
    accepted? query record = .error fault := by
  unfold verdict at failed
  unfold accepted?
  cases converted : Recordable.toRecord record with
  | error reason => simpa [converted] using failed
  | ok document =>
      cases judged : query.accepts document with
      | error cause =>
          simp only [converted, judged] at failed ⊢
          cases failed
          rfl
      | ok accepted =>
          simp only [converted, judged] at failed
          cases failed

theorem accepted?_of_verdict {accepted : Bool} (judged : verdict query record = .ok accepted) :
    ∃ document, Recordable.toRecord record = .ok document ∧
      accepted? query record = .ok (if accepted then some document else none) := by
  unfold verdict at judged
  unfold accepted?
  cases converted : Recordable.toRecord record with
  | error reason => simp [converted] at judged
  | ok document =>
      refine ⟨document, rfl, ?_⟩
      cases decided : query.accepts document with
      | error cause =>
          simp only [converted, decided] at judged
          cases judged
      | ok answer =>
          simp only [converted, decided] at judged
          cases judged
          simp only [decided]

end Verdicts

section Loops

variable {query : Query}

/-- A record that can be judged stands before others without changing which of them fails first. -/
theorem Answers.cons {record : α} {records : List α} {accepted : Bool}
    {result : Except StoreFault (List α)} (judged : verdict query record = .ok accepted)
    (answers : Answers query records result) :
    Answers query (record :: records)
      (result.map fun found => if accepted then record :: found else found) := by
  cases answers with
  | found all =>
      have kept : (if accepted then record :: records.filter (isAccepted query)
          else records.filter (isAccepted query)) =
            (record :: records).filter (isAccepted query) := by
        cases accepted <;> simp [isAccepted, judged, Except.toOption]
      simp only [Except.map, kept]
      exact .found (List.forall_mem_cons.mpr ⟨⟨accepted, judged⟩, all⟩)
  | failed split earlier failed =>
      exact .failed (congrArg (record :: ·) split)
        (List.forall_mem_cons.mpr ⟨⟨accepted, judged⟩, earlier⟩) failed

theorem matching_accepted {record : α} {document : Json}
    (accepted : accepted? query record = .ok (some document)) (rest : List α) :
    matching query (record :: rest) = (matching query rest).map (record :: ·) := by
  simp [matching, accepted]

/-- The loop over the records stops at the first that cannot be judged, and otherwise finds exactly
the accepted ones. -/
theorem matching_answers (query : Query) (records : List α) :
    Answers query records (matching query records) := by
  induction records with
  | nil => exact .found (by simp)
  | cons record rest ih =>
      cases judged : verdict query record with
      | error fault =>
          have stops : matching query (record :: rest) = .error fault := by
            simp [matching, accepted?_of_fault judged]
          rw [stops]
          have split : record :: rest = [] ++ record :: rest := rfl
          exact .failed split (by simp) judged
      | ok accepted =>
          obtain ⟨document, -, found⟩ := accepted?_of_verdict judged
          -- The record only decides whether it is put in front of what is found in the rest.
          have goesOn : matching query (record :: rest) =
              (matching query rest).map fun found =>
                if accepted then record :: found else found := by
            cases accepted with
            | true => exact matching_accepted found rest
            | false =>
                simp only [matching, found, Bool.false_eq_true, ↓reduceIte]
                cases matching query rest <;> rfl
          rw [goesOn]
          exact ih.cons judged

/-- An accepted record needs a row before the rows of the others are asked for. -/
theorem rows_accepted_eq_ok_iff {record : α} {document : Json}
    (accepted : accepted? query record = .ok (some document)) (rest : List α)
    (shown : List Json) :
    rows query (record :: rest) = .ok shown ↔
      ∃ row more, project document query.columns query.table = .ok row ∧
        rows query rest = .ok more ∧ shown = row :: more := by
  cases projected : project document query.columns query.table with
  | error fault => simp [rows, accepted, projected]
  | ok row => simp [rows, accepted, projected, map_eq_ok_iff, @eq_comm _ shown]

/-- There are rows exactly if records are found and each of them has one. -/
theorem rows_eq_ok_iff (records : List α) (shown : List Json) :
    rows query records = .ok shown ↔
      ∃ found, matching query records = .ok found ∧ List.Forall₂ (Shows query) found shown := by
  -- The loop for rows can fail where the other one does not, at a row. The two go on together as
  -- long as every accepted record has one.
  induction records generalizing shown with
  | nil => simp [rows, matching, eq_comm]
  | cons record rest ih =>
      cases judged : verdict query record with
      | error fault => simp [rows, matching, accepted?_of_fault judged]
      | ok accepted =>
          obtain ⟨document, converted, found⟩ := accepted?_of_verdict judged
          cases accepted with
          | false => simpa [rows, matching, found] using ih shown
          | true =>
              have shows : ∀ row, Shows query record row ↔
                  project document query.columns query.table = .ok row := by
                simp [Shows, converted]
              rw [rows_accepted_eq_ok_iff found, matching_accepted found]
              simp only [← shows, ih, map_eq_ok_iff]
              constructor
              · rintro ⟨row, more, shown, ⟨others, accepted, pairs⟩, rfl⟩
                exact ⟨_, ⟨others, accepted, rfl⟩, .cons shown pairs⟩
              · rintro ⟨_, ⟨others, accepted, rfl⟩, pairs⟩
                obtain ⟨row, more, shown, tails, rfl⟩ := List.forall₂_cons_left_iff.mp pairs
                exact ⟨row, more, shown, ⟨others, accepted, tails⟩, rfl⟩

end Loops

section Agreement

variable {store : Store α} {text : String} {query : Query}

theorem query_of_prepared (prepared : store.prepare text = .ok query) :
    store.query text = matching query store.records := by
  simp [Store.query, prepared]

theorem select_eq_ok_iff (shown : List Json) :
    store.select text = .ok shown ↔
      ∃ query found, Query.parse text = .ok query ∧ store.query text = .ok found ∧
        List.Forall₂ (Shows query) found shown := by
  cases parsed : Query.parse text with
  | error fault => simp [Store.select, prepare, parsed]
  | ok query =>
      by_cases served : store.config.serves query.table.name = true
      · have prepared : store.prepare text = .ok query := by simp [prepare, parsed, served]
        simp [Store.select, Store.query, prepared, rows_eq_ok_iff]
      · simp [Store.select, Store.query, prepare, parsed, served]

end Agreement

/-- A store that holds the records answers a query text as it should: by the fault of the text, or
by the records that the query accepts, and by rows that are those of these records. -/
structure Answering (store : Store α) (records : List α) (text : String) : Prop where
  holds : store.records = records
  unread : ∀ fault, Query.parse text = .error fault →
    store.query text = .error (.parse text fault)
  unserved : ∀ query, Query.parse text = .ok query →
    store.config.serves query.table.name = false →
      store.query text = .error (.containerMismatch query.table.name store.config.container)
  answers : ∀ query, Query.parse text = .ok query →
    store.config.serves query.table.name = true → Answers query records (store.query text)
  shows : ∀ shown, store.select text = .ok shown ↔
    ∃ query found, Query.parse text = .ok query ∧ store.query text = .ok found ∧
      List.Forall₂ (Shows query) found shown
  fails : ∀ fault, store.query text = .error fault → ∃ fault', store.select text = .error fault'

theorem answering_of_records (store : Store α) (text : String) :
    Answering store store.records text where
  holds := rfl
  unread fault unread := by simp [Store.query, prepare, unread]
  unserved query parsed unserved := by simp [Store.query, prepare, parsed, unserved]
  answers query parsed served := by
    have prepared : store.prepare text = .ok query := by simp [prepare, parsed, served]
    rw [query_of_prepared prepared]
    exact matching_answers query store.records
  shows := select_eq_ok_iff
  fails fault failed := by
    cases selected : store.select text with
    | error fault' => exact ⟨fault', rfl⟩
    | ok shown =>
        obtain ⟨_, _, -, found, -⟩ := (select_eq_ok_iff shown).mp selected
        simp [failed] at found

/-- Whatever has been asked of a store before, its answers depend on the inserted records alone. -/
theorem query_and_select_agree (config : StoreConfig) (requests : List (Request α))
    (text : String) : Answering (afterAll { config } requests) (inserted requests) text := by
  have answering := answering_of_records (afterAll { config } requests) text
  have holds : (afterAll { config } requests).records = inserted requests := by
    simp [records_afterAll]
  rwa [holds] at answering

def townsman (name town : String) : Json := .object [("name", .text name), ("town", .text town)]

def townsmen : List (Request Json) :=
  [.insert (townsman "Ada" "Oslo"), .select "select", .insert (townsman "Bo" "Bergen"),
    .query "select * from towns", .insert (townsman "Cy" "Oslo")]

def people : StoreConfig := { container := "people" }

def inOslo : Query where
  columns := ["p.name"]
  table := ⟨"people", some "p"⟩
  groups := some [{ and := [⟨⟨"town", some "p"⟩, .equalTo, ⟨.text, "Oslo", []⟩⟩] }]

theorem townsmen_in_oslo :
    Answers inOslo (inserted townsmen) (.ok [townsman "Ada" "Oslo", townsman "Cy" "Oslo"]) ∧
      (afterAll { config := people } townsmen).select
          "select p.name from people p where p.town = 'Oslo'" =
        .ok [.object [("name", .text "Ada")], .object [("name", .text "Cy")]] := by
  have parsed : Query.parse "select p.name from people p where p.town = 'Oslo'" = .ok inOslo := rfl
  have answering := query_and_select_agree people townsmen
    "select p.name from people p where p.town = 'Oslo'"
  have prepared : (afterAll { config := people } townsmen).prepare
      "select p.name from people p where p.town = 'Oslo'" = .ok inOslo := by
    unfold prepare
    rw [parsed]
    rfl
  have found : (afterAll { config := people } townsmen).query
      "select p.name from people p where p.town = 'Oslo'" =
        .ok [townsman "Ada" "Oslo", townsman "Cy" "Oslo"] := by
    rw [query_of_prepared prepared]
    rfl
  have answers := answering.answers inOslo parsed (by decide)
  rw [found] at answers
  refine ⟨answers, (answering.shows _).mpr ⟨_, _, parsed, found, ?_⟩⟩
  exact .cons ⟨_, rfl, rfl⟩ (.cons ⟨_, rfl, rfl⟩ .nil)

end DocQuery.Store
