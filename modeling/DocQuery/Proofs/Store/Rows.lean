import DocQuery.Proofs.Evaluation.Faults
import DocQuery.Proofs.Evaluation.Paths
import DocQuery.Proofs.Json.Fields

/-!
Rows of selected columns. An entry for the whole record decides alone. Otherwise the first column
with a foreign qualifier is the fault, and without one the row holds under each key what the last
column supplies that is shown under this key and found in the record (`project_keeps_selected`).
-/

namespace DocQuery

open Grammar

section Entries

variable {record : Json} {table : Table} {entry : String}

theorem cutAtFirstDot_iff (text : String) (column : ColumnRef) :
    CutAtFirstDot text column ↔ ColumnRef.ofText text = column := by
  constructor
  · intro cut
    obtain ⟨name, _ | qualifier⟩ := column
    · obtain ⟨rfl, free⟩ : text = name ∧ '.' ∉ text.toList := cut
      exact @ofText_render ⟨text, none⟩ free
    · obtain ⟨rfl, free⟩ : text = qualifier ++ "." ++ name ∧ '.' ∉ qualifier.toList := cut
      exact @ofText_render ⟨name, some qualifier⟩ free
  · rintro rfl
    exact cutAtFirstDot_ofText text

def IsWhole (table : Table) (entry : String) : Prop :=
  entry = "*" ∨ entry = table.name ∨ table.aliasName = some entry

/-- The part of the entry before its first dot does not name the table. -/
def Foreign (table : Table) (entry qualifier : String) : Prop :=
  (∃ path, CutAtFirstDot entry ⟨path, some qualifier⟩) ∧ qualifier ≠ table.name ∧
    table.aliasName ≠ some qualifier

/-- The path of the entry, without its qualifier, ends in the key and leads to the value. -/
def Supplies (record : Json) (entry key : String) (value : Json) : Prop :=
  ∃ column, CutAtFirstDot entry column ∧ IsLastSegment column.name key ∧
    record.lookup? column.name = some value

theorem isWholeRecord_iff : isWholeRecord table entry = true ↔ IsWhole table entry := by
  rw [isWholeRecord, Bool.or_eq_true, beq_iff_eq, answersTo_iff, IsWhole]

theorem foreign_iff (qualifier : String) :
    Foreign table entry qualifier ↔
      (ColumnRef.ofText entry).qualifier = some qualifier ∧ qualifier ≠ table.name ∧
        table.aliasName ≠ some qualifier := by
  refine and_congr_left fun _ => ?_
  simp only [cutAtFirstDot_iff]
  constructor
  · rintro ⟨path, read⟩
    rw [read]
  · intro qualified
    exact ⟨(ColumnRef.ofText entry).name, by rw [← qualified]⟩

theorem path_fault_iff (fault : EvalFault) :
    (ColumnRef.ofText entry).path table = .error fault ↔
      ∃ qualifier, Foreign table entry qualifier ∧
        fault = .unknownAlias qualifier entry table.render := by
  simp only [path_eq_error_iff, render_ofText, foreign_iff, and_assoc]

theorem native_iff : (∀ qualifier, ¬ Foreign table entry qualifier) ↔
    (ColumnRef.ofText entry).path table = .ok (ColumnRef.ofText entry).name := by
  simp only [path_eq_ok_iff, true_and, foreign_iff, Option.mem_def]
  refine forall_congr' fun qualifier => ?_
  rw [not_and, ne_eq, ne_eq, ← not_or, not_not]

def supply? (record : Json) (key entry : String) : Option Json :=
  if lastSegment (ColumnRef.ofText entry).name = key then
    record.lookup? (ColumnRef.ofText entry).name
  else none

theorem supply?_eq_some_iff (key : String) (value : Json) :
    supply? record key entry = some value ↔ Supplies record entry key value := by
  unfold supply? Supplies
  simp only [cutAtFirstDot_iff, exists_eq_left', Option.ite_none_right_eq_some, lastSegment_eq_iff]

theorem supply?_eq_none_iff (key : String) :
    supply? record key entry = none ↔ ∀ value, ¬ Supplies record entry key value := by
  simp only [Option.eq_none_iff_forall_ne_some, ne_eq, supply?_eq_some_iff]

end Entries

section Columns

variable {record : Json} {table : Table} {entry key : String} {columns : List String}
  {row fields : List (String × Json)}

/-- What the last entry puts under the key that puts anything there. -/
def lastSupply? (record : Json) (key : String) : List String → Option Json
  | [] => none
  | entry :: rest => (lastSupply? record key rest).or (supply? record key entry)

theorem projectColumns_foreign {fault : EvalFault}
    (foreign : (ColumnRef.ofText entry).path table = .error fault) (row : List (String × Json))
    (rest : List String) : projectColumns record table row (entry :: rest) = .error fault := by
  simp [projectColumns, foreign]

theorem projectColumns_native (record : Json)
    (native : ∀ qualifier, ¬ Foreign table entry qualifier)
    (ascending : Json.Ascending row) (rest : List String) :
    ∃ longer, projectColumns record table row (entry :: rest) =
        projectColumns record table longer rest ∧ Json.Ascending longer ∧
      ∀ key, longer.lookup key = (supply? record key entry).or (row.lookup key) := by
  simp only [projectColumns, native_iff.mp native, supply?]
  cases record.lookup? (ColumnRef.ofText entry).name with
  | none => exact ⟨row, rfl, ascending, by simp⟩
  | some value =>
      refine ⟨_, rfl, Json.ascending_insertField ascending, fun key => ?_⟩
      rw [Json.lookup_insertField]
      by_cases same : key = lastSegment (ColumnRef.ofText entry).name
      · simp [same]
      · simp [same, Ne.symm same]

theorem projectColumns_eq_ok (record : Json)
    (native : ∀ entry ∈ columns, ∀ qualifier, ¬ Foreign table entry qualifier)
    (ascending : Json.Ascending row) :
    ∃ fields, projectColumns record table row columns = .ok fields ∧ Json.Ascending fields ∧
      ∀ key, fields.lookup key = (lastSupply? record key columns).or (row.lookup key) := by
  induction columns generalizing row with
  | nil => exact ⟨row, rfl, ascending, fun key => rfl⟩
  | cons entry rest ih =>
      rw [List.forall_mem_cons] at native
      obtain ⟨longer, step, ascending, held⟩ := projectColumns_native record native.1 ascending rest
      obtain ⟨fields, shown, ascending, found⟩ := ih native.2 ascending
      refine ⟨fields, step.trans shown, ascending, fun key => ?_⟩
      rw [found, held, lastSupply?, Option.or_assoc]

theorem projectColumns_eq_error_iff (ascending : Json.Ascending row) (fault : EvalFault) :
    projectColumns record table row columns = .error fault ↔
      ∃ before entry after, columns = before ++ entry :: after ∧
        (∀ earlier ∈ before, ∀ qualifier, ¬ Foreign table earlier qualifier) ∧
        (ColumnRef.ofText entry).path table = .error fault := by
  induction columns generalizing row with
  | nil => simp [projectColumns]
  | cons first rest ih =>
      rw [exists_split_cons]
      by_cases native : ∀ qualifier, ¬ Foreign table first qualifier
      · obtain ⟨longer, step, ascending, -⟩ := projectColumns_native record native ascending rest
        rw [step, ih ascending, native_iff.mp native]
        simp [native]
      · obtain ⟨qualifier, foreign⟩ := not_forall_not.mp native
        have fails := (path_fault_iff _).mpr ⟨qualifier, foreign, rfl⟩
        rw [projectColumns_foreign fails, fails]
        simp [native]

theorem lastSupply?_eq_none_iff (key : String) (columns : List String) :
    lastSupply? record key columns = none ↔
      ∀ entry ∈ columns, ∀ value, ¬ Supplies record entry key value := by
  induction columns with
  | nil => simp [lastSupply?]
  | cons entry rest ih =>
      rw [lastSupply?, Option.or_eq_none_iff, ih, supply?_eq_none_iff, List.forall_mem_cons,
        and_comm]

theorem lastSupply?_eq_some_iff (key : String) (columns : List String) (value : Json) :
    lastSupply? record key columns = some value ↔
      ∃ before entry after, columns = before ++ entry :: after ∧ Supplies record entry key value ∧
        ∀ later ∈ after, ∀ other, ¬ Supplies record later key other := by
  induction columns with
  | nil => simp [lastSupply?]
  | cons first rest ih =>
      rw [lastSupply?, Option.or_eq_some_iff, ih, lastSupply?_eq_none_iff, supply?_eq_some_iff,
        exists_split_cons, or_comm, and_comm]

theorem project_whole (whole : ∃ entry ∈ columns, IsWhole table entry) :
    project record columns table = .ok record := by
  have found : columns.any (isWholeRecord table) = true := by
    simpa only [List.any_eq_true, isWholeRecord_iff] using whole
  rw [project, if_pos found]

theorem project_columns (someColumns : ∀ entry ∈ columns, ¬ IsWhole table entry) :
    project record columns table = (projectColumns record table [] columns).map Json.object := by
  have none : ¬ columns.any (isWholeRecord table) = true := by
    simpa only [List.any_eq_true, isWholeRecord_iff, not_exists, not_and] using someColumns
  rw [project, if_neg none]

end Columns

/-- A row is the whole record if an entry stands for it. Otherwise the first entry with a foreign
qualifier is refused, and if there is none the row is an object that holds under each key the value
of the last entry that supplies one. -/
theorem project_keeps_selected (record : Json) (columns : List String) (table : Table) :
    ((∃ entry ∈ columns, IsWhole table entry) → project record columns table = .ok record) ∧
    ((∀ entry ∈ columns, ¬ IsWhole table entry) →
      (∀ fault, project record columns table = .error fault ↔
        ∃ before entry after qualifier, columns = before ++ entry :: after ∧
          (∀ earlier ∈ before, ∀ qualifier, ¬ Foreign table earlier qualifier) ∧
          Foreign table entry qualifier ∧ fault = .unknownAlias qualifier entry table.render) ∧
      ((∀ entry ∈ columns, ∀ qualifier, ¬ Foreign table entry qualifier) →
        ∃ fields, project record columns table = .ok (.object fields) ∧ Json.Ascending fields ∧
          ∀ key,
            (fields.lookup key = none ↔
              ∀ entry ∈ columns, ∀ value, ¬ Supplies record entry key value) ∧
            ∀ value, fields.lookup key = some value ↔
              ∃ before entry after, columns = before ++ entry :: after ∧
                Supplies record entry key value ∧
                ∀ later ∈ after, ∀ other, ¬ Supplies record later key other)) := by
  have empty : Json.Ascending [] := .nil
  refine ⟨project_whole, fun someColumns => ?_⟩
  rw [project_columns someColumns]
  constructor
  · intro fault
    simp only [map_eq_error_iff, projectColumns_eq_error_iff empty, path_fault_iff,
      exists_and_left]
  · intro native
    obtain ⟨fields, shown, ascending, found⟩ := projectColumns_eq_ok record native empty
    refine ⟨fields, by rw [shown]; rfl, ascending, fun key => ?_⟩
    -- Every entry replaces what is under its key, so that the last one stays.
    have held : fields.lookup key = lastSupply? record key columns := by simp [found]
    rw [held]
    exact ⟨lastSupply?_eq_none_iff key columns, lastSupply?_eq_some_iff key columns⟩

def addressed : Json :=
  .object [("address", .object [("name", .text "Home")]), ("name", .text "Ann")]

theorem last_present_name_shown :
    (∃ fields, project addressed ["p.name", "people.address.name", "p.town.name"]
        ⟨"people", some "p"⟩ = .ok (.object fields) ∧
      fields.lookup "name" = some (.text "Home") ∧ fields.lookup "town" = none) ∧
    project addressed ["name", "q.name", "r.name"] ⟨"people", some "p"⟩ =
      .error (.unknownAlias "q" "q.name" "people p") ∧
    project addressed ["q.name", "p"] ⟨"people", some "p"⟩ = .ok addressed := by
  refine ⟨?_, ?_, ?_⟩
  · have shows := (project_keeps_selected addressed
      ["p.name", "people.address.name", "p.town.name"] ⟨"people", some "p"⟩).2
      (by simp [IsWhole])
    obtain ⟨fields, shown, -, held⟩ := shows.2 (by
      simp only [native_iff, List.forall_mem_cons]
      exact ⟨rfl, rfl, rfl, by simp⟩)
    refine ⟨fields, shown, ((held "name").2 _).mpr ?_, (held "town").1.mpr ?_⟩
    · exact ⟨["p.name"], "people.address.name", ["p.town.name"], rfl,
        (supply?_eq_some_iff _ _).mp rfl, by simp only [← supply?_eq_none_iff]; decide⟩
    · simp only [← supply?_eq_none_iff]
      decide
  · have refuses := (project_keeps_selected addressed ["name", "q.name", "r.name"]
      ⟨"people", some "p"⟩).2 (by simp [IsWhole])
    refine (refuses.1 _).mpr ⟨["name"], "q.name", ["r.name"], "q", rfl, ?_, ?_, rfl⟩
    · simp only [native_iff, List.forall_mem_singleton]
      rfl
    · exact (foreign_iff _).mpr (by decide)
  · exact (project_keeps_selected addressed ["q.name", "p"] ⟨"people", some "p"⟩).1
      ⟨"p", by simp, .inr (.inr rfl)⟩

end DocQuery
