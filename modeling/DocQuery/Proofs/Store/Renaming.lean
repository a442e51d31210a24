import DocQuery.Proofs.Evaluation.Groups
import DocQuery.Proofs.Store.Rows

/-!
Another alias for the table of a query. The alias stands in three places: before the first dot of a
filter column, before the first dot of a select entry, and as a select entry for the whole record.
If the new alias is not in use yet and takes all these places, then each record gets the same
verdict, or the same fault but for the text that shows the table. The same holds of rows, as long as
no entry that is qualified by the alias reads like the name of the table
(`renamed_alias_unobserved`).
-/

namespace DocQuery

open Lexing Grammar

section Queries

def ColumnRef.rename (old new : String) (column : ColumnRef) : ColumnRef :=
  { column with
    qualifier := column.qualifier.map fun qualifier => if qualifier = old then new else qualifier }

/-- An entry is the alias itself or is read as a column. -/
def renameEntry (old new entry : String) : String :=
  if entry = old then new else ((ColumnRef.ofText entry).rename old new).render

def Table.withAlias (new : String) (table : Table) : Table := { table with aliasName := some new }

def Filter.rename (old new : String) (filter : Filter) : Filter :=
  { filter with column := filter.column.rename old new }

def FilterGroup.rename (old new : String) (group : FilterGroup) : FilterGroup where
  and := group.and.map (Filter.rename old new)
  or := group.or.map (Filter.rename old new)

def Query.rename (old new : String) (query : Query) : Query where
  columns := query.columns.map (renameEntry old new)
  table := query.table.withAlias new
  groups := query.groups.map (List.map (FilterGroup.rename old new))

/-- The query has the old alias, and nothing in it can be taken for the new one. -/
structure Query.Renamable (query : Query) (old new : String) : Prop where
  isAlias : query.table.aliasName = some old
  dotFree : '.' ∉ new.toList
  noEntry : new ∉ query.columns
  noEntryQualifier : ∀ entry ∈ query.columns, (ColumnRef.ofText entry).qualifier ≠ some new
  noFilterQualifier : ∀ filter ∈ query.filters, filter.column.qualifier ≠ some new

def EvalFault.inTable (text : String) : EvalFault → EvalFault
  | .unknownAlias qualifier column _ => .unknownAlias qualifier column text
  | fault => fault

end Queries

section Verdicts

variable {record : Json} {table : Table} {old new : String}

mutual

/-- Reading a value makes other faults than the one that shows the table. -/
theorem literal_inTable (text : String) : ∀ token : Token,
    token.literal.mapError (.inTable text) = token.literal
  | ⟨kind, content, elements⟩ => by
      cases kind with
      | number =>
          simp only [Token.literal, Token.numberLiteral]
          split <;> rfl
      | query =>
          simp only [Token.literal, Token.wordLiteral]
          split_ifs <;> rfl
      | array => simp only [Token.literal, mapError_map, literals_inTable text elements]
      | _ => rfl

theorem literals_inTable (text : String) : ∀ tokens : List Token,
    (Token.literals tokens).mapError (.inTable text) = Token.literals tokens
  | [] => rfl
  | token :: rest => by
      have first := literal_inTable text token
      simp only [Token.literals]
      cases read : token.literal with
      | error fault =>
          rw [read] at first
          exact congrArg Except.error (Except.error.inj first)
      | ok value => simp only [mapError_map, literals_inTable text rest]

end

theorem apply_inTable (text : String) (operator : Operator) (field : Option Json) (value : Json) :
    (operator.apply field value).mapError (.inTable text) = operator.apply field value := by
  induction operator with
  | negation operator ih => simp only [Operator.apply, mapError_map, ih]
  | isIn =>
      simp only [Operator.apply]
      split <;> rfl
  | _ => rfl

theorem answersTo_withAlias (isAlias : table.aliasName = some old) {qualifier : String}
    (noOld : qualifier ≠ old) (noNew : qualifier ≠ new) :
    (table.withAlias new).answersTo qualifier = table.answersTo qualifier := by
  simp [Table.answersTo, Table.withAlias, isAlias, beq_false_of_ne noOld.symm,
    beq_false_of_ne noNew.symm]

theorem ColumnRef.path_rename (isAlias : table.aliasName = some old) {column : ColumnRef}
    (unused : column.qualifier ≠ some new) :
    (column.rename old new).path (table.withAlias new) =
      (column.path table).mapError (.inTable (table.withAlias new).render) := by
  obtain ⟨name, _ | qualifier⟩ := column
  · rfl
  · by_cases same : qualifier = old
    · simp [ColumnRef.path, ColumnRef.rename, Table.answersTo, Table.withAlias, isAlias, same]
    · have noNew : qualifier ≠ new := fun isNew => unused (congrArg some isNew)
      simp only [ColumnRef.path, ColumnRef.rename, Option.map_some, if_neg same,
        answersTo_withAlias isAlias same noNew]
      split <;> rfl

theorem Filter.accepts_rename (isAlias : table.aliasName = some old) {filter : Filter}
    (unused : filter.column.qualifier ≠ some new) :
    (filter.rename old new).accepts record (table.withAlias new) =
      (filter.accepts record table).mapError (.inTable (table.withAlias new).render) := by
  simp only [Filter.accepts, Filter.rename, mapError_bind, literal_inTable, apply_inTable,
    ColumnRef.path_rename isAlias unused]

namespace FilterGroup

theorem search_rename (isAlias : table.aliasName = some old) {filters : List Filter}
    (unused : ∀ filter ∈ filters, filter.column.qualifier ≠ some new) (goesOn : Bool) :
    search record (table.withAlias new) goesOn (filters.map (Filter.rename old new)) =
      (search record table goesOn filters).mapError
        (.inTable (table.withAlias new).render) := by
  induction filters with
  | nil => rfl
  | cons filter rest ih =>
      rw [List.forall_mem_cons] at unused
      simp only [List.map_cons, search, Filter.accepts_rename isAlias unused.1, ih unused.2]
      cases filter.accepts record table with
      | error fault => rfl
      | ok verdict =>
          simp only [mapError_ok]
          split <;> rfl

theorem conjunction_rename (isAlias : table.aliasName = some old) {filters : List Filter}
    (unused : ∀ filter ∈ filters, filter.column.qualifier ≠ some new) :
    conjunction record (table.withAlias new) (filters.map (Filter.rename old new)) =
      (conjunction record table filters).mapError
        (.inTable (table.withAlias new).render) := by
  cases filters with
  | nil => rfl
  | cons => exact search_rename isAlias unused true

theorem accepts_rename (isAlias : table.aliasName = some old) {group : FilterGroup}
    (unused : ∀ filter ∈ group.and ++ group.or, filter.column.qualifier ≠ some new) :
    (group.rename old new).accepts record (table.withAlias new) =
      (group.accepts record table).mapError (.inTable (table.withAlias new).render) := by
  rw [List.forall_mem_append] at unused
  by_cases empty : group.and = [] ∧ group.or = []
  · rw [accepts_empty empty, accepts_empty (by simpa [rename] using empty)]
    rfl
  · rw [accepts_nonempty empty, accepts_nonempty (by simpa [rename] using empty)]
    simp only [rename, conjunction_rename isAlias unused.1, search_rename isAlias unused.2]
    cases conjunction record table group.and with
    | error fault => rfl
    | ok verdict => cases verdict <;> rfl

end FilterGroup

namespace Query

theorem groupsAccept_rename (isAlias : table.aliasName = some old) {groups : List FilterGroup}
    (unused : ∀ group ∈ groups, ∀ filter ∈ group.and ++ group.or,
      filter.column.qualifier ≠ some new) :
    groupsAccept record (table.withAlias new) (groups.map (FilterGroup.rename old new)) =
      (groupsAccept record table groups).mapError (.inTable (table.withAlias new).render) := by
  induction groups with
  | nil => rfl
  | cons group rest ih =>
      rw [List.forall_mem_cons] at unused
      simp only [List.map_cons, groupsAccept, FilterGroup.accepts_rename isAlias unused.1,
        ih unused.2]
      cases group.accepts record table with
      | error fault => rfl
      | ok verdict => cases verdict <;> rfl

theorem accepts_rename {query : Query} (renamable : query.Renamable old new) (record : Json) :
    (query.rename old new).accepts record =
      (query.accepts record).mapError (.inTable (query.table.withAlias new).render) := by
  have unused : ∀ group ∈ query.groups.getD [], ∀ filter ∈ group.and ++ group.or,
      filter.column.qualifier ≠ some new := by
    intro group member filter inside
    exact renamable.noFilterQualifier filter (List.mem_flatMap.mpr ⟨group, member, inside⟩)
  rw [accepts, accepts, ← groupsAccept_rename renamable.isAlias unused]
  cases given : query.groups with
  | none => simp [rename, given]
  | some groups => simp [rename, given]

end Query

end Verdicts

section Rows

variable {record : Json} {table : Table} {old new entry : String}

theorem ne_dotted {text : String} (dotFree : '.' ∉ text.toList) (qualifier path : String) :
    text ≠ qualifier ++ "." ++ path := by
  rintro rfl
  simp at dotFree

theorem renameEntry_alias (old new : String) : renameEntry old new old = new := if_pos rfl

theorem renameEntry_qualified (noAlias : entry ≠ old)
    (qualified : (ColumnRef.ofText entry).qualifier = some old) :
    renameEntry old new entry = new ++ "." ++ (ColumnRef.ofText entry).name := by
  simp [renameEntry, noAlias, ColumnRef.rename, ColumnRef.render, qualified]

theorem ColumnRef.rename_of_ne {column : ColumnRef} (foreign : column.qualifier ≠ some old) :
    column.rename old new = column := by
  obtain ⟨name, _ | qualifier⟩ := column
  · rfl
  · have noOld : qualifier ≠ old := fun isOld => foreign (congrArg some isOld)
    simp [ColumnRef.rename, noOld]

theorem renameEntry_other (noAlias : entry ≠ old)
    (foreign : (ColumnRef.ofText entry).qualifier ≠ some old) :
    renameEntry old new entry = entry := by
  rw [renameEntry, if_neg noAlias, ColumnRef.rename_of_ne foreign, render_ofText]

example : ["p", "p.name.p", "people.p", "name"].map (renameEntry "p" "o") =
    ["o", "o.name.p", "people.p", "name"] := by decide

theorem ofText_renameEntry (dotFree : '.' ∉ new.toList) (noAlias : entry ≠ old) :
    ColumnRef.ofText (renameEntry old new entry) = (ColumnRef.ofText entry).rename old new := by
  by_cases qualified : (ColumnRef.ofText entry).qualifier = some old
  · rw [renameEntry_qualified noAlias qualified, ColumnRef.rename, qualified, Option.map_some,
      if_pos rfl]
    exact @ofText_render ⟨_, some new⟩ dotFree
  · rw [renameEntry_other noAlias qualified, ColumnRef.rename_of_ne qualified]

theorem isWhole_renameEntry (isAlias : table.aliasName = some old) (dotFree : '.' ∉ new.toList)
    (unused : entry ≠ new)
    (apart : ∀ path, entry = old ++ "." ++ path →
      table.name ≠ old ++ "." ++ path ∧ table.name ≠ new ++ "." ++ path) :
    IsWhole (table.withAlias new) (renameEntry old new entry) ↔ IsWhole table entry := by
  -- Only the name of the table can have a dot, so only this can be taken for a qualified entry.
  by_cases noAlias : entry = old
  · rw [noAlias, renameEntry_alias]
    exact iff_of_true (.inr (.inr rfl)) (.inr (.inr isAlias))
  by_cases qualified : (ColumnRef.ofText entry).qualifier = some old
  · have written : entry = old ++ "." ++ (ColumnRef.ofText entry).name := by
      conv_lhs => rw [← render_ofText entry, ColumnRef.render, qualified]
    obtain ⟨noName, noRenamedName⟩ := apart _ written
    have noStar : ∀ qualifier path : String, "*" ≠ qualifier ++ "." ++ path :=
      ne_dotted (by decide)
    rw [renameEntry_qualified noAlias qualified]
    apply iff_of_false
    · rintro (isStar | isName | isNew)
      · exact noStar _ _ isStar.symm
      · exact noRenamedName isName.symm
      · exact ne_dotted dotFree _ _ (Option.some.inj isNew)
    · rintro (isStar | isName | isOld)
      · exact noStar _ _ (isStar.symm.trans written)
      · exact noName (isName.symm.trans written)
      · exact noAlias (Option.some.inj (isOld.symm.trans isAlias))
  · rw [renameEntry_other noAlias qualified, IsWhole, IsWhole]
    simp [Table.withAlias, isAlias, Ne.symm unused, Ne.symm noAlias]

theorem projectColumns_rename (isAlias : table.aliasName = some old) (dotFree : '.' ∉ new.toList)
    {columns : List String} (noAlias : ∀ entry ∈ columns, entry ≠ old)
    (unused : ∀ entry ∈ columns, (ColumnRef.ofText entry).qualifier ≠ some new)
    (row : List (String × Json)) :
    projectColumns record (table.withAlias new) row (columns.map (renameEntry old new)) =
      (projectColumns record table row columns).mapError
        (.inTable (table.withAlias new).render) := by
  induction columns generalizing row with
  | nil => rfl
  | cons entry rest ih =>
      rw [List.forall_mem_cons] at noAlias unused
      simp only [List.map_cons, projectColumns, ofText_renameEntry dotFree noAlias.1,
        ColumnRef.path_rename isAlias unused.1, ih noAlias.2 unused.2]
      cases (ColumnRef.ofText entry).path table with
      | error fault => rfl
      | ok path =>
          simp only [mapError_ok]
          split <;> rfl

/-- Rows stay the same, and a fault shows the table with its new alias. -/
theorem project_rename {query : Query} (renamable : query.Renamable old new)
    (apart : ∀ path, old ++ "." ++ path ∈ query.columns →
      query.table.name ≠ old ++ "." ++ path ∧ query.table.name ≠ new ++ "." ++ path)
    (record : Json) :
    project record (query.rename old new).columns (query.rename old new).table =
      (project record query.columns query.table).mapError
        (.inTable (query.table.withAlias new).render) := by
  obtain ⟨isAlias, dotFree, noEntry, noEntryQualifier, -⟩ := renamable
  have same : ∀ entry ∈ query.columns,
      (IsWhole (query.table.withAlias new) (renameEntry old new entry) ↔
        IsWhole query.table entry) := by
    intro entry member
    apply isWhole_renameEntry isAlias dotFree (ne_of_mem_of_not_mem member noEntry)
    rintro path rfl
    exact apart path member
  show project record (query.columns.map (renameEntry old new)) (query.table.withAlias new) = _
  -- Entries are renamed one for one, so that the whole record is asked for before and after alike.
  by_cases whole : ∃ entry ∈ query.columns, IsWhole query.table entry
  · rw [project_whole whole, project_whole, mapError_ok]
    obtain ⟨entry, member, isWhole⟩ := whole
    exact ⟨_, List.mem_map_of_mem member, (same entry member).mpr isWhole⟩
  · have none : ∀ entry ∈ query.columns, ¬ IsWhole query.table entry := by simpa using whole
    have noAlias : ∀ entry ∈ query.columns, entry ≠ old := by
      rintro entry member rfl
      exact none entry member (.inr (.inr isAlias))
    have noneRenamed : ∀ entry ∈ query.columns.map (renameEntry old new),
        ¬ IsWhole (query.table.withAlias new) entry := by
      rw [List.forall_mem_map]
      exact fun entry member => mt (same entry member).mp (none entry member)
    rw [project_columns none, project_columns noneRenamed, mapError_map,
      projectColumns_rename isAlias dotFree noAlias noEntryQualifier]

theorem project_fault {columns : List String} {fault : EvalFault}
    (fails : project record columns table = .error fault) :
    ∃ qualifier column, fault = .unknownAlias qualifier column table.render := by
  by_cases whole : ∃ entry ∈ columns, IsWhole table entry
  · cases (project_whole whole).symm.trans fails
  · rw [project_columns (by simpa using whole), map_eq_error_iff] at fails
    obtain ⟨_, entry, _, _, _, unknown⟩ := (projectColumns_eq_error_iff .nil fault).mp fails
    obtain ⟨qualifier, -, same⟩ := (path_fault_iff fault).mp unknown
    exact ⟨qualifier, entry, same⟩

end Rows

/-- Verdicts on records and their rows are the same under the new alias, and so are the faults but
for the text of the table; a row can fail in no other way than by an unknown qualifier. For rows the
table must not be named like an entry that is qualified by the old alias or by the new one. -/
theorem renamed_alias_unobserved {query : Query} {old new : String}
    (renamable : query.Renamable old new) (record : Json) :
    (query.rename old new).accepts record =
      (query.accepts record).mapError (.inTable (query.rename old new).table.render) ∧
    ((∀ path, old ++ "." ++ path ∈ query.columns →
        query.table.name ≠ old ++ "." ++ path ∧ query.table.name ≠ new ++ "." ++ path) →
      project record (query.rename old new).columns (query.rename old new).table =
        (project record query.columns query.table).mapError
          (.inTable (query.rename old new).table.render)) ∧
    ∀ fault, project record query.columns query.table = .error fault →
      ∃ qualifier column, fault = .unknownAlias qualifier column query.table.render :=
  ⟨Query.accepts_rename renamable record, fun apart => project_rename renamable apart record,
    fun _ => project_fault⟩

def oslo : Query where
  columns := ["p.name", "people.p"]
  table := ⟨"people", some "p"⟩
  groups := some [{
    and := [⟨⟨"town", some "p"⟩, .equalTo, ⟨.text, "Oslo", []⟩⟩]
    or := [⟨⟨"p", none⟩, .equalTo, ⟨.text, "yes", []⟩⟩,
      ⟨⟨"age", some "z"⟩, .equalTo, ⟨.text, "1", []⟩⟩] }]

def willing : Json := .object [("name", .text "Ann"), ("p", .text "yes")]

theorem people_renamed :
    oslo.Renamable "p" "o" ∧
    (oslo.rename "p" "o").accepts willing = .ok true ∧
    project willing (oslo.rename "p" "o").columns (oslo.rename "p" "o").table = .ok willing ∧
    (oslo.rename "p" "o").accepts .null = .error (.unknownAlias "z" "z.age" "people o") := by
  have renamable : oslo.Renamable "p" "o" := ⟨rfl, by decide, by decide, by decide, by decide⟩
  obtain ⟨accepts, shows, -⟩ := renamed_alias_unobserved renamable willing
  have faults := (renamed_alias_unobserved renamable .null).1
  refine ⟨renamable, accepts.trans rfl, (shows ?_).trans rfl, faults.trans rfl⟩
  exact fun path _ => ⟨ne_dotted (by decide) _ path, ne_dotted (by decide) _ path⟩

def dotted (name : String) : Query where
  columns := ["a.p"]
  table := ⟨name, some "a"⟩

def twoFields : Json := .object [("p", .bool true), ("r", .bool false)]

/-- An entry that equals the name of the table stands for the whole record, though it could be a
column behind the alias. -/
theorem dotted_name_shadows_column :
    (∀ name ∈ ["a.p", "b.p"], (dotted name).Renamable "a" "b" ∧ '.' ∉ "a".toList ∧ "a" ≠ name ∧
      "b" ≠ "" ∧ "b" ≠ "*" ∧ "b" ≠ name) ∧
    (project twoFields (dotted "a.p").columns (dotted "a.p").table = .ok twoFields ∧
      project twoFields ((dotted "a.p").rename "a" "b").columns
        ((dotted "a.p").rename "a" "b").table = .ok (.object [("p", .bool true)])) ∧
    (project twoFields (dotted "b.p").columns (dotted "b.p").table =
        .ok (.object [("p", .bool true)]) ∧
      project twoFields ((dotted "b.p").rename "a" "b").columns
        ((dotted "b.p").rename "a" "b").table = .ok twoFields) := by
  refine ⟨?_, ⟨rfl, rfl⟩, rfl, rfl⟩
  have entries : "b" ∉ ["a.p"] ∧
      ∀ entry ∈ ["a.p"], (ColumnRef.ofText entry).qualifier ≠ some "b" := by decide
  have apart : ∀ name ∈ ["a.p", "b.p"], '.' ∉ "a".toList ∧ "a" ≠ name ∧ "b" ≠ "" ∧ "b" ≠ "*" ∧
      "b" ≠ name := by decide
  intro name member
  exact ⟨⟨rfl, by decide, entries.1, entries.2, by simp [Query.filters, dotted]⟩,
    apart name member⟩

end DocQuery
