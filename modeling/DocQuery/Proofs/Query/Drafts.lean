import DocQuery.Proofs.Query.RoundTrip

/-!
Drafts of queries under any run of tokens, refused ones included. `Effect` says once what a token
can do to a draft. The parts of a draft agree with each other at first and after each effect, so
they agree wherever a run ends (`feedOn_consistent`), and a query built there has a select list and
no empty group.
-/

namespace DocQuery.Grammar

open QueryDraft

section Effects

/-- What a token can do to a draft: it is skipped or refused, or it changes the draft in one of the
other ways. A refused token may still take the pending filter away. -/
inductive Effect (draft : QueryDraft) (token : Token) : Fed → Prop where
  | skipped (comment : token.isComment = true) : Effect draft token ⟨draft, none⟩
  | refused (fault : ParseFault) : Effect draft token ⟨draft, some fault⟩
  | opensSelect (unopened : draft.clause = none) :
      Effect draft token ⟨{ draft with clause := some .select }, none⟩
  | opensFrom (selecting : draft.clause = some .select) (someColumn : draft.columns ≠ []) :
      Effect draft token ⟨{ draft with clause := some .from }, none⟩
  | opensWhere (early : draft.clause ≠ some .where) (tabled : draft.table ≠ none) :
      Effect draft token ⟨{ draft with clause := some .where, group := some {} }, none⟩
  | selects (selecting : draft.clause = some .select) :
      Effect draft token ⟨{ draft with columns := draft.columns ++ [token.content] }, none⟩
  | names (tabling : draft.clause = some .from) (first : draft.tableTokens = 0) :
      Effect draft token
        ⟨{ draft with table := some { name := token.content }, tableTokens := 1 }, none⟩
  | aliases (tabling : draft.clause = some .from) (second : draft.tableTokens = 1) :
      Effect draft token
        ⟨{ draft with
            table := draft.table.map fun table => { table with aliasName := some token.content }
            tableTokens := 2 }, none⟩
  | begins (filtering : draft.clause = some .where) (idle : draft.pending = none) :
      Effect draft token
        ⟨{ draft with pending := some { column := token.content }, dangling := false }, none⟩
  | compares {pending next : FilterDraft} (held : draft.pending = some pending)
      (compared : pending.setOperator token.content = .ok next) :
      Effect draft token ⟨{ draft with pending := some next }, none⟩
  | values {pending next : FilterDraft} (held : draft.pending = some pending)
      (value : IsValue token) (valued : pending.setValue token = .ok next) :
      Effect draft token ⟨{ draft with pending := some next }, none⟩
  | drops {pending : FilterDraft} {fault : ParseFault} (connective : Connective)
      (filtering : draft.clause = some .where) (word : IsWord token connective.word)
      (held : draft.pending = some pending) (incomplete : pending.build = .error fault) :
      Effect draft token ⟨{ draft with pending := none }, some fault⟩
  | files {pending : FilterDraft} {filter : Filter} (connective : Connective)
      (filtering : draft.clause = some .where) (held : draft.pending = some pending)
      (complete : pending.build = .ok filter) :
      Effect draft token
        ⟨{ draft with
            group := some ((draft.group.getD {}).file filter connective)
            pending := none, connective := some connective, dangling := true }, none⟩

variable {draft : QueryDraft} {token : Token}

theorem isValue_sound (value : QueryDraft.isValue token = true) : IsValue token := by
  obtain ⟨kind, content, elements⟩ := token
  cases kind with
  | text | number | array => simp [IsValue]
  | query => simpa [QueryDraft.isValue, IsValue, IsWord, or_assoc] using value
  | operator | block | comment | delimiter => cases value

theorem closeFilter_effect (connective : Connective) (filtering : draft.clause = some .where)
    (word : IsWord token connective.word) :
    Effect draft token (draft.closeFilter connective) := by
  unfold closeFilter
  split
  · exact .refused _
  next pending held =>
    simp only
    split
    next fault incomplete => exact .drops connective filtering word held incomplete
    next filter complete => exact .files connective filtering held complete

theorem beginFilter_effect (filtering : draft.clause = some .where)
    (idle : draft.pending = none) : Effect draft token (draft.beginFilter token) := by
  unfold beginFilter
  split
  · exact .begins filtering idle
  · exact .refused _
  · exact .refused _

theorem continueFilter_effect {pending : FilterDraft} (held : draft.pending = some pending) :
    Effect draft token (draft.continueFilter pending token) := by
  unfold continueFilter
  split
  · exact .refused _
  split
  · split
    · cases compared : pending.setOperator token.content with
      | error fault => exact .refused fault
      | ok next => exact .compares held compared
    · exact .refused _
  split
  next value =>
    cases valued : pending.setValue token with
    | error fault => exact .refused fault
    | ok next => exact .values held (isValue_sound value) valued
  · exact .refused _

theorem readFilter_effect (filtering : draft.clause = some .where) :
    Effect draft token (draft.readFilter token) := by
  unfold readFilter
  split
  · exact .refused _
  split
  next word => exact closeFilter_effect .and filtering word
  split
  next word => exact closeFilter_effect .or filtering word
  split
  next idle => exact beginFilter_effect filtering idle
  next pending held => exact continueFilter_effect held

theorem readTable_effect (tabling : draft.clause = some .from) :
    Effect draft token (draft.readTable token) := by
  unfold readTable
  split
  · exact .refused _
  split
  next first => exact .names tabling first
  next second => exact .aliases tabling second
  · exact .refused _

theorem openSelect_effect : Effect draft token draft.openSelect := by
  unfold openSelect
  split
  · exact .refused _
  next unopened => exact .opensSelect (by simpa using unopened)

theorem openFrom_effect : Effect draft token draft.openFrom := by
  unfold openFrom
  split
  · exact .refused _
  next selecting =>
  split
  · exact .refused _
  next someColumn => exact .opensFrom (by simpa using selecting) someColumn

theorem openWhere_effect : Effect draft token draft.openWhere := by
  unfold openWhere
  split
  · exact .refused _
  next early =>
  split
  · exact .refused _
  next tabled => exact .opensWhere early tabled

theorem feed_effect (draft : QueryDraft) (token : Token) :
    Effect draft token (draft.feed token) := by
  unfold feed
  split
  next comment => exact .skipped comment
  split
  · exact openSelect_effect
  split
  · exact openFrom_effect
  split
  · exact openWhere_effect
  split
  · exact .refused _
  next selecting => exact .selects selecting
  next tabling => exact readTable_effect tabling
  next filtering => exact readFilter_effect filtering

end Effects

section Consistency

structure ConsistentFilter (pending : FilterDraft) : Prop where
  valued : pending.value.isSome → pending.operator.isSome
  negated : pending.negated = true → pending.operator = some "is"
  value : ∀ value ∈ pending.value, IsValue value

def PlainFilter (filter : Filter) : Prop :=
  filter.operator ∈ plainOperators ∧ IsValue filter.value

/-- The parts of a draft agree with each other. -/
structure Consistent (draft : QueryDraft) : Prop where
  unopened : draft.clause = none →
    draft.columns = [] ∧ draft.table = none ∧ draft.group = none ∧ draft.pending = none
  tabled : draft.table.isSome ↔ 1 ≤ draft.tableTokens
  atMostTwo : draft.tableTokens ≤ 2
  aliased : (draft.table.bind Table.aliasName).isSome ↔ draft.tableTokens = 2
  tableClause : draft.table.isSome → draft.clause = some .from ∨ draft.clause = some .where
  selected : draft.clause = some .from ∨ draft.clause = some .where → draft.columns ≠ []
  grouped : draft.group.isSome ↔ draft.clause = some .where
  pending : ∀ pending ∈ draft.pending,
    draft.clause = some .where ∧ draft.dangling = false ∧ ConsistentFilter pending
  dangling : draft.dangling = true → draft.pending = none
  connected : draft.connective.isSome ↔ ∃ group ∈ draft.group, 1 ≤ group.size
  filters : ∀ group ∈ draft.group, ∀ filter ∈ group.and ++ group.or, PlainFilter filter

theorem consistent_new : Consistent {} := by
  constructor <;> simp

variable {draft : QueryDraft} {token : Token} {fed : Fed}

theorem consistentFilter_new (column : String) : ConsistentFilter { column } := by
  constructor <;> simp

theorem ConsistentFilter.setOperator {pending next : FilterDraft} {name : String}
    (consistent : ConsistentFilter pending) (compared : pending.setOperator name = .ok next) :
    ConsistentFilter next := by
  unfold FilterDraft.setOperator at compared
  split at compared
  next missing =>
    cases compared
    refine ⟨fun _ => rfl, fun negated => ?_, consistent.value⟩
    rw [consistent.negated negated] at missing
    cases missing
  next held isHeld =>
    split at compared
    next base =>
      cases compared
      refine ⟨consistent.valued, fun _ => ?_, consistent.value⟩
      rw [isHeld, base.1]
    · cases compared

theorem ConsistentFilter.setValue {pending next : FilterDraft}
    (consistent : ConsistentFilter pending) (value : IsValue token)
    (valued : pending.setValue token = .ok next) : ConsistentFilter next := by
  unfold FilterDraft.setValue at valued
  split at valued
  · cases valued
  · cases valued
  next isHeld _ =>
    cases valued
    refine ⟨fun _ => by simp [isHeld], consistent.negated, ?_⟩
    simpa using value

theorem ConsistentFilter.build {pending : FilterDraft} {filter : Filter}
    (consistent : ConsistentFilter pending) (complete : pending.build = .ok filter) :
    PlainFilter filter := by
  -- Only `is` may be negated, so no other negation than that of equality is ever built.
  obtain ⟨column, _ | name, _ | value, negated⟩ := pending
  · cases complete
  · cases complete
  · cases complete
  obtain ⟨meaning, known, rfl⟩ := (build_filter_iff _ _ _ _ _).mp complete
  refine ⟨?_, consistent.value value rfl⟩
  cases negated with
  | false =>
      have plain : ∀ entry ∈ operatorNames, entry.2 ∈ plainOperators := by decide
      exact plain _ known
  | true =>
      have base : name = "is" := by simpa using consistent.negated rfl
      have equality : ∀ entry ∈ operatorNames, entry.1 = "is" →
          .negation entry.2 ∈ plainOperators := by decide
      exact equality _ known base

theorem size_file (group : FilterGroup) (filter : Filter) (connective : Connective) :
    (group.file filter connective).size = group.size + 1 := by
  cases connective <;> simp [FilterGroup.file, FilterGroup.size] <;> omega

theorem mem_file {group : FilterGroup} {filter added : Filter} {connective : Connective}
    (member : filter ∈ (group.file added connective).and ++ (group.file added connective).or) :
    filter ∈ group.and ++ group.or ∨ filter = added := by
  cases connective <;> simp [FilterGroup.file] at member ⊢ <;> grind

/-- There are filters in the where clause only. -/
theorem Consistent.unfiltered (consistent : Consistent draft)
    (outside : draft.clause ≠ some .where) : draft.group = none ∧ draft.pending = none := by
  refine ⟨by simpa [outside] using consistent.grouped, ?_⟩
  rw [Option.eq_none_iff_forall_ne_some]
  intro pending held
  exact outside (consistent.pending pending held).1

theorem Consistent.opensWhere (consistent : Consistent draft)
    (early : draft.clause ≠ some .where) (tabled : draft.table ≠ none) :
    Consistent { draft with clause := some .where, group := some {} } := by
  obtain ⟨noGroup, noPending⟩ := consistent.unfiltered early
  have someColumn : draft.columns ≠ [] :=
    consistent.selected (consistent.tableClause (Option.isSome_iff_ne_none.mpr tabled))
  have noConnective : draft.connective.isSome ↔ False := by
    simp [consistent.connected, noGroup]
  exact { consistent with
    unopened := by simp
    tableClause := fun _ => .inr rfl
    selected := fun _ => someColumn
    grouped := by simp
    pending := by simp [noPending]
    connected := by simp [noConnective, FilterGroup.size]
    filters := by simp }

theorem Consistent.aliases (consistent : Consistent draft) (tabling : draft.clause = some .from)
    (second : draft.tableTokens = 1) (aliasName : String) :
    Consistent { draft with
      table := draft.table.map fun table => { table with aliasName := some aliasName }
      tableTokens := 2 } := by
  have someTable : draft.table.isSome := consistent.tabled.mpr (by omega)
  obtain ⟨table, isTable⟩ := Option.isSome_iff_exists.mp someTable
  exact { consistent with
    unopened := by simp [tabling]
    tabled := by simp [isTable]
    atMostTwo := Nat.le_refl 2
    aliased := by simp [isTable]
    tableClause := fun _ => .inl tabling }

/-- Whatever is changed about the pending filter, as long as its own parts agree. -/
theorem Consistent.keeps (consistent : Consistent draft) {pending next : FilterDraft}
    (held : draft.pending = some pending)
    (changed : ConsistentFilter pending → ConsistentFilter next) :
    Consistent { draft with pending := some next } := by
  obtain ⟨filtering, settled, consistentFilter⟩ := consistent.pending _ held
  exact { consistent with
    unopened := by simp [filtering]
    pending := by simpa [filtering, settled] using changed consistentFilter
    dangling := by simp [settled] }

theorem Consistent.files (consistent : Consistent draft) {filter : Filter}
    (connective : Connective) (filtering : draft.clause = some .where)
    (plain : PlainFilter filter) :
    Consistent { draft with
      group := some ((draft.group.getD {}).file filter connective)
      pending := none, connective := some connective, dangling := true } := by
  obtain ⟨group, isGroup⟩ := Option.isSome_iff_exists.mp (consistent.grouped.mpr filtering)
  exact { consistent with
    unopened := by simp [filtering]
    grouped := by simp [filtering]
    pending := by simp
    dangling := fun _ => rfl
    connected := by simp [size_file]
    filters := by
      simp only [isGroup, Option.getD_some, Option.mem_def, Option.some.injEq, forall_eq']
      intro other member
      rcases mem_file member with old | rfl
      · exact consistent.filters group isGroup other old
      · exact plain }

/-- A draft stays consistent whatever becomes of a token. -/
theorem Consistent.effect (consistent : Consistent draft) (effect : Effect draft token fed) :
    Consistent fed.draft := by
  -- Each effect touches a few parts, and what holds of the others is taken over.
  cases effect with
  | skipped => exact consistent
  | refused => exact consistent
  | opensSelect unopened =>
      obtain ⟨noColumn, noTable, noGroup, noPending⟩ := consistent.unopened unopened
      exact { consistent with
        unopened := by simp
        tableClause := by simp [noTable]
        selected := by simp
        grouped := by simp [noGroup]
        pending := by simp [noPending] }
  | opensFrom selecting someColumn =>
      obtain ⟨noGroup, noPending⟩ := consistent.unfiltered (by simp [selecting])
      exact { consistent with
        unopened := by simp
        tableClause := fun _ => .inl rfl
        selected := fun _ => someColumn
        grouped := by simp [noGroup]
        pending := by simp [noPending] }
  | opensWhere early tabled => exact consistent.opensWhere early tabled
  | selects selecting =>
      exact { consistent with
        unopened := by simp [selecting]
        selected := by simp }
  | names tabling first =>
      exact { consistent with
        unopened := by simp [tabling]
        tabled := by simp
        atMostTwo := by simp
        aliased := by simp
        tableClause := fun _ => .inl tabling }
  | aliases tabling second => exact consistent.aliases tabling second token.content
  | begins filtering idle =>
      exact { consistent with
        unopened := by simp [filtering]
        pending := by simpa [filtering] using consistentFilter_new token.content
        dangling := by simp }
  | compares held compared => exact consistent.keeps held (·.setOperator compared)
  | values held value valued => exact consistent.keeps held (·.setValue value valued)
  | drops connective filtering =>
      exact { consistent with
        unopened := by simp [filtering]
        pending := by simp
        dangling := fun _ => rfl }
  | files connective filtering held complete =>
      have plain := (consistent.pending _ held).2.2.build complete
      exact consistent.files connective filtering plain

end Consistency

/-- Reads tokens to the last one, whatever is refused on the way. -/
def feedOn (draft : QueryDraft) (tokens : List Token) : QueryDraft :=
  tokens.foldl (fun draft token => (draft.feed token).draft) draft

theorem Consistent.feedOn {draft : QueryDraft} (consistent : Consistent draft)
    (tokens : List Token) : Consistent (feedOn draft tokens) := by
  induction tokens generalizing draft with
  | nil => exact consistent
  | cons token rest ih => exact ih (consistent.effect (feed_effect draft token))

/-- A query with something to select, and with at most one group, which is not empty. -/
structure Substantial (query : Query) : Prop where
  someColumn : query.columns ≠ []
  groups : query.groups = none ∨ ∃ group, query.groups = some [group] ∧ 1 ≤ group.size

theorem Consistent.substantial {draft : QueryDraft} (consistent : Consistent draft)
    {query : Query} (built : draft.build = .ok query) : Substantial query := by
  obtain ⟨settled, table, -, isTable, filled, rfl⟩ := build_eq_ok_iff.mp built
  have someTable : draft.table.isSome := by simp [isTable]
  refine ⟨consistent.selected (consistent.tableClause someTable), ?_⟩
  cases isGroup : settled.group with
  | none => exact .inl rfl
  | some group =>
      refine .inr ⟨group, rfl, ?_⟩
      simp [isGroup, FilterGroup.isEmpty] at filled
      simp only [FilterGroup.size]
      rw [Nat.one_le_iff_ne_zero]
      simpa using filled

/-- Errors on the way are ignored, and building may still fail; if it does not, the query is one
that has something to say. -/
theorem feedOn_consistent (tokens : List Token) :
    Consistent (feedOn {} tokens) ∧
      ∀ query, (feedOn {} tokens).build = .ok query → Substantial query := by
  have consistent := consistent_new.feedOn tokens
  exact ⟨consistent, fun query built => consistent.substantial built⟩

def stumbling : List Token :=
  [word "t", word "select", word "id", word "from", word "from", word "t", word "where",
    word "where", word "a", ⟨.operator, "=", []⟩, word "and", word "a", ⟨.operator, "=", []⟩,
    ⟨.number, "1", []⟩, word "or", word "or", word "b", ⟨.operator, "is", []⟩,
    ⟨.operator, "not", []⟩, word "c", word "null"]

def stumblingQuery : Query where
  columns := ["id"]
  table := { name := "t" }
  groups := some [{
    or := [⟨⟨"a", none⟩, .equalTo, ⟨.number, "1", []⟩⟩,
      ⟨⟨"b", none⟩, .negation .equalTo, word "null"⟩] }]

theorem feedOn_stumbling :
    (feedOn {} stumbling).build = .ok stumblingQuery ∧ Substantial stumblingQuery := by
  have built : (feedOn {} stumbling).build = .ok stumblingQuery := rfl
  exact ⟨built, (feedOn_consistent stumbling).2 stumblingQuery built⟩

end DocQuery.Grammar
