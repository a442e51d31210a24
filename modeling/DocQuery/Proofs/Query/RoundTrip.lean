import DocQuery.Proofs.Lexing.Writing
import DocQuery.Proofs.Query.Filing

/-!
Every query that can be said in query text is read back from its rendering
(`parse_render`). What can be said is a matter of the parts alone: names and numbers that are
tokens by themselves, texts of one line, and a group that a chain of filters can fill.
-/

namespace DocQuery.Grammar

open Lexing

section Values

inductive ExpressibleElement : Token → Prop where
  | text {content : String} (line : '\n' ∉ content.toList) (plain : '\r' ∉ content.toList) :
      ExpressibleElement { kind := .text, content }
  | bare {kind : TokenKind} {content : String} (bare : isBare kind = true)
      (lexes : LexesAs content kind) : ExpressibleElement { kind, content }

/-- A value that a column can be compared with. A single value in parentheses is an array literal
only if it is a text or a number. -/
inductive ExpressibleValue : Token → Prop where
  | text {content : String} (line : '\n' ∉ content.toList) (plain : '\r' ∉ content.toList) :
      ExpressibleValue { kind := .text, content }
  | number {content : String} (lexes : LexesAs content .number) :
      ExpressibleValue { kind := .number, content }
  | constant {content : String} (listed : content ∈ ["true", "false", "null"]) :
      ExpressibleValue { kind := .query, content }
  | array {elements : List Token} (nonempty : elements ≠ [])
      (each : ∀ element ∈ elements, ExpressibleElement element)
      (alone : elements.length = 1 → ∀ element ∈ elements, element.isLiteral = true) :
      ExpressibleValue (.ofElements elements)

theorem ExpressibleElement.spells {token : Token} (expressible : ExpressibleElement token) :
    Spells token.source.toList token := by
  cases expressible with
  | text line plain => exact spells_text line plain
  | @bare kind content bare lexes =>
      have written : Token.source { kind, content } = content := source_bare bare
      rw [written]
      exact lexes.spells bare

theorem ExpressibleValue.writes {token : Token} (expressible : ExpressibleValue token) :
    Writes token.source.toList ⟨[token], 0⟩ := by
  cases expressible with
  | text line plain => exact (spells_text line plain).writes
  | number lexes => exact (lexes.spells rfl).writes
  | @constant content listed =>
      have lexes : LexesAs content .query := by
        simp only [List.mem_cons, List.not_mem_nil, or_false] at listed
        rcases listed with rfl | rfl | rfl <;> rfl
      exact (lexes.spells rfl).writes
  | array nonempty each alone =>
      exact writes_array nonempty (fun element member => (each element member).spells) alone

theorem ExpressibleValue.isValue {token : Token} (expressible : ExpressibleValue token) :
    IsValue token := by
  cases expressible with
  | text => exact .inl rfl
  | number => exact .inr (.inl rfl)
  | array => exact .inr (.inr (.inl rfl))
  | constant listed => simpa [IsValue, IsWord] using listed

end Values

section Filters

def plainOperators : List Operator :=
  [.equalTo, .isIn, .greaterThan, .greaterThanOrEqualTo, .lessThan, .lessThanOrEqualTo,
    .negation .equalTo]

def clauseWords : List String := ["select", "from", "where"]

/-- A filter that can be said: its column is one name, whose first dot is the one behind the
qualifier. -/
structure ExpressibleFilter (filter : Filter) : Prop where
  dotFree : '.' ∉ (filter.column.qualifier.getD filter.column.name).toList
  lexes : LexesAs filter.column.render .query
  noKeyword : filter.column.render ∉ clauseWords ++ ["and", "or"]
  isPlain : filter.operator ∈ plainOperators
  value : ExpressibleValue filter.value

theorem word_writes {content : String} (lexes : LexesAs content .query) :
    Writes content.toList ⟨[word content], 0⟩ := (lexes.spells rfl).writes

theorem ofText_render {column : ColumnRef}
    (dotFree : '.' ∉ (column.qualifier.getD column.name).toList) :
    ColumnRef.ofText column.render = column := by
  obtain ⟨name, _ | qualifier⟩ := column
  · have whole := (splitAtDot?_eq_none_iff name.toList).mpr dotFree
    simp [ColumnRef.ofText, ColumnRef.render, whole]
  · have split := splitAtDot?_append qualifier.toList name.toList dotFree
    simp [ColumnRef.ofText, ColumnRef.render, split]

theorem not_opensClause {token : Token} (noKeyword : token.content ∉ clauseWords) :
    ¬ OpensClause token := by
  rintro (word | word | word) <;> simp [word.2, clauseWords] at noKeyword

def operatorToken (operator : Operator) : Token where
  kind := if operator = .isIn then .query else .operator
  content := operator.symbol

theorem operatorToken_plain {operator : Operator} (isPlain : operator ∈ plainOperators) :
    LexesAs operator.symbol (operatorToken operator).kind ∧
      isBare (operatorToken operator).kind = true ∧
      ((operatorToken operator).kind = .operator ∨ IsWord (operatorToken operator) "in") ∧
      (operator.symbol, operator) ∈ operatorNames := by
  simp only [plainOperators, List.mem_cons, List.not_mem_nil, or_false] at isPlain
  rcases isPlain with rfl | rfl | rfl | rfl | rfl | rfl | rfl <;>
    exact ⟨rfl, by decide, by decide, by decide⟩

theorem ExpressibleFilter.phrase {filter : Filter} (expressible : ExpressibleFilter filter) :
    ∃ phrase : FilterPhrase, phrase.filter = filter ∧
      Writes filter.render.toList ⟨phrase.tokens, 0⟩ := by
  obtain ⟨column, operator, value⟩ := filter
  obtain ⟨dotFree, lexes, noKeyword, isPlain, isExpressible⟩ := expressible
  obtain ⟨lexesOperator, bare, isOperator, isKnown⟩ := operatorToken_plain isPlain
  have isColumn : IsColumn (word column.render) := by
    simp only [List.mem_append, not_or] at noKeyword
    exact ⟨⟨rfl, not_opensClause noKeyword.1⟩, by simpa [word] using noKeyword.2⟩
  refine ⟨⟨word column.render, operatorToken operator, none, value, operator, isColumn, isOperator,
    isKnown, by simp, isExpressible.isValue⟩, ?_, ?_⟩
  · simp [FilterPhrase.filter, word, ofText_render dotFree]
  · have writes := (word_writes lexes).spaced
      ((lexesOperator.spells bare).writes.spaced isExpressible.writes)
    simpa [Filter.render, FilterPhrase.tokens, Level.add, word, operatorToken] using writes

end Filters

section Groups

def under (connective : Connective) (filters : List Filter) : List (Filter × Connective) :=
  filters.map (·, connective)

theorem fileAll_under (group : FilterGroup) (connective : Connective) (filters : List Filter) :
    fileAll group (under connective filters) =
      { and := group.and ++ if connective = .and then filters else []
        or := group.or ++ if connective = .or then filters else [] } := by
  cases connective <;> simp [fileAll_eq, under, List.filter_map, Function.comp_def]

theorem connective_writes (connective : Connective) :
    Writes connective.word.toList ⟨[word connective.word], 0⟩ := by
  have lexes : LexesAs connective.word .query := by cases connective <;> rfl
  exact word_writes lexes

def joint (connective : Connective) : Joint := ⟨word connective.word, connective, word_isWord _⟩

theorem link_writes {text rest : List Char} {phrase : FilterPhrase} {chain : Chain}
    (connective : Connective) (writes : Writes text ⟨phrase.tokens, 0⟩)
    (writesRest : Writes rest ⟨chain.tokens, 0⟩) :
    Writes (text ++ ' ' :: (connective.word.toList ++ ' ' :: rest))
      ⟨(Chain.link phrase (joint connective) chain).tokens, 0⟩ := by
  have linked := writes.spaced ((connective_writes connective).spaced writesRest)
  simpa [Level.add, Chain.tokens, joint] using linked

theorem trailing_chain (connective : Connective) {first : Filter} {rest : List Filter}
    (expressible : ∀ filter ∈ first :: rest, ExpressibleFilter filter) :
    ∃ chain : Chain,
      Writes (FilterGroup.renderTrailing connective (first :: rest)).toList ⟨chain.tokens, 0⟩ ∧
      ∀ group last, chain.fileInto group last =
        fileAll group
          (under (if rest = [] then last.getD .and else connective) (first :: rest)) := by
  -- A single filter takes the connective before it, if there is one.
  induction rest generalizing first with
  | nil =>
      obtain ⟨phrase, rfl, writes⟩ := (expressible first (by simp)).phrase
      refine ⟨.last phrase, ?_, fun group last => rfl⟩
      simpa [FilterGroup.renderTrailing, Chain.tokens] using writes
  | cons second rest ih =>
      obtain ⟨phrase, rfl, writes⟩ := (expressible first (by simp)).phrase
      obtain ⟨chain, writesRest, files⟩ := ih (List.forall_mem_cons.mp expressible).2
      refine ⟨.link phrase (joint connective) chain, ?_, ?_⟩
      · have linked := link_writes connective writes writesRest
        simpa [FilterGroup.renderTrailing] using linked
      · intro group last
        rw [Chain.fileInto, files]
        simp [joint, fileAll, under]

theorem leading_chain (connective : Connective) {filters : List Filter}
    (expressible : ∀ filter ∈ filters, ExpressibleFilter filter) {text : String} {chain : Chain}
    (writes : Writes text.toList ⟨chain.tokens, 0⟩) :
    ∃ longer : Chain,
      Writes (FilterGroup.renderLeading connective filters ++ text).toList ⟨longer.tokens, 0⟩ ∧
      ∀ group last, longer.fileInto group last =
        chain.fileInto (fileAll group (under connective filters))
          (if filters = [] then last else some connective) := by
  induction filters with
  | nil => exact ⟨chain, by simpa [FilterGroup.renderLeading] using writes, fun group last => rfl⟩
  | cons first rest ih =>
      obtain ⟨phrase, rfl, writesFirst⟩ := (expressible first (by simp)).phrase
      obtain ⟨longer, writesRest, files⟩ := ih (List.forall_mem_cons.mp expressible).2
      refine ⟨.link phrase (joint connective) longer, ?_, ?_⟩
      · have linked := link_writes connective writesFirst writesRest
        simpa [FilterGroup.renderLeading, String.append_assoc] using linked
      · intro group last
        rw [Chain.fileInto, files]
        simp [joint, fileAll, under]

/-- A group is written as a chain that files the filters where they are. -/
theorem group_chain {group : FilterGroup} (holds : HoldsLastTwo group)
    (expressible : ∀ filter ∈ group.and ++ group.or, ExpressibleFilter filter) :
    ∃ chain : Chain, Writes group.render.toList ⟨chain.tokens, 0⟩ ∧ chain.group = group := by
  obtain ⟨ands, ors⟩ := group
  have expressibleAnds : ∀ filter ∈ ands, ExpressibleFilter filter :=
    fun filter member => expressible filter (List.mem_append_left _ member)
  have expressibleOrs : ∀ filter ∈ ors, ExpressibleFilter filter :=
    fun filter member => expressible filter (List.mem_append_right _ member)
  by_cases orLast : 2 ≤ ors.length ∨ ands = []
  · have two : 2 ≤ ors.length := by
      rcases orLast with two | rfl
      · exact two
      · simpa [HoldsLastTwo] using holds
    obtain ⟨first, more, rfl⟩ := List.exists_cons_of_length_pos (Nat.lt_of_succ_lt two)
    obtain ⟨chain, writes, files⟩ := trailing_chain .or expressibleOrs
    obtain ⟨longer, written, filed⟩ := leading_chain .and expressibleAnds writes
    have goesOn : more ≠ [] := by
      rintro rfl
      simp at two
    refine ⟨longer, by rwa [FilterGroup.render, if_pos orLast], ?_⟩
    rw [← fileInto_empty, filed, files]
    simp [fileAll_under, goesOn]
  · have single : ors.length < 2 ∧ ands ≠ [] := by simpa using orLast
    obtain ⟨first, rest, rfl⟩ := List.exists_cons_of_ne_nil single.2
    obtain ⟨chain, writes, files⟩ := trailing_chain .and expressibleAnds
    obtain ⟨longer, written, filed⟩ := leading_chain .or expressibleOrs writes
    -- The last filter goes under `and`: there is another one before it, or no connective at all.
    have last : (if rest = [] then (if ors = [] then none else some Connective.or).getD .and
        else .and) = .and := by
      by_cases ends : rest = []
      · have noOr : ors = [] := by
          simp [HoldsLastTwo, ends] at holds
          simpa [Nat.not_le_of_lt single.1] using holds
        simp [noOr]
      · simp [ends]
    refine ⟨longer, by rwa [FilterGroup.render, if_neg orLast], ?_⟩
    rw [← fileInto_empty, filed, files, last]
    simp [fileAll_under]

end Groups

section Queries

structure ExpressibleQuery (query : Query) : Prop where
  someColumn : query.columns ≠ []
  columns : ∀ column ∈ query.columns,
    (∃ kind, isBare kind = true ∧ LexesAs column kind) ∧ column ∉ clauseWords
  table : LexesAs query.table.name .query ∧ query.table.name ∉ clauseWords
  aliasName : ∀ aliasName ∈ query.table.aliasName,
    LexesAs aliasName .query ∧ aliasName ∉ clauseWords
  groups : query.groups = none ∨ ∃ group, query.groups = some [group] ∧ HoldsLastTwo group
  filters : ∀ filter ∈ query.filters, ExpressibleFilter filter

theorem column_tokens {columns : List String}
    (expressible : ∀ column ∈ columns,
      (∃ kind, isBare kind = true ∧ LexesAs column kind) ∧ column ∉ clauseWords) :
    ∃ tokens : List Token, tokens.map Token.content = columns ∧
      tokens.map Token.source = columns ∧ (∀ token ∈ tokens, ¬ OpensClause token) ∧
      ∀ token ∈ tokens, Spells token.source.toList token := by
  induction columns with
  | nil => exact ⟨[], rfl, rfl, by simp, by simp⟩
  | cons column rest ih =>
      obtain ⟨tokens, contents, sources, inside, spelled⟩ :=
        ih (List.forall_mem_cons.mp expressible).2
      obtain ⟨⟨kind, bare, lexes⟩, noKeyword⟩ := expressible column (by simp)
      have written : Token.source { kind, content := column } = column := source_bare bare
      refine ⟨{ kind, content := column } :: tokens, by simp [contents], by simp [written, sources],
        ?_, ?_⟩
      · rw [List.forall_mem_cons]
        exact ⟨not_opensClause noKeyword, inside⟩
      · rw [List.forall_mem_cons]
        exact ⟨by simpa [written] using lexes.spells bare, spelled⟩

theorem table_writes {table : Table} (name : LexesAs table.name .query)
    (aliasName : ∀ aliasName ∈ table.aliasName, LexesAs aliasName .query) :
    Writes table.render.toList ⟨word table.name :: (table.aliasName.map word).toList, 0⟩ := by
  obtain ⟨tableName, _ | given⟩ := table
  · exact word_writes name
  · have writes := (word_writes name).spaced (word_writes (aliasName given rfl))
    simpa [Table.render, Level.add] using writes

theorem condition_writes {groups : Option (List FilterGroup)}
    (shape : groups = none ∨ ∃ group, groups = some [group] ∧ HoldsLastTwo group)
    (expressible : ∀ group ∈ groups.getD [], ∀ filter ∈ group.and ++ group.or,
      ExpressibleFilter filter)
    {before : List Char} {level : Level} (writes : Writes before level) :
    ∃ condition : Option Condition,
      Writes (before ++ (String.join ((groups.getD []).map fun group =>
          " where " ++ group.render)).toList)
        (level.add ⟨(condition.map Condition.tokens).getD [], 0⟩) ∧
      (condition.map fun condition => [condition.chain.group]) = groups := by
  rcases shape with rfl | ⟨group, rfl, holds⟩
  · exact ⟨none, by simpa [Level.add] using writes, rfl⟩
  · obtain ⟨chain, writesChain, same⟩ := group_chain holds (expressible group (by simp))
    have lexes : LexesAs "where" .query := rfl
    refine ⟨some ⟨word "where", chain, word_isWord _⟩, ?_, by simp [same]⟩
    have spaced := writes.spaced ((word_writes lexes).spaced writesChain)
    simpa [Level.add, Condition.tokens] using spaced

end Queries

/-- A query is written as a phrase of it. -/
theorem ExpressibleQuery.phrase {query : Query} (expressible : ExpressibleQuery query) :
    ∃ (phrase : QueryPhrase) (commas : Nat), phrase.query = query ∧
      Writes query.render.toList ⟨phrase.tokens, commas⟩ := by
  obtain ⟨columns, table, groups⟩ := query
  obtain ⟨someColumn, areColumns, isTable, isAlias, shape, filters⟩ := expressible
  obtain ⟨tokens, rfl, sources, inside, spelled⟩ := column_tokens areColumns
  have someToken : tokens ≠ [] := by simpa using someColumn
  obtain ⟨first, rest, rfl⟩ := List.exists_cons_of_ne_nil someToken
  have lexesSelect : LexesAs "select" .query := rfl
  have lexesFrom : LexesAs "from" .query := rfl
  have selected := (word_writes lexesSelect).spaced (writes_list spelled)
  have tabled := selected.spaced ((word_writes lexesFrom).spaced
    (table_writes isTable.1 fun aliasName given => (isAlias aliasName given).1))
  have filtersOf : ∀ group ∈ groups.getD [], ∀ filter ∈ group.and ++ group.or,
      ExpressibleFilter filter :=
    fun group among filter member => filters filter (List.mem_flatMap.mpr ⟨group, among, member⟩)
  obtain ⟨condition, writes, same⟩ := condition_writes shape filtersOf tabled
  refine ⟨⟨word "select", first :: rest, word "from", word table.name, table.aliasName.map word,
    condition, word_isWord _, by simp, inside, word_isWord _, ⟨rfl, not_opensClause isTable.2⟩, ?_⟩,
    rest.length, ?_, ?_⟩
  · intro token member
    obtain ⟨aliasName, given, rfl⟩ := Option.map_eq_some_iff.mp member
    exact ⟨rfl, not_opensClause (isAlias aliasName given).2⟩
  · obtain ⟨name, aliasName⟩ := table
    cases aliasName <;> simp [QueryPhrase.query, same, word]
  · rw [sources] at writes
    simpa [Query.render, QueryPhrase.tokens, Level.add] using writes

/-- A query that can be said is read again from its rendering. -/
theorem parse_render {query : Query} (expressible : ExpressibleQuery query) :
    Query.parse query.render = .ok query := by
  obtain ⟨phrase, commas, same, writes⟩ := expressible.phrase
  have plain : phrase.tokens.filter (!·.isComment) = phrase.tokens := by
    rw [List.filter_eq_self]
    intro token member
    simp [writes.counts token member]
  rw [parse_eq_ofTokens writes.tokenise_eq, ofTokens_of_phrase plain.symm, same]

def grownUps : Query where
  columns := ["id", "p.tags[0]", "1"]
  table := ⟨"people", some "p"⟩
  groups := some [{
    and := [⟨⟨"age", some "p"⟩, .greaterThanOrEqualTo, ⟨.number, "18", []⟩⟩]
    or := [⟨⟨"name", none⟩, .negation .equalTo, ⟨.text, "O'Hara", []⟩⟩,
      ⟨⟨"town", none⟩, .isIn, .ofElements [⟨.text, "Bonn", []⟩, ⟨.number, "53111", []⟩]⟩] }]

theorem parse_render_grownUps :
    ExpressibleQuery grownUps ∧ Query.parse grownUps.render = .ok grownUps := by
  have age : ExpressibleFilter ⟨⟨"age", some "p"⟩, .greaterThanOrEqualTo, ⟨.number, "18", []⟩⟩ :=
    ⟨by decide, rfl, by decide, by decide, .number rfl⟩
  have name : ExpressibleFilter ⟨⟨"name", none⟩, .negation .equalTo, ⟨.text, "O'Hara", []⟩⟩ :=
    ⟨by decide, rfl, by decide, by decide, .text (by decide) (by decide)⟩
  have towns : ExpressibleValue (.ofElements [⟨.text, "Bonn", []⟩, ⟨.number, "53111", []⟩]) := by
    refine .array (by simp) ?_ (by simp)
    simp only [List.forall_mem_cons, List.not_mem_nil, false_implies, implies_true, and_true]
    exact ⟨.text (by decide) (by decide), .bare (by decide) rfl⟩
  have town : ExpressibleFilter ⟨⟨"town", none⟩, .isIn,
      .ofElements [⟨.text, "Bonn", []⟩, ⟨.number, "53111", []⟩]⟩ :=
    ⟨by decide, rfl, by decide, by decide, towns⟩
  have expressible : ExpressibleQuery grownUps := by
    refine ⟨by simp [grownUps], ?_, ⟨rfl, by decide⟩, ?_,
      .inr ⟨_, rfl, .inr (.inl (by decide))⟩, ?_⟩
    · simp only [grownUps, List.forall_mem_cons, List.not_mem_nil, false_implies, implies_true,
        and_true]
      exact ⟨⟨⟨.query, rfl, rfl⟩, by decide⟩, ⟨⟨.query, rfl, rfl⟩, by decide⟩,
        ⟨⟨.number, rfl, rfl⟩, by decide⟩⟩
    · rintro aliasName ⟨⟩
      exact ⟨rfl, by decide⟩
    · simp only [grownUps, Query.filters, Option.getD_some, List.flatMap_cons, List.flatMap_nil,
        List.append_nil, List.cons_append, List.nil_append, List.forall_mem_cons, List.not_mem_nil,
        false_implies, implies_true, and_true]
      exact ⟨age, name, town⟩
  exact ⟨expressible, parse_render expressible⟩

end DocQuery.Grammar
