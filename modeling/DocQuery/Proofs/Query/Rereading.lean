import DocQuery.Proofs.Lexing.Shapes
import DocQuery.Proofs.Query.RoundTrip

/-!
Queries that have been read once. All that a text can put into a query can be said again, its select
list apart: a column is written without the quotes or parentheses that its token had. So a query that
was read is read back from its rendering if its columns can stand there as they are
(`reread_of_bare_columns`), and a column that was quoted for a reason cannot
(`quoted_column_not_reread`).
-/

namespace DocQuery.Grammar

open Lexing

section Tokens

variable {token : Token}

theorem leads_elements {c : Char} {rest behind : List Char}
    (leads : Leads c rest (.token token) behind) : token.elements = [] := by
  cases leads with
  | name => simp only [nameToken]
  | text | number | negative | symbol | lineComment | blockComment => rfl

theorem leads_kind {c : Char} {rest behind : List Char}
    (leads : Leads c rest (.token token) behind) :
    isBare token.kind = true ∨ token.kind = .text ∨ token.kind = .comment := by
  cases leads with
  | name => exact .inl (nameToken_isBare _)
  | number | negative | symbol => exact .inl rfl
  | text => exact .inr (.inl rfl)
  | lineComment | blockComment => exact .inr (.inr rfl)

theorem lexes_of_spells (spells : Spells token.source.toList token)
    (bare : isBare token.kind = true) : LexesAs token.content token.kind := by
  have read : tokenise token.source = .ok [token] := spells.writes.toAdds.tokenise_eq
  obtain ⟨c, rest, behind, -, leads⟩ := spells.leads
  rw [source_bare bare] at read
  obtain ⟨kind, content, elements⟩ := token
  obtain rfl : elements = [] := leads_elements leads
  exact read

theorem expressible_of_spells (spells : Spells token.source.toList token) :
    ExpressibleElement token := by
  obtain ⟨c, rest, behind, within, leads⟩ := spells.leads
  have flat := leads_elements leads
  rcases leads_kind leads with bare | text | comment
  · have lexes := lexes_of_spells spells bare
    obtain ⟨kind, content, elements⟩ := token
    cases flat
    exact .bare bare lexes
  · have line := leads.line_of_text text
    have plain : '\r' ∉ token.content.toList :=
      fun member => spells.plain (within _ (leads.mem_of_content member))
    obtain ⟨kind, content, elements⟩ := token
    cases flat
    cases text
    exact .text line plain
  · have counts := spells.counts
    simp [Token.isComment, comment] at counts

theorem lexes_of_shaped (shaped : Shaped token) (isQuery : token.kind = .query) :
    LexesAs token.content .query := by
  have spells := shaped.spells (by simp [Token.isNested, isQuery])
    (by simp [Token.isComment, isQuery])
  rw [← isQuery]
  exact lexes_of_spells spells (by rw [isQuery]; rfl)

theorem expressible_of_shaped (shaped : Shaped token) (isValue : IsValue token) :
    ExpressibleValue token := by
  cases shaped with
  | single spells =>
      cases expressible_of_spells spells with
      | text line plain => exact .text line plain
      | @bare kind content bare lexes =>
          cases kind with
          | number => exact .number lexes
          | query => exact .constant (by simpa [IsValue, IsWord] using isValue)
          | operator => simp [IsValue, IsWord] at isValue
          | text | block | comment | array | delimiter => cases bare
  | comment | blockStart | blockEnd =>
      simp [IsValue, IsWord, Token.blockStart, Token.blockEnd] at isValue
  | array nonempty spelled alone =>
      exact .array nonempty (fun element member => expressible_of_spells (spelled element member))
        alone

end Tokens

section Filters

theorem render_ofText (text : String) : (ColumnRef.ofText text).render = text := by
  have cut := cutAtFirstDot_ofText text
  unfold CutAtFirstDot at cut
  unfold ColumnRef.render
  cases given : (ColumnRef.ofText text).qualifier with
  | some qualifier =>
      simp only [given] at cut
      exact cut.1.symm
  | none =>
      simp only [given] at cut
      exact cut.1.symm

theorem ofText_dotFree (text : String) :
    '.' ∉ ((ColumnRef.ofText text).qualifier.getD (ColumnRef.ofText text).name).toList := by
  have cut := cutAtFirstDot_ofText text
  unfold CutAtFirstDot at cut
  cases given : (ColumnRef.ofText text).qualifier with
  | some qualifier =>
      simp only [given] at cut
      exact cut.2
  | none =>
      simp only [given] at cut
      rw [Option.getD_none, ← cut.1]
      exact cut.2

theorem not_keyword {token : Token} (isName : IsName token) : token.content ∉ clauseWords := by
  intro keyword
  apply isName.2
  simpa [OpensClause, IsWord, isName.1, clauseWords] using keyword

theorem FilterPhrase.isPlain (phrase : FilterPhrase) :
    phrase.filter.operator ∈ plainOperators := by
  have isKnown := phrase.isKnown
  unfold FilterPhrase.filter
  cases negation : phrase.negation with
  | none =>
      simp only [operatorNames, List.mem_cons, Prod.mk.injEq, List.not_mem_nil, or_false] at isKnown
      rcases isKnown with known | known | known | known | known | known | known | known | known <;>
        simp [known, plainOperators]
  | some token =>
      have isWord := (phrase.isNegation token negation).2.1
      simp [operatorNames, isWord] at isKnown
      simp [isKnown, plainOperators]

theorem FilterPhrase.expressible (phrase : FilterPhrase)
    (shaped : ∀ token ∈ phrase.tokens, Shaped token) : ExpressibleFilter phrase.filter where
  dotFree := ofText_dotFree phrase.column.content
  lexes := by
    have lexes := lexes_of_shaped (shaped phrase.column (by simp [FilterPhrase.tokens]))
      phrase.isColumn.1.1
    simpa [FilterPhrase.filter, render_ofText] using lexes
  noKeyword := by
    have free := not_keyword phrase.isColumn.1
    simpa [FilterPhrase.filter, render_ofText, free] using phrase.isColumn.2
  isPlain := phrase.isPlain
  value := expressible_of_shaped (shaped phrase.value (by simp [FilterPhrase.tokens])) phrase.isValue

theorem mem_tokens_of_phrase {chain : Chain} {phrase : FilterPhrase}
    (member : phrase ∈ chain.phrases) {token : Token} (inside : token ∈ phrase.tokens) :
    token ∈ chain.tokens := by
  induction chain with
  | last only =>
      obtain rfl : phrase = only := by simpa [Chain.phrases] using member
      exact inside
  | link first joint rest ih =>
      simp only [Chain.phrases, List.mem_cons] at member
      simp only [Chain.tokens, List.mem_append, List.mem_cons]
      rcases member with rfl | member
      · exact .inl inside
      · exact .inr (.inr (ih member))

theorem phrase_of_filedUnder {chain : Chain} {connective : Connective} {filter : Filter}
    (member : filter ∈ chain.filedUnder connective) :
    ∃ phrase ∈ chain.phrases, phrase.filter = filter := by
  simp only [Chain.filedUnder, List.mem_map, List.mem_filter] at member
  obtain ⟨⟨filter, filed⟩, ⟨paired, -⟩, rfl⟩ := member
  have among := (List.of_mem_zip paired).1
  simpa [Chain.filters] using among

theorem chain_expressible {chain : Chain} (shaped : ∀ token ∈ chain.tokens, Shaped token)
    {filter : Filter} (member : filter ∈ chain.group.and ++ chain.group.or) :
    ExpressibleFilter filter := by
  have origin : ∃ phrase ∈ chain.phrases, phrase.filter = filter := by
    rcases List.mem_append.mp member with isAnd | isOr
    · exact phrase_of_filedUnder isAnd
    · exact phrase_of_filedUnder isOr
  obtain ⟨phrase, among, rfl⟩ := origin
  exact phrase.expressible fun token inside => shaped token (mem_tokens_of_phrase among inside)

end Filters

section Queries

/-- A column that is one bare token by itself and does not open a clause. -/
def IsBareColumn (column : String) : Prop :=
  (∃ kind, isBare kind = true ∧ LexesAs column kind) ∧ column ∉ clauseWords

theorem QueryPhrase.filter_expressible (phrase : QueryPhrase)
    (shaped : ∀ token ∈ phrase.tokens, Shaped token) {filter : Filter}
    (member : filter ∈ phrase.query.filters) : ExpressibleFilter filter := by
  cases isCondition : phrase.condition with
  | none => simp [Query.filters, QueryPhrase.query, isCondition] at member
  | some condition =>
      have inside : ∀ token ∈ condition.chain.tokens, Shaped token := by
        intro token among
        apply shaped
        simp [QueryPhrase.tokens, isCondition, Condition.tokens, among]
      apply chain_expressible inside
      simpa [Query.filters, QueryPhrase.query, isCondition] using member

/-- The query of a phrase can be written again if its columns are bare. -/
theorem QueryPhrase.expressible (phrase : QueryPhrase)
    (shaped : ∀ token ∈ phrase.tokens, Shaped token)
    (columns : ∀ column ∈ phrase.query.columns, IsBareColumn column) :
    ExpressibleQuery phrase.query where
  someColumn := by simpa [QueryPhrase.query] using phrase.someColumn
  columns := columns
  table :=
    ⟨lexes_of_shaped (shaped _ (by simp [QueryPhrase.tokens])) phrase.isTable.1,
      not_keyword phrase.isTable⟩
  aliasName := by
    intro aliasName given
    obtain ⟨token, isAlias, rfl⟩ := Option.map_eq_some_iff.mp given
    have inside : token ∈ phrase.tokens := by simp [QueryPhrase.tokens, isAlias]
    exact ⟨lexes_of_shaped (shaped _ inside) (phrase.isAlias token isAlias).1,
      not_keyword (phrase.isAlias token isAlias)⟩
  groups := by
    cases isCondition : phrase.condition with
    | none => exact .inl (by simp [QueryPhrase.query, isCondition])
    | some condition =>
        exact .inr ⟨_, by simp [QueryPhrase.query, isCondition], group_holdsLastTwo condition.chain⟩
  filters := fun _ member => phrase.filter_expressible shaped member

theorem phrase_of_text {text : String} {query : Query} (parsed : Query.parse text = .ok query) :
    ∃ phrase : QueryPhrase, phrase.query = query ∧ ∀ token ∈ phrase.tokens, Shaped token := by
  unfold Query.parse at parsed
  split at parsed
  · cases parsed
  next tokens lexed =>
    obtain ⟨phrase, same, isQuery⟩ := phrase_of_ofTokens parsed
    refine ⟨phrase, isQuery, fun token member => ?_⟩
    rw [same] at member
    exact tokenise_shaped lexed token (List.mem_filter.mp member).1

theorem parse_of_writes {text : String} {phrase : QueryPhrase} {commas : Nat}
    (writes : Writes text.toList ⟨phrase.tokens, commas⟩) :
    Query.parse text = .ok phrase.query := by
  have plain : phrase.tokens.filter (!·.isComment) = phrase.tokens := by
    rw [List.filter_eq_self]
    intro token member
    simp [writes.counts token member]
  rw [parse_eq_ofTokens writes.tokenise_eq, ofTokens_of_phrase plain.symm]

/-- What has been read from a text is read again from its rendering if every column is a bare token
by itself, whatever the token was that it came from. -/
theorem reread_of_bare_columns {text : String} {query : Query}
    (parsed : Query.parse text = .ok query)
    (columns : ∀ column ∈ query.columns, IsBareColumn column) :
    Query.parse query.render = .ok query := by
  obtain ⟨phrase, rfl, shaped⟩ := phrase_of_text parsed
  have expressible := phrase.expressible shaped columns
  obtain ⟨written, commas, same, writes⟩ := expressible.phrase
  rw [parse_of_writes writes, same]

def assorted : String := "select 'a', -1, (b[0]), (2) from c x where x.y.z is not 'it''s'"

def assortedQuery : Query where
  columns := ["a", "-1", "start", "b[0]", "end", "2"]
  table := ⟨"c", some "x"⟩
  groups := some [{ and := [⟨⟨"y.z", some "x"⟩, .negation .equalTo, ⟨.text, "it's", []⟩⟩] }]

theorem reread_assorted :
    Query.parse assorted = .ok assortedQuery ∧
      (∀ column ∈ assortedQuery.columns, IsBareColumn column) ∧
      Query.parse assortedQuery.render = .ok assortedQuery := by
  have parsed : Query.parse assorted = .ok assortedQuery := rfl
  have columns : ∀ column ∈ assortedQuery.columns, IsBareColumn column := by
    simp only [assortedQuery, List.forall_mem_cons, List.not_mem_nil, false_implies, implies_true,
      and_true]
    exact ⟨⟨⟨.query, rfl, rfl⟩, by decide⟩, ⟨⟨.number, rfl, rfl⟩, by decide⟩,
      ⟨⟨.query, rfl, rfl⟩, by decide⟩, ⟨⟨.query, rfl, rfl⟩, by decide⟩,
      ⟨⟨.query, rfl, rfl⟩, by decide⟩, ⟨⟨.number, rfl, rfl⟩, by decide⟩⟩
  exact ⟨parsed, columns, reread_of_bare_columns parsed columns⟩

theorem quoted_column_not_reread :
    ∃ query, Query.parse "select 'a b' from t" = .ok query ∧
      Query.parse query.render ≠ .ok query := by
  -- The quotes held a blank, which is no content any more once they are gone.
  have reread : Query.parse "select a b from t" =
      .ok { columns := ["a", "b"], table := ⟨"t", none⟩ } := rfl
  refine ⟨{ columns := ["a b"], table := ⟨"t", none⟩ }, rfl, fun same => ?_⟩
  have different := Except.ok.inj (reread.symm.trans same)
  simp at different

end Queries

end DocQuery.Grammar
