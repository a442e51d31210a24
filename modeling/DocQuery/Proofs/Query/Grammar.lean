import DocQuery.Proofs.Query.Conditions

/-!
A list of tokens makes a query exactly if it is the tokens of a phrase, comments apart, and then it
makes the query that the phrase means (`ofTokens_eq_ok_iff_phrase`). The clauses are taken from the
last to the first, each with what may stand behind it.
-/

namespace DocQuery.Grammar

open QueryDraft

section Building

variable {draft settled : QueryDraft} {query : Query}

/-- Settling the last filter touches neither the table nor the select list. -/
theorem settle_keeps (done : draft.settle = .ok settled) :
    settled.table = draft.table ∧ settled.columns = draft.columns := by
  unfold settle at done
  split at done
  · obtain ⟨filter, -, same⟩ := bind_eq_ok_iff.mp done
    cases same
    exact ⟨rfl, rfl⟩
  · split at done
    · cases done
    · cases done
      exact ⟨rfl, rfl⟩

theorem build_eq_ok_iff :
    draft.build = .ok query ↔
      ∃ settled table, draft.settle = .ok settled ∧ draft.table = some table ∧
        settled.group.any FilterGroup.isEmpty = false ∧
        query = { columns := draft.columns, table, groups := settled.group.map ([·]) } := by
  unfold build
  rw [bind_eq_ok_iff]
  refine exists_congr fun settled => ?_
  by_cases done : draft.settle = .ok settled
  · obtain ⟨sameTable, sameColumns⟩ := settle_keeps done
    rw [sameTable, sameColumns]
    cases draft.table with
    | none => simp
    | some table => cases settled.group.any FilterGroup.isEmpty <;> simp [done, eq_comm]
  · simp [done]

theorem build_untabled (untabled : draft.table = none) : draft.build ≠ .ok query := by
  intro built
  obtain ⟨_, table, -, tabled, -⟩ := build_eq_ok_iff.mp built
  simp [untabled] at tabled

end Building

section Tables

variable {columns : List String} {table : Table} {tokens : List Token} {token : Token}
  {query : Query} {next : QueryDraft}

def tabling (columns : List String) (table : Option Table) (count : Nat) : QueryDraft :=
  { clause := some .from, columns, table, tableTokens := count }

theorem feed_tabling_none (counts : token.isComment = false) :
    (tabling columns none 0).feed token = ⟨next, none⟩ ↔
      IsName token ∧ next = tabling columns (some { name := token.content }) 1 := by
  by_cases opens : OpensClause token
  · have refused : ((tabling columns none 0).feed token).fault ≠ none := by
      rcases opens with word | word | word
      · simp [feed_select word, openSelect, tabling, refuse]
      · simp [feed_from word, openFrom, tabling, refuse]
      · simp [feed_where word, openWhere, tabling, refuse]
    constructor
    · intro fed
      exact absurd (congrArg Fed.fault fed) refused
    · rintro ⟨name, -⟩
      exact absurd opens name.2
  · rw [feed_inside counts opens]
    by_cases kind : token.kind = .query
    · simp [readInside, tabling, readTable, kind, IsName, opens, eq_comm]
    · simp [readInside, tabling, readTable, kind, IsName, refuse]

/-- Once a table is there its clause may end with `where`. -/
theorem feed_tabling_where {count : Nat} (word : IsWord token "where") :
    (tabling columns (some table) count).feed token =
      ⟨filtering columns table count {} none none false, none⟩ := by
  simp [feed_where word, openWhere, tabling, filtering]

theorem feed_tabling_opens {count : Nat} (opens : OpensClause token) :
    (tabling columns (some table) count).feed token = ⟨next, none⟩ ↔
      IsWord token "where" ∧ next = filtering columns table count {} none none false := by
  rcases opens with word | word | word
  · have other : ¬ IsWord token "where" := by simp [IsWord, word.2]
    simp [feed_select word, openSelect, tabling, refuse, other]
  · have other : ¬ IsWord token "where" := by simp [IsWord, word.2]
    simp [feed_from word, openFrom, tabling, refuse, other]
  · simp [feed_tabling_where word, word, eq_comm]

theorem feed_tabling_one (counts : token.isComment = false) :
    (tabling columns (some table) 1).feed token = ⟨next, none⟩ ↔
      (IsWord token "where" ∧ next = filtering columns table 1 {} none none false) ∨
      (IsName token ∧
        next = tabling columns (some { table with aliasName := some token.content }) 2) := by
  by_cases opens : OpensClause token
  · simp [feed_tabling_opens opens, IsName, opens]
  · have other : ¬ IsWord token "where" := fun word => opens (.inr (.inr word))
    rw [feed_inside counts opens]
    by_cases kind : token.kind = .query
    · simp [readInside, tabling, readTable, kind, IsName, opens, other, eq_comm]
    · simp [readInside, tabling, readTable, kind, IsName, refuse, other]

theorem feed_tabling_two (counts : token.isComment = false) :
    (tabling columns (some table) 2).feed token = ⟨next, none⟩ ↔
      IsWord token "where" ∧ next = filtering columns table 2 {} none none false := by
  by_cases opens : OpensClause token
  · exact feed_tabling_opens opens
  · have other : ¬ IsWord token "where" := fun word => opens (.inr (.inr word))
    rw [feed_inside counts opens]
    by_cases kind : token.kind = .query
    · simp [readInside, tabling, readTable, kind, refuse, other]
    · simp [readInside, tabling, readTable, kind, refuse, other]

def Ends (columns : List String) (table : Table) (tokens : List Token) (query : Query) : Prop :=
  ∃ condition : Option Condition, (condition.map Condition.tokens).getD [] = tokens ∧
    query = { columns, table, groups := condition.map fun condition => [condition.chain.group] }

theorem build_tabling (count : Nat) :
    (tabling columns (some table) count).build = .ok { columns, table } := rfl

theorem ends_cons (count : Nat) {word : Token}
    (plain : ∀ token ∈ tokens, token.isComment = false) :
    Ends columns table (word :: tokens) query ↔
      IsWord word "where" ∧
        Completes (filtering columns table count {} none none false) tokens query := by
  constructor
  · rintro ⟨_ | condition, same, rfl⟩
    · cases same
    · cases same
      have completes : Completes (filtering columns table count {} none none false)
          condition.chain.tokens (filtered columns table (condition.chain.fileInto {} none)) :=
        completes_of_chain condition.chain plain (.inr rfl)
      rw [fileInto_empty] at completes
      exact ⟨condition.isWord, completes⟩
  · rintro ⟨isWord, completes⟩
    obtain ⟨chain, rfl, rfl⟩ := chain_of_completes plain (.inr rfl) completes
    refine ⟨some ⟨word, chain, isWord⟩, rfl, ?_⟩
    rw [fileInto_empty]
    rfl

theorem ends_nil : Ends columns table [] query ↔ query = { columns, table } := by
  constructor
  · rintro ⟨_ | condition, same, rfl⟩
    · rfl
    · cases same
  · rintro rfl
    exact ⟨none, rfl, rfl⟩

theorem completes_tabling_two (plain : ∀ token ∈ tokens, token.isComment = false) :
    Completes (tabling columns (some table) 2) tokens query ↔ Ends columns table tokens query := by
  cases tokens with
  | nil => simp [completes_nil, build_tabling, ends_nil, eq_comm]
  | cons token rest =>
      have plainRest := (List.forall_mem_cons.mp plain).2
      rw [completes_cons, ends_cons 2 plainRest]
      simp [feed_tabling_two (plain token (by simp)), and_assoc]

theorem completes_tabling_one (plain : ∀ token ∈ tokens, token.isComment = false) :
    Completes (tabling columns (some table) 1) tokens query ↔
      Ends columns table tokens query ∨
        ∃ aliasName rest, tokens = aliasName :: rest ∧ IsName aliasName ∧
          Ends columns { table with aliasName := some aliasName.content } rest query := by
  cases tokens with
  | nil => simp [completes_nil, build_tabling, ends_nil, eq_comm]
  | cons token rest =>
      have plainRest := (List.forall_mem_cons.mp plain).2
      rw [completes_cons, ends_cons 1 plainRest]
      simp only [feed_tabling_one (plain token (by simp)), List.cons.injEq]
      constructor
      · rintro ⟨next, ⟨word, rfl⟩ | ⟨name, rfl⟩, completes⟩
        · exact .inl ⟨word, completes⟩
        · exact .inr ⟨token, rest, ⟨rfl, rfl⟩, name, (completes_tabling_two plainRest).mp completes⟩
      · rintro (⟨word, completes⟩ | ⟨_, _, ⟨rfl, rfl⟩, name, ends⟩)
        · exact ⟨_, .inl ⟨word, rfl⟩, completes⟩
        · exact ⟨_, .inr ⟨name, rfl⟩, (completes_tabling_two plainRest).mpr ends⟩

theorem completes_tabling_none (plain : ∀ token ∈ tokens, token.isComment = false) :
    Completes (tabling columns none 0) tokens query ↔
      ∃ (name : Token) (aliasName : Option Token) (rest : List Token),
        tokens = name :: aliasName.toList ++ rest ∧ IsName name ∧
        (∀ token ∈ aliasName, IsName token) ∧
        Ends columns ⟨name.content, aliasName.map Token.content⟩ rest query := by
  cases tokens with
  | nil => simp [completes_nil, build_untabled, tabling]
  | cons token rest =>
      have plainRest := (List.forall_mem_cons.mp plain).2
      rw [completes_cons]
      simp only [feed_tabling_none (plain token (by simp)), List.cons_append, List.cons.injEq]
      constructor
      · rintro ⟨next, ⟨name, rfl⟩, completes⟩
        rcases (completes_tabling_one plainRest).mp completes with ends |
          ⟨aliasName, more, rfl, isAlias, ends⟩
        · exact ⟨token, none, rest, ⟨rfl, rfl⟩, name, by simp, ends⟩
        · exact ⟨token, some aliasName, more, ⟨rfl, rfl⟩, name, by simpa using isAlias, ends⟩
      · rintro ⟨_, aliasName, more, ⟨rfl, rfl⟩, name, isAlias, ends⟩
        refine ⟨_, ⟨name, rfl⟩, (completes_tabling_one plainRest).mpr ?_⟩
        cases aliasName with
        | none => exact .inl ends
        | some aliasName => exact .inr ⟨aliasName, more, rfl, isAlias aliasName rfl, ends⟩

end Tables

section Selections

variable {columns : List String} {tokens : List Token} {token : Token} {query : Query}
  {next : QueryDraft}

def selecting (columns : List String) : QueryDraft := { clause := some .select, columns }

theorem feed_selecting (counts : token.isComment = false) :
    (selecting columns).feed token = ⟨next, none⟩ ↔
      (¬ OpensClause token ∧ next = selecting (columns ++ [token.content])) ∨
      (IsWord token "from" ∧ columns ≠ [] ∧ next = tabling columns none 0) := by
  by_cases opens : OpensClause token
  · rcases opens with word | word | word
    · simp [feed_select word, openSelect, selecting, refuse, OpensClause, IsWord, word.1, word.2]
    · by_cases empty : columns = []
      · simp [feed_from word, openFrom, selecting, refuse, empty, OpensClause, word]
      · simp [feed_from word, openFrom, selecting, tabling, empty, OpensClause, word, eq_comm]
    · simp [feed_where word, openWhere, selecting, refuse, OpensClause, IsWord, word.1, word.2]
  · have other : ¬ IsWord token "from" := fun word => opens (.inr (.inl word))
    simp [feed_inside counts opens, readInside, selecting, opens, other, eq_comm]

theorem completes_selecting (plain : ∀ token ∈ tokens, token.isComment = false) :
    Completes (selecting columns) tokens query ↔
      ∃ more word rest, tokens = more ++ word :: rest ∧ (∀ token ∈ more, ¬ OpensClause token) ∧
        IsWord word "from" ∧ columns ++ more.map Token.content ≠ [] ∧
        Completes (tabling (columns ++ more.map Token.content) none 0) rest query := by
  induction tokens generalizing columns with
  | nil => simp [completes_nil, build_untabled, selecting]
  | cons token tokens ih =>
      have plainTail := (List.forall_mem_cons.mp plain).2
      rw [completes_cons]
      simp only [feed_selecting (plain token (by simp))]
      constructor
      · rintro ⟨next, ⟨inside, rfl⟩ | ⟨word, someColumn, rfl⟩, completes⟩
        · obtain ⟨more, word, rest, rfl, areColumns, isFrom, someColumn, completes⟩ :=
            (ih plainTail).mp completes
          refine ⟨token :: more, word, rest, rfl, ?_, isFrom, by simp, by simpa using completes⟩
          rintro token' (_ | member)
          · exact inside
          · exact areColumns token' ‹_›
        · exact ⟨[], token, tokens, rfl, by simp, word, by simpa using someColumn,
            by simpa using completes⟩
      · rintro ⟨_ | ⟨first, more⟩, word, rest, same, areColumns, isFrom, someColumn, completes⟩
        · cases same
          exact ⟨_, .inr ⟨isFrom, by simpa using someColumn, rfl⟩, by simpa using completes⟩
        · cases same
          refine ⟨_, .inl ⟨areColumns _ (by simp), rfl⟩, (ih plainTail).mpr ?_⟩
          exact ⟨more, word, rest, rfl, fun token member => areColumns token (by simp [member]),
            isFrom, by simp, by simpa using completes⟩

theorem feed_new (counts : token.isComment = false) :
    ({} : QueryDraft).feed token = ⟨next, none⟩ ↔ IsWord token "select" ∧ next = selecting [] := by
  by_cases opens : OpensClause token
  · rcases opens with word | word | word
    · simp [feed_select word, openSelect, selecting, word, eq_comm]
    · simp [feed_from word, openFrom, refuse, IsWord, word.2]
    · simp [feed_where word, openWhere, refuse, IsWord, word.2]
  · have other : ¬ IsWord token "select" := fun word => opens (.inl word)
    simp [feed_inside counts opens, readInside, refuse, other]

theorem completes_new (plain : ∀ token ∈ tokens, token.isComment = false) :
    Completes {} tokens query ↔
      ∃ word rest, tokens = word :: rest ∧ IsWord word "select" ∧
        Completes (selecting []) rest query :=
  completes_only (build_untabled rfl) plain feed_new

end Selections

/-- Tokens without comments complete an empty draft exactly if they are a phrase of the query. -/
theorem completes_iff_phrase {tokens : List Token} {query : Query}
    (plain : ∀ token ∈ tokens, token.isComment = false) :
    Completes {} tokens query ↔
      ∃ phrase : QueryPhrase, phrase.tokens = tokens ∧ phrase.query = query := by
  rw [completes_new plain]
  constructor
  · rintro ⟨selectWord, tokens, rfl, isSelect, completes⟩
    replace plain := (List.forall_mem_cons.mp plain).2
    obtain ⟨columns, fromWord, tokens, rfl, areColumns, isFrom, someColumn, completes⟩ :=
      (completes_selecting plain).mp completes
    replace plain := fun token member =>
      plain token (List.mem_append_right columns (List.mem_cons_of_mem fromWord member))
    obtain ⟨table, aliasName, tokens, rfl, isTable, isAlias, condition, rfl, rfl⟩ :=
      (completes_tabling_none plain).mp completes
    exact ⟨⟨selectWord, columns, fromWord, table, aliasName, condition, isSelect,
      by simpa using someColumn, areColumns, isFrom, isTable, isAlias⟩,
      by simp [QueryPhrase.tokens], rfl⟩
  · rintro ⟨phrase, rfl, rfl⟩
    -- What stands behind each keyword has no comments either, since it ends the whole list.
    have plainBehind : ∀ tail, tail <:+ phrase.tokens → ∀ token ∈ tail, token.isComment = false :=
      fun tail behind token member => plain token (behind.subset member)
    have split : phrase.tokens = phrase.selectWord :: (phrase.columns ++ phrase.fromWord ::
        (phrase.table :: phrase.aliasName.toList ++
          (phrase.condition.map Condition.tokens).getD [])) := by
      simp [QueryPhrase.tokens]
    have behindSelect := split ▸ List.suffix_cons _ _
    have behindFrom := ((List.suffix_cons _ _).trans (List.suffix_append _ _)).trans behindSelect
    refine ⟨_, _, split, phrase.isSelect, (completes_selecting (plainBehind _ behindSelect)).mpr
      ⟨phrase.columns, phrase.fromWord, _, rfl, phrase.areColumns, phrase.isFrom,
        by simpa using phrase.someColumn, ?_⟩⟩
    exact (completes_tabling_none (plainBehind _ behindFrom)).mpr
      ⟨phrase.table, phrase.aliasName, _, rfl, phrase.isTable, phrase.isAlias, phrase.condition,
        rfl, rfl⟩

theorem ofTokens_of_phrase {phrase : QueryPhrase} {tokens : List Token}
    (same : phrase.tokens = tokens.filter (!·.isComment)) :
    Query.ofTokens tokens = .ok phrase.query := by
  have plain : ∀ token ∈ tokens.filter (!·.isComment), token.isComment = false := by simp
  exact (completes_filter {} tokens phrase.query).mpr
    ((completes_iff_phrase plain).mpr ⟨phrase, same, rfl⟩)

theorem phrase_of_ofTokens {tokens : List Token} {query : Query}
    (read : Query.ofTokens tokens = .ok query) :
    ∃ phrase : QueryPhrase, phrase.tokens = tokens.filter (!·.isComment) ∧
      phrase.query = query := by
  have plain : ∀ token ∈ tokens.filter (!·.isComment), token.isComment = false := by simp
  exact (completes_iff_phrase plain).mp ((completes_filter {} tokens query).mp read)

theorem parse_eq_ofTokens {text : String} {tokens : List Token}
    (lexed : tokenise text = .ok tokens) : Query.parse text = Query.ofTokens tokens := by
  simp [Query.parse, lexed]

/-- A list of tokens is read to its end without a fault exactly if it is a phrase between comments.
-/
theorem ofTokens_eq_ok_iff_phrase (tokens : List Token) (query : Query) :
    Query.ofTokens tokens = .ok query ↔
      ∃ phrase : QueryPhrase, phrase.tokens = tokens.filter (!·.isComment) ∧
        phrase.query = query := by
  constructor
  · exact phrase_of_ofTokens
  · rintro ⟨phrase, same, rfl⟩
    exact ofTokens_of_phrase same

end DocQuery.Grammar
