import DocQuery.Proofs.Outcomes
import DocQuery.Proofs.Query.Phrases

/-!
The where clause. For each state that a draft can reach in it without a fault there is one theorem
that says which tokens it takes and which draft they lead to (`feed_…`), and one that says what may
stand behind it up to the end (`completes_…`). Together they say that a where clause is read exactly
if it is a chain of filters (`completes_of_chain`, `chain_of_completes`), and that each filter is
filed under the connective behind it (`fileInto_empty`).
-/

namespace DocQuery.Grammar

open QueryDraft

def Completes (draft : QueryDraft) (tokens : List Token) (query : Query) : Prop :=
  (draft.feedAll tokens >>= build) = .ok query

theorem completes_nil (draft : QueryDraft) (query : Query) :
    Completes draft [] query ↔ draft.build = .ok query := Iff.rfl

theorem completes_cons (draft : QueryDraft) (token : Token) (rest : List Token) (query : Query) :
    Completes draft (token :: rest) query ↔
      ∃ next, draft.feed token = ⟨next, none⟩ ∧ Completes next rest query := by
  unfold Completes
  simp only [feedAll]
  rcases fed : draft.feed token with ⟨next, _ | fault⟩
  · simp
  · simp

/-- Where no query is finished yet, a token has to follow. -/
theorem completes_unfinished {draft : QueryDraft} {tokens : List Token} {query : Query}
    (unfinished : draft.build ≠ .ok query) :
    Completes draft tokens query ↔
      ∃ token rest next, tokens = token :: rest ∧ draft.feed token = ⟨next, none⟩ ∧
        Completes next rest query := by
  cases tokens with
  | nil => simp [completes_nil, unfinished]
  | cons token rest =>
      rw [completes_cons]
      constructor
      · rintro ⟨next, fed, completes⟩
        exact ⟨token, rest, next, rfl, fed, completes⟩
      · rintro ⟨_, _, next, same, fed, completes⟩
        cases same
        exact ⟨next, fed, completes⟩

/-- A draft that takes tokens of one kind only, each of them in one way. -/
theorem completes_only {draft : QueryDraft} {tokens : List Token} {query : Query}
    {Takes : Token → Prop} {reach : Token → QueryDraft} (unfinished : draft.build ≠ .ok query)
    (plain : ∀ token ∈ tokens, token.isComment = false)
    (takes : ∀ {token next}, token.isComment = false →
      (draft.feed token = ⟨next, none⟩ ↔ Takes token ∧ next = reach token)) :
    Completes draft tokens query ↔
      ∃ token rest, tokens = token :: rest ∧ Takes token ∧ Completes (reach token) rest query := by
  rw [completes_unfinished unfinished]
  constructor
  · rintro ⟨token, rest, next, rfl, fed, completes⟩
    obtain ⟨taken, rfl⟩ := (takes (plain token List.mem_cons_self)).mp fed
    exact ⟨token, rest, rfl, taken, completes⟩
  · rintro ⟨token, rest, rfl, taken, completes⟩
    exact ⟨token, rest, _, rfl, (takes (plain token List.mem_cons_self)).mpr ⟨taken, rfl⟩, completes⟩

theorem completes_filter (draft : QueryDraft) (tokens : List Token) (query : Query) :
    Completes draft tokens query ↔ Completes draft (tokens.filter (!·.isComment)) query := by
  induction tokens generalizing draft with
  | nil => rfl
  | cons token rest ih =>
      by_cases comment : token.isComment = true
      · have skipped : draft.feed token = ⟨draft, none⟩ := by simp [feed, comment]
        rw [completes_cons, List.filter_cons_of_neg (by simpa using comment), ← ih draft]
        simp [skipped]
      · rw [completes_cons, List.filter_cons_of_pos (by simpa using comment), completes_cons]
        simp only [ih]

section Clauses

variable {draft : QueryDraft} {token : Token}

theorem feed_select (word : IsWord token "select") : draft.feed token = draft.openSelect := by
  simp [feed, Token.isComment, word.1, word.2]

theorem feed_from (word : IsWord token "from") : draft.feed token = draft.openFrom := by
  simp [feed, Token.isComment, word.1, word.2]

theorem feed_where (word : IsWord token "where") : draft.feed token = draft.openWhere := by
  simp [feed, Token.isComment, word.1, word.2]

def readInside (draft : QueryDraft) (token : Token) : Fed :=
  match draft.clause with
  | none => draft.refuse (.beforeSelect token.content)
  | some .select => ⟨{ draft with columns := draft.columns ++ [token.content] }, none⟩
  | some .from => draft.readTable token
  | some .where => draft.readFilter token

theorem feed_inside (counts : token.isComment = false) (inside : ¬ OpensClause token) :
    draft.feed token = readInside draft token := by
  simp only [OpensClause, IsWord, not_or] at inside
  simp only [feed, counts, inside, Bool.false_eq_true, ↓reduceIte]
  rfl

end Clauses

section Filters

theorem ofName?_iff (name : String) (meaning : Operator) :
    Operator.ofName? name = some meaning ↔ (name, meaning) ∈ operatorNames := by
  constructor
  · intro found
    simp only [operatorNames, List.mem_cons, Prod.mk.injEq, List.not_mem_nil, or_false]
    unfold Operator.ofName? Operator.notEqualTo at found
    repeat' split at found
    all_goals cases found
    all_goals simp_all
  · intro listed
    simp only [operatorNames, List.mem_cons, Prod.mk.injEq, List.not_mem_nil, or_false] at listed
    rcases listed with ⟨rfl, rfl⟩ | ⟨rfl, rfl⟩ | ⟨rfl, rfl⟩ | ⟨rfl, rfl⟩ | ⟨rfl, rfl⟩ |
      ⟨rfl, rfl⟩ | ⟨rfl, rfl⟩ | ⟨rfl, rfl⟩ | ⟨rfl, rfl⟩ <;> rfl

/-- The pending filter of a draft is complete once its operator is a known one. -/
theorem build_filter_iff (column name : String) (value : Token) (negated : Bool)
    (filter : Filter) :
    FilterDraft.build ⟨column, some name, some value, negated⟩ = .ok filter ↔
      ∃ meaning, (name, meaning) ∈ operatorNames ∧
        filter = ⟨.ofText column, if negated then .negation meaning else meaning, value⟩ := by
  simp only [FilterDraft.build, ← ofName?_iff]
  cases Operator.ofName? name with
  | none => simp
  | some meaning => simp [eq_comm]

variable {columns : List String} {table : Table} {count : Nat} {group : FilterGroup}
  {connective : Option Connective} {dangling : Bool} {token : Token} {next : QueryDraft}

def filtering (columns : List String) (table : Table) (count : Nat) (group : FilterGroup)
    (connective : Option Connective) (pending : Option FilterDraft) (dangling : Bool) :
    QueryDraft where
  clause := some .where
  columns := columns
  table := some table
  tableTokens := count
  group := some group
  pending := pending
  connective := connective
  dangling := dangling

/-- In the where clause a word that opens a clause is always refused. -/
theorem feed_filtering (counts : token.isComment = false) {pending : Option FilterDraft} :
    (filtering columns table count group connective pending dangling).feed token = ⟨next, none⟩ ↔
      ¬ OpensClause token ∧
        (filtering columns table count group connective pending dangling).readFilter token =
          ⟨next, none⟩ := by
  by_cases opens : OpensClause token
  · rcases opens with word | word | word
    · simp [feed_select word, openSelect, refuse, filtering, OpensClause, word]
    · simp [feed_from word, openFrom, refuse, filtering, OpensClause, word]
    · simp [feed_where word, openWhere, refuse, filtering, OpensClause, word]
  · simp only [feed_inside counts opens, opens, not_false_eq_true, true_and]
    rfl

theorem readFilter_joint {draft : QueryDraft} {joint : Connective}
    (word : IsWord token joint.word) : draft.readFilter token = draft.closeFilter joint := by
  cases joint with
  | and => simp [readFilter, word.1, word.2, Connective.word]
  | or => simp [readFilter, word.1, word.2, Connective.word]

theorem feed_beginning (counts : token.isComment = false) :
    (filtering columns table count group connective none dangling).feed token = ⟨next, none⟩ ↔
      IsColumn token ∧
        next = filtering columns table count group connective (some { column := token.content })
          false := by
  rw [feed_filtering counts]
  obtain ⟨kind, content, elements⟩ := token
  cases kind with
  | query =>
      by_cases joined : content = "and" ∨ content = "or"
      · rcases joined with rfl | rfl <;>
          simp [readFilter, closeFilter, filtering, refuse, IsColumn]
      · rw [not_or] at joined
        simp [readFilter, beginFilter, filtering, joined, IsColumn, IsName, eq_comm]
  | block | text | number | operator | comment | array | delimiter =>
      simp [readFilter, beginFilter, filtering, refuse, IsColumn, IsName]

theorem feed_named {column : String} (counts : token.isComment = false) :
    (filtering columns table count group connective (some { column }) dangling).feed token =
        ⟨next, none⟩ ↔
      (token.kind = .operator ∨ IsWord token "in") ∧
        next = filtering columns table count group connective
          (some { column, operator := some token.content }) dangling := by
  rw [feed_filtering counts]
  obtain ⟨kind, content, elements⟩ := token
  cases kind with
  | query =>
      by_cases joined : content = "and" ∨ content = "or"
      · rcases joined with rfl | rfl <;>
          simp [readFilter, closeFilter, filtering, refuse, FilterDraft.build, IsWord]
      · rw [not_or] at joined
        by_cases membership : content = "in"
        · subst membership
          simp [readFilter, continueFilter, isOperator, keep, FilterDraft.setOperator, filtering,
            OpensClause, IsWord, eq_comm]
        · simp [readFilter, continueFilter, isOperator, filtering, joined, membership, refuse,
            IsWord]
  | operator =>
      simp [readFilter, continueFilter, isOperator, keep, FilterDraft.setOperator, filtering,
        OpensClause, IsWord, eq_comm]
  | block | text | number | comment | array | delimiter =>
      simp [readFilter, continueFilter, isOperator, filtering, refuse, IsWord]

theorem feed_compared {column name : String} {negated : Bool} (counts : token.isComment = false) :
    (filtering columns table count group connective (some ⟨column, some name, none, negated⟩)
        dangling).feed token = ⟨next, none⟩ ↔
      (IsValue token ∧ next = filtering columns table count group connective
        (some ⟨column, some name, some token, negated⟩) dangling) ∨
      (token.kind = .operator ∧ token.content = "not" ∧ name = "is" ∧ negated = false ∧
        next = filtering columns table count group connective
          (some ⟨column, some name, none, true⟩) dangling) := by
  rw [feed_filtering counts]
  obtain ⟨kind, content, elements⟩ := token
  -- A name may be a connective or a constant, and an operator may negate; no other kind has two
  -- readings.
  cases kind with
  | query =>
      by_cases joined : content = "and" ∨ content = "or"
      · rcases joined with rfl | rfl <;>
          simp [readFilter, closeFilter, filtering, refuse, FilterDraft.build, IsValue, IsWord]
      · rw [not_or] at joined
        by_cases constant : content = "true" ∨ content = "false" ∨ content = "null"
        · rcases constant with rfl | rfl | rfl <;>
            simp [readFilter, continueFilter, isValue, keep, FilterDraft.setValue, filtering,
              OpensClause, IsValue, IsWord, eq_comm]
        · simp only [not_or] at constant
          simp [readFilter, continueFilter, isValue, filtering, joined, constant, refuse, IsValue,
            IsWord]
  | operator =>
      by_cases negates : name = "is" ∧ content = "not" ∧ negated = false
      · obtain ⟨rfl, rfl, rfl⟩ := negates
        simp [readFilter, continueFilter, isOperator, keep, FilterDraft.setOperator, filtering,
          OpensClause, IsValue, IsWord, eq_comm]
      · have refused : (readFilter (filtering columns table count group connective
            (some ⟨column, some name, none, negated⟩) dangling)
              ⟨.operator, content, elements⟩).fault ≠ none := by
          simp [readFilter, continueFilter, isOperator, keep, FilterDraft.setOperator, filtering,
            negates, refuse]
        constructor
        · rintro ⟨-, fed⟩
          exact absurd (congrArg Fed.fault fed) refused
        · rintro (⟨value, -⟩ | ⟨-, negation, base, once, -⟩)
          · simp [IsValue, IsWord] at value
          · exact absurd ⟨base, negation, once⟩ negates
  | text | number | array =>
      simp [readFilter, continueFilter, isValue, keep, FilterDraft.setValue, filtering,
        OpensClause, IsValue, IsWord, eq_comm]
  | block | comment | delimiter =>
      simp [readFilter, continueFilter, isValue, filtering, refuse, IsValue, IsWord]

theorem joint_unique {joint joint' : Connective} (word : IsWord token joint.word)
    (word' : IsWord token joint'.word) : joint' = joint := by
  have same := word'.2.symm.trans word.2
  cases joint <;> cases joint' <;> simp_all [Connective.word]

/-- A connective files the filter, if the filter can be built. -/
theorem feed_joint {column name : String} {value : Token} {negated : Bool} {joint : Connective}
    (word : IsWord token joint.word) :
    (filtering columns table count group connective (some ⟨column, some name, some value, negated⟩)
        dangling).feed token = ⟨next, none⟩ ↔
      ∃ filter, FilterDraft.build ⟨column, some name, some value, negated⟩ = .ok filter ∧
        next = filtering columns table count (group.file filter joint) (some joint) none true := by
  have counts : token.isComment = false := by simp [Token.isComment, word.1]
  have inside : ¬ OpensClause token := by
    cases joint <;> simp [OpensClause, IsWord, word.2, Connective.word]
  simp only [feed_filtering counts, inside, not_false_eq_true, true_and, readFilter_joint word]
  cases built : FilterDraft.build ⟨column, some name, some value, negated⟩ with
  | error fault => simp [closeFilter, filtering, built, refuse]
  | ok filter => simp [closeFilter, filtering, built, QueryDraft.file, eq_comm]

theorem feed_valued {column name : String} {value : Token} {negated : Bool}
    (counts : token.isComment = false) :
    (filtering columns table count group connective (some ⟨column, some name, some value, negated⟩)
        dangling).feed token = ⟨next, none⟩ ↔
      ∃ joint filter, IsWord token (Connective.word joint) ∧
        FilterDraft.build ⟨column, some name, some value, negated⟩ = .ok filter ∧
        next = filtering columns table count (group.file filter joint) (some joint) none true := by
  by_cases joined : ∃ joint : Connective, IsWord token joint.word
  · obtain ⟨joint, word⟩ := joined
    rw [feed_joint word]
    constructor
    · rintro ⟨filter, built, reached⟩
      exact ⟨joint, filter, word, built, reached⟩
    · rintro ⟨joint', filter, word', built, reached⟩
      rw [joint_unique word word'] at reached
      exact ⟨filter, built, reached⟩
  · have noAnd : ¬ (token.kind = .query ∧ token.content = "and") :=
      fun word => joined ⟨.and, word⟩
    have noOr : ¬ (token.kind = .query ∧ token.content = "or") :=
      fun word => joined ⟨.or, word⟩
    -- With a value in place nothing but a connective is waited for.
    have refused : (readFilter (filtering columns table count group connective
        (some ⟨column, some name, some value, negated⟩) dangling) token).fault ≠ none := by
      simp only [readFilter, noAnd, noOr, ↓reduceIte]
      split <;> simp [filtering, continueFilter, refuse]
    rw [feed_filtering counts]
    constructor
    · rintro ⟨-, fed⟩
      exact absurd (congrArg Fed.fault fed) refused
    · rintro ⟨joint, _, word, _⟩
      exact absurd ⟨joint, word⟩ joined

end Filters

section Conditions

variable {columns : List String} {table : Table} {count : Nat} {group : FilterGroup}
  {connective : Option Connective} {dangling : Bool} {tokens : List Token} {query : Query}

def filtered (columns : List String) (table : Table) (group : FilterGroup) : Query :=
  { columns, table, groups := some [group] }

theorem file_isEmpty (filter : Filter) (joint : Connective) :
    (group.file filter joint).isEmpty = false := by
  cases joint <;> simp [FilterGroup.file, FilterGroup.isEmpty]

theorem build_beginning (fresh : dangling = true ∨ group = {}) :
    (filtering columns table count group connective none dangling).build ≠ .ok query := by
  intro built
  rcases fresh with rfl | rfl
  · simp [build, settle, filtering] at built
  · cases dangling <;> simp [build, settle, filtering, FilterGroup.isEmpty] at built

theorem build_incomplete {pending : FilterDraft}
    (incomplete : ∀ filter, pending.build ≠ .ok filter) :
    (filtering columns table count group connective (some pending) dangling).build ≠ .ok query := by
  intro built
  cases draft : pending.build with
  | ok filter => exact incomplete filter draft
  | error fault => simp [build, settle, filtering, draft] at built

theorem build_complete {pending : FilterDraft} {filter : Filter}
    (complete : pending.build = .ok filter) :
    (filtering columns table count group connective (some pending) dangling).build =
      .ok (filtered columns table (group.file filter (connective.getD .and))) := by
  simp [build, settle, filtering, filtered, complete, QueryDraft.file, file_isEmpty]

def Follows (columns : List String) (table : Table) (count : Nat) (group : FilterGroup)
    (connective : Option Connective) (filter : Filter) (tokens : List Token) (query : Query) :
    Prop :=
  (tokens = [] ∧ query = filtered columns table (group.file filter (connective.getD .and))) ∨
    ∃ (joint : Joint) (rest : List Token), tokens = joint.token :: rest ∧
      Completes (filtering columns table count (group.file filter joint.connective)
        (some joint.connective) none true) rest query

theorem completes_valued {column name : String} {value : Token} {negated : Bool}
    (plain : ∀ token ∈ tokens, token.isComment = false) :
    Completes (filtering columns table count group connective
        (some ⟨column, some name, some value, negated⟩) dangling) tokens query ↔
      ∃ filter, FilterDraft.build ⟨column, some name, some value, negated⟩ = .ok filter ∧
        Follows columns table count group connective filter tokens query := by
  -- A filter with its value is followed by the end or by a connective, and only now is it seen
  -- whether its operator has a meaning.
  unfold Follows
  cases tokens with
  | nil =>
      rw [completes_nil]
      cases built : FilterDraft.build ⟨column, some name, some value, negated⟩ with
      | error fault => simpa using build_incomplete (by simp [built])
      | ok filter => simp [build_complete built, eq_comm]
  | cons token rest =>
      rw [completes_cons]
      constructor
      · rintro ⟨next, fed, completes⟩
        obtain ⟨joint, filter, word, built, rfl⟩ := (feed_valued (plain token (by simp))).mp fed
        exact ⟨filter, built, .inr ⟨⟨token, joint, word⟩, rest, rfl, completes⟩⟩
      · rintro ⟨filter, built, ⟨ends, -⟩ | ⟨joint, rest', same, completes⟩⟩
        · cases ends
        · cases same
          exact ⟨_, (feed_valued (plain _ (by simp))).mpr
            ⟨joint.connective, filter, joint.isWord, built, rfl⟩, completes⟩

theorem completes_compared {column name : String} {negated : Bool}
    (plain : ∀ token ∈ tokens, token.isComment = false) :
    Completes (filtering columns table count group connective
        (some ⟨column, some name, none, negated⟩) dangling) tokens query ↔
      ∃ token rest, tokens = token :: rest ∧
        ((IsValue token ∧ Completes (filtering columns table count group connective
            (some ⟨column, some name, some token, negated⟩) dangling) rest query) ∨
          (token.kind = .operator ∧ token.content = "not" ∧ name = "is" ∧ negated = false ∧
            Completes (filtering columns table count group connective
              (some ⟨column, some name, none, true⟩) dangling) rest query)) := by
  rw [completes_unfinished (build_incomplete (by simp [FilterDraft.build]))]
  constructor
  · rintro ⟨token, rest, next, rfl, fed, completes⟩
    rcases (feed_compared (plain token List.mem_cons_self)).mp fed with
      ⟨value, rfl⟩ | ⟨kind, word, base, once, rfl⟩
    · exact ⟨token, rest, rfl, .inl ⟨value, completes⟩⟩
    · exact ⟨token, rest, rfl, .inr ⟨kind, word, base, once, completes⟩⟩
  · rintro ⟨token, rest, rfl, ⟨value, completes⟩ | ⟨kind, word, base, once, completes⟩⟩
    · exact ⟨token, rest, _, rfl, (feed_compared (plain token List.mem_cons_self)).mpr
        (.inl ⟨value, rfl⟩), completes⟩
    · exact ⟨token, rest, _, rfl, (feed_compared (plain token List.mem_cons_self)).mpr
        (.inr ⟨kind, word, base, once, rfl⟩), completes⟩

theorem completes_named {column : String} (plain : ∀ token ∈ tokens, token.isComment = false) :
    Completes (filtering columns table count group connective (some { column }) dangling)
        tokens query ↔
      ∃ operator rest, tokens = operator :: rest ∧
        (operator.kind = .operator ∨ IsWord operator "in") ∧
        Completes (filtering columns table count group connective
          (some { column, operator := some operator.content }) dangling) rest query :=
  completes_only (build_incomplete (by simp [FilterDraft.build])) plain feed_named

theorem completes_beginning (plain : ∀ token ∈ tokens, token.isComment = false)
    (fresh : dangling = true ∨ group = {}) :
    Completes (filtering columns table count group connective none dangling) tokens query ↔
      ∃ column rest, tokens = column :: rest ∧ IsColumn column ∧
        Completes (filtering columns table count group connective
          (some { column := column.content }) false) rest query :=
  completes_only (build_beginning fresh) plain feed_beginning

/-- Whatever completes a query where a filter is to begin starts with a whole filter. -/
theorem phrase_of_completes (plain : ∀ token ∈ tokens, token.isComment = false)
    (fresh : dangling = true ∨ group = {})
    (completes : Completes (filtering columns table count group connective none dangling) tokens
      query) :
    ∃ (phrase : FilterPhrase) (rest : List Token), tokens = phrase.tokens ++ rest ∧
      Follows columns table count group connective phrase.filter rest query := by
  obtain ⟨column, tokens, rfl, isColumn, completes⟩ := (completes_beginning plain fresh).mp completes
  replace plain := (List.forall_mem_cons.mp plain).2
  obtain ⟨operator, tokens, rfl, isOperator, completes⟩ := (completes_named plain).mp completes
  replace plain := (List.forall_mem_cons.mp plain).2
  obtain ⟨token, tokens, rfl, next⟩ := (completes_compared plain).mp completes
  replace plain := (List.forall_mem_cons.mp plain).2
  rcases next with ⟨isValue, completes⟩ | ⟨kind, word, base, -, completes⟩
  · obtain ⟨filter, built, follows⟩ := (completes_valued plain).mp completes
    obtain ⟨meaning, isKnown, rfl⟩ := (build_filter_iff _ _ _ _ _).mp built
    exact ⟨⟨column, operator, none, token, meaning, isColumn, isOperator, isKnown, by simp,
      isValue⟩, tokens, rfl, follows⟩
  -- Only `is` takes a `not` behind it, and `in` is no `is`; so the operator is one by its kind.
  · have isSymbol : operator.kind = .operator := by
      rcases isOperator with kind | membership
      · exact kind
      · simp [membership.2] at base
    obtain ⟨value, tokens, rfl, ⟨isValue, completes⟩ | ⟨_, _, _, once, _⟩⟩ :=
      (completes_compared plain).mp completes
    · replace plain := (List.forall_mem_cons.mp plain).2
      obtain ⟨filter, built, follows⟩ := (completes_valued plain).mp completes
      obtain ⟨meaning, isKnown, rfl⟩ := (build_filter_iff _ _ _ _ _).mp built
      have negates : ∀ word ∈ some token, operator.kind = .operator ∧ operator.content = "is" ∧
          word.kind = .operator ∧ word.content = "not" := by
        rintro _ ⟨⟩
        exact ⟨isSymbol, base, kind, word⟩
      exact ⟨⟨column, operator, some token, value, meaning, isColumn, isOperator, isKnown, negates,
        isValue⟩, tokens, rfl, follows⟩
    · cases once

theorem completes_of_phrase {phrase : FilterPhrase}
    (plain : ∀ token ∈ phrase.tokens ++ tokens, token.isComment = false)
    (fresh : dangling = true ∨ group = {})
    (follows : Follows columns table count group connective phrase.filter tokens query) :
    Completes (filtering columns table count group connective none dangling)
      (phrase.tokens ++ tokens) query := by
  obtain ⟨column, operator, negation, value, meaning, isColumn, isOperator, isKnown, isNegation,
    isValue⟩ := phrase
  have built := (build_filter_iff column.content operator.content value negation.isSome _).mpr
    ⟨meaning, isKnown, rfl⟩
  have valued : Completes (filtering columns table count group connective
      (some ⟨column.content, some operator.content, some value, negation.isSome⟩) false) tokens
        query :=
    (completes_valued fun token member => plain token (List.mem_append_right _ member)).mpr
      ⟨_, built, follows⟩
  have shape : FilterPhrase.tokens ⟨column, operator, negation, value, meaning, isColumn, isOperator,
      isKnown, isNegation, isValue⟩ ++ tokens =
        column :: operator :: (negation.toList ++ value :: tokens) := by
    simp [FilterPhrase.tokens]
  -- From the column on the tokens are fed one by one, up to where the value has been read.
  rw [shape] at plain ⊢
  refine (completes_beginning plain fresh).mpr ⟨column, _, rfl, isColumn, ?_⟩
  replace plain := (List.forall_mem_cons.mp plain).2
  refine (completes_named plain).mpr ⟨operator, _, rfl, isOperator, ?_⟩
  replace plain := (List.forall_mem_cons.mp plain).2
  cases negation with
  | none => exact (completes_compared plain).mpr ⟨value, tokens, rfl, .inl ⟨isValue, valued⟩⟩
  | some token =>
      obtain ⟨-, base, kind, word⟩ := isNegation token rfl
      refine (completes_compared plain).mpr
        ⟨token, value :: tokens, rfl, .inr ⟨kind, word, base, rfl, ?_⟩⟩
      replace plain := (List.forall_mem_cons.mp plain).2
      exact (completes_compared plain).mpr ⟨value, tokens, rfl, .inl ⟨isValue, valued⟩⟩

/-- The group after the filters of a chain have been filed one by one, the last of them under the
connective read last. -/
def Chain.fileInto (group : FilterGroup) (connective : Option Connective) : Chain → FilterGroup
  | .last phrase => group.file phrase.filter (connective.getD .and)
  | .link phrase joint rest =>
      rest.fileInto (group.file phrase.filter joint.connective) (some joint.connective)

/-- Reading a chain files its filters. -/
theorem completes_of_chain (chain : Chain) (plain : ∀ token ∈ chain.tokens, token.isComment = false)
    (fresh : dangling = true ∨ group = {}) :
    Completes (filtering columns table count group connective none dangling) chain.tokens
      (filtered columns table (chain.fileInto group connective)) := by
  induction chain generalizing group connective dangling with
  | last phrase =>
      rw [Chain.tokens, ← List.append_nil phrase.tokens] at plain ⊢
      exact completes_of_phrase plain fresh (.inl ⟨rfl, rfl⟩)
  | link phrase joint rest ih =>
      have plainRest : ∀ token ∈ rest.tokens, token.isComment = false := by
        intro token member
        exact plain token (List.mem_append_right _ (List.mem_cons_of_mem _ member))
      exact completes_of_phrase plain fresh
        (.inr ⟨joint, rest.tokens, rfl, ih plainRest (.inl rfl)⟩)

/-- Only chains are read as conditions. -/
theorem chain_of_completes (plain : ∀ token ∈ tokens, token.isComment = false)
    (fresh : dangling = true ∨ group = {})
    (completes : Completes (filtering columns table count group connective none dangling) tokens
      query) :
    ∃ chain : Chain, chain.tokens = tokens ∧
      query = filtered columns table (chain.fileInto group connective) := by
  -- Each filter takes tokens away, so the rest of the chain is found in a shorter list.
  induction shorter : tokens.length using Nat.strongRecOn
    generalizing tokens group connective dangling with
  | _ length ih =>
      obtain ⟨phrase, rest, rfl, follows⟩ := phrase_of_completes plain fresh completes
      rcases follows with ⟨rfl, rfl⟩ | ⟨joint, rest, rfl, more⟩
      · exact ⟨.last phrase, by simp [Chain.tokens], rfl⟩
      · have plainRest : ∀ token ∈ rest, token.isComment = false := by
          intro token member
          exact plain token (List.mem_append_right _ (List.mem_cons_of_mem _ member))
        have less : rest.length < length := by
          rw [← shorter]
          simp
          omega
        obtain ⟨chain, rfl, rfl⟩ := ih _ less plainRest (.inl rfl) more rfl
        exact ⟨.link phrase joint chain, rfl, rfl⟩

end Conditions

section Filing

def fileAll (group : FilterGroup) (filed : List (Filter × Connective)) : FilterGroup :=
  filed.foldl (fun group entry => group.file entry.1 entry.2) group

theorem fileAll_eq (group : FilterGroup) (filed : List (Filter × Connective)) :
    fileAll group filed =
      { and := group.and ++ (filed.filter (·.2 = .and)).map Prod.fst
        or := group.or ++ (filed.filter (·.2 = .or)).map Prod.fst } := by
  induction filed generalizing group with
  | nil => simp [fileAll]
  | cons entry rest ih =>
      obtain ⟨filter, connective⟩ := entry
      have step : fileAll group ((filter, connective) :: rest) =
          fileAll (group.file filter connective) rest := rfl
      rw [step, ih]
      cases connective <;> simp [FilterGroup.file]

theorem fileInto_eq_fileAll (chain : Chain) (group : FilterGroup)
    (connective : Option Connective) :
    chain.fileInto group connective =
      fileAll group (chain.filters.zip (chain.connectives ++
        [chain.connectives.getLast?.getD (connective.getD .and)])) := by
  induction chain generalizing group connective with
  | last phrase => rfl
  | link phrase joint rest ih =>
      rw [Chain.fileInto, ih]
      simp only [Chain.filters, Chain.phrases, List.map_cons, Chain.connectives, List.getLast?_cons,
        Option.getD_some, List.cons_append, List.zip_cons_cons]
      rfl

/-- Filed one by one, the filters of a chain make its group. -/
theorem fileInto_empty (chain : Chain) : chain.fileInto {} none = chain.group := by
  rw [fileInto_eq_fileAll, fileAll_eq]
  simp [Chain.group, Chain.filedUnder, Chain.filing]

end Filing

end DocQuery.Grammar
