import DocQuery.Proofs.Query.Grammar

/-!
No filter of a where clause is lost, repeated, moved or filed in the wrong list
(`parse_files_every_filter`): a filter goes to the list of the connective behind it, the last one
to the list of the last connective. So a list that holds one filter only is the `and` list of a
group without `or` filters, or stands beside a longer list.
-/

namespace DocQuery.Grammar

section Columns

theorem splitAtDot?_eq_none_iff (text : List Char) : splitAtDot? text = none ↔ '.' ∉ text := by
  induction text with
  | nil => simp [splitAtDot?]
  | cons c rest ih =>
      by_cases dot : c = '.'
      · simp [splitAtDot?, dot]
      · have other : ¬ '.' = c := fun same => dot same.symm
        simp [splitAtDot?, dot, ih, other]

theorem splitAtDot?_append (before after : List Char) (free : '.' ∉ before) :
    splitAtDot? (before ++ '.' :: after) = some (before, after) := by
  induction before with
  | nil => simp [splitAtDot?]
  | cons c rest ih =>
      simp only [List.mem_cons, not_or] at free
      have other : ¬ c = '.' := fun same => free.1 same.symm
      simp [splitAtDot?, other, ih free.2]

theorem eq_of_splitAtDot? {text before after : List Char}
    (split : splitAtDot? text = some (before, after)) :
    text = before ++ '.' :: after ∧ '.' ∉ before := by
  induction text generalizing before with
  | nil => cases split
  | cons c rest ih =>
      by_cases dot : c = '.'
      · simp only [splitAtDot?, dot, if_true, Option.some.injEq, Prod.mk.injEq] at split
        obtain ⟨rfl, rfl⟩ := split
        simp [dot]
      · have other : ¬ '.' = c := fun same => dot same.symm
        simp only [splitAtDot?, dot, if_false, Option.map_eq_some_iff, Prod.mk.injEq] at split
        obtain ⟨⟨before', after'⟩, split, rfl, rfl⟩ := split
        obtain ⟨rfl, free⟩ := ih split
        simp [other, free]

def CutAtFirstDot (text : String) (column : ColumnRef) : Prop :=
  match column.qualifier with
  | some qualifier => text = qualifier ++ "." ++ column.name ∧ '.' ∉ qualifier.toList
  | none => text = column.name ∧ '.' ∉ text.toList

theorem cutAtFirstDot_ofText (text : String) : CutAtFirstDot text (.ofText text) := by
  unfold ColumnRef.ofText
  split
  · rename_i qualifier name split
    obtain ⟨same, free⟩ := eq_of_splitAtDot? split
    refine ⟨?_, by simpa using free⟩
    rw [← String.toList_inj, same]
    simp
  · rename_i whole
    exact ⟨rfl, (splitAtDot?_eq_none_iff _).mp whole⟩

end Columns

section Filing

structure Rebuilds (filter : Filter) (phrase : FilterPhrase) : Prop where
  column : CutAtFirstDot phrase.column.content filter.column
  operator : filter.operator =
    if phrase.negation.isSome then .negation phrase.meaning else phrase.meaning
  value : filter.value = phrase.value

theorem filter_rebuilds (phrase : FilterPhrase) : Rebuilds phrase.filter phrase :=
  ⟨cutAtFirstDot_ofText phrase.column.content, rfl, rfl⟩

theorem length_filters (chain : Chain) : chain.filters.length = chain.filing.length := by
  induction chain with
  | last phrase => rfl
  | link phrase joint rest ih => simpa [Chain.filters, Chain.phrases, Chain.filing,
      Chain.connectives] using ih

theorem length_filedUnder (chain : Chain) (connective : Connective) :
    (chain.filedUnder connective).length = chain.filing.count connective := by
  have kept : ((chain.filters.zip chain.filing).map Prod.snd) = chain.filing :=
    List.map_snd_zip (Nat.le_of_eq (length_filters chain).symm)
  calc (chain.filedUnder connective).length
      = (chain.filters.zip chain.filing).countP (·.2 = connective) := by
        rw [Chain.filedUnder, List.length_map, List.countP_eq_length_filter]
    _ = ((chain.filters.zip chain.filing).map Prod.snd).countP (· = connective) := by
        rw [List.countP_map]
        rfl
    _ = chain.filing.count connective := by
        rw [kept]
        rfl

theorem count_and_or (filing : List Connective) :
    filing.count .and + filing.count .or = filing.length := by
  induction filing with
  | nil => rfl
  | cons connective rest ih => cases connective <;> simp <;> omega

theorem size_group (chain : Chain) : chain.group.size = chain.phrases.length := by
  calc chain.group.size
      = chain.filing.count .and + chain.filing.count .or := by
        simp only [FilterGroup.size, Chain.group, length_filedUnder]
    _ = chain.filters.length := by rw [count_and_or, length_filters]
    _ = chain.phrases.length := List.length_map _

/-- The last two filters of a chain always stand in one list. -/
def HoldsLastTwo (group : FilterGroup) : Prop :=
  2 ≤ group.and.length ∨ 2 ≤ group.or.length ∨ group.and.length = 1 ∧ group.or.length = 0

theorem group_holdsLastTwo (chain : Chain) : HoldsLastTwo chain.group := by
  simp only [HoldsLastTwo, Chain.group, length_filedUnder, Chain.filing]
  cases ends : chain.connectives.getLast? with
  | none =>
      rw [List.getLast?_eq_none_iff] at ends
      simp [ends]
  | some connective =>
      obtain ⟨before, same⟩ := List.getLast?_eq_some_iff.mp ends
      cases connective <;> simp [same, List.count_append]

end Filing

theorem phrase_of_parse {text : String} {query : Query} (parsed : Query.parse text = .ok query) :
    ∃ phrase : QueryPhrase, phrase.query = query := by
  unfold Query.parse at parsed
  split at parsed
  · cases parsed
  · obtain ⟨phrase, -, same⟩ := phrase_of_ofTokens parsed
    exact ⟨phrase, same⟩

/-- Every filter of a chain is filed, wherever comments stand between its tokens, and whatever text
is read, the last two filters of it share a list. -/
theorem parse_files_every_filter :
    (∀ (phrase : QueryPhrase) (condition : Condition) (tokens : List Token),
      phrase.condition = some condition → phrase.tokens = tokens.filter (!·.isComment) →
      ∃ query, Query.ofTokens tokens = .ok query ∧
        (∀ text, tokenise text = .ok tokens → Query.parse text = .ok query) ∧
        query.groups = some [condition.chain.group] ∧
        condition.chain.group.size = condition.chain.phrases.length ∧
        ∀ part ∈ condition.chain.phrases, Rebuilds part.filter part) ∧
    (∀ text query, Query.parse text = .ok query → query.groups ≠ none →
      ∃ group, query.groups = some [group] ∧ HoldsLastTwo group) := by
  constructor
  · intro phrase condition tokens isCondition same
    have read := ofTokens_of_phrase same
    refine ⟨phrase.query, read, fun text lexed => (parse_eq_ofTokens lexed).trans read, ?_,
      size_group condition.chain, fun part _ => filter_rebuilds part⟩
    simp [QueryPhrase.query, isCondition]
  · intro text query parsed conditional
    obtain ⟨phrase, rfl⟩ := phrase_of_parse parsed
    cases isCondition : phrase.condition with
    | none => simp [QueryPhrase.query, isCondition] at conditional
    | some condition =>
        refine ⟨condition.chain.group, ?_, group_holdsLastTwo condition.chain⟩
        simp [QueryPhrase.query, isCondition]

theorem parse_files_three_filters :
    ∃ query, Query.parse "select id from c where a.b.c = 1 and d = 2 or e is not null" = .ok query ∧
      query.groups = some [{
        and := [⟨⟨"b.c", some "a"⟩, .equalTo, ⟨.number, "1", []⟩⟩]
        or := [⟨⟨"d", none⟩, .equalTo, ⟨.number, "2", []⟩⟩,
          ⟨⟨"e", none⟩, .negation .equalTo, word "null"⟩] }] := by
  let equals : Token := ⟨.operator, "=", []⟩
  let first : FilterPhrase := ⟨word "a.b.c", equals, none, ⟨.number, "1", []⟩, .equalTo,
    by decide, by decide, by decide, by decide, by decide⟩
  let second : FilterPhrase := ⟨word "d", equals, none, ⟨.number, "2", []⟩, .equalTo,
    by decide, by decide, by decide, by decide, by decide⟩
  let third : FilterPhrase := ⟨word "e", ⟨.operator, "is", []⟩, some ⟨.operator, "not", []⟩,
    word "null", .equalTo, by decide, by decide, by decide, by decide, by decide⟩
  let condition : Condition := ⟨word "where",
    .link first ⟨word "and", .and, word_isWord _⟩
      (.link second ⟨word "or", .or, word_isWord _⟩ (.last third)), word_isWord _⟩
  let phrase : QueryPhrase := ⟨word "select", [word "id"], word "from", word "c", none, condition,
    word_isWord _, by decide, by decide, word_isWord _, by decide, by decide⟩
  have lexed : tokenise "select id from c where a.b.c = 1 and d = 2 or e is not null" =
      .ok phrase.tokens := by rfl
  obtain ⟨query, -, parsed, groups, -⟩ :=
    parse_files_every_filter.1 phrase condition phrase.tokens rfl rfl
  exact ⟨query, parsed _ lexed, groups.trans (by decide)⟩

end DocQuery.Grammar
