import DocQuery.Proofs.Query.Drafts

/-!
What a refused token leaves behind. A draft that refuses a token is the draft it was before, with
one exception: a connective of the where clause takes the pending filter off before it builds it,
and if the filter cannot be built it is gone (`feed_refused`). So a run that goes on behind its
refusals, and abandons no filter, has read the tokens that were accepted and nothing else
(`feedAll_accepted`).
-/

namespace DocQuery.Grammar

open QueryDraft

/-- The operator or the value of the filter is missing, or the operator is not a known one. -/
def Unfinished (pending : FilterDraft) : Prop :=
  pending.operator = none ∨ pending.value = none ∨
    ∃ name ∈ pending.operator, Operator.ofName? name = none

/-- The token is a connective of the where clause, and the filter it ends is unfinished. -/
def Abandons (draft : QueryDraft) (token : Token) : Prop :=
  draft.clause = some .where ∧ (IsWord token "and" ∨ IsWord token "or") ∧
    ∃ pending ∈ draft.pending, Unfinished pending

section Building

variable {pending : FilterDraft}

theorem Unfinished.build (unfinished : Unfinished pending) :
    ∃ fault, pending.build = .error fault := by
  obtain ⟨column, _ | name, _ | value, negated⟩ := pending
  · exact ⟨_, rfl⟩
  · exact ⟨_, rfl⟩
  · exact ⟨_, rfl⟩
  · have unknown : Operator.ofName? name = none := by simpa [Unfinished] using unfinished
    exact ⟨.unknownOperator name, by simp [FilterDraft.build, unknown]⟩

theorem unfinished_of_build {fault : ParseFault} (incomplete : pending.build = .error fault) :
    Unfinished pending := by
  obtain ⟨column, _ | name, _ | value, negated⟩ := pending
  · exact .inl rfl
  · exact .inl rfl
  · exact .inr (.inl rfl)
  · refine .inr (.inr ⟨name, rfl, ?_⟩)
    cases known : Operator.ofName? name with
    | none => rfl
    | some meaning => simp [FilterDraft.build, known] at incomplete

end Building

section Refusing

variable {draft : QueryDraft} {token : Token}

theorem Effect.keeps {fed : Fed} {fault : ParseFault} (effect : Effect draft token fed)
    (refused : fed.fault = some fault) (kept : ¬ Abandons draft token) : fed.draft = draft := by
  -- Every other effect that is refused leaves the draft alone, and `drops` is an abandoned filter.
  cases effect with
  | refused => rfl
  | drops connective filtering word held incomplete =>
      have joins : IsWord token "and" ∨ IsWord token "or" := by
        cases connective with
        | and => exact .inl word
        | or => exact .inr word
      exact absurd ⟨filtering, joins, _, held, unfinished_of_build incomplete⟩ kept
  | skipped | opensSelect | opensFrom | opensWhere | selects | names | aliases | begins | compares
  | values | files => cases refused

theorem feed_connective (filtering : draft.clause = some .where) {connective : Connective}
    (word : IsWord token connective.word) : draft.feed token = draft.closeFilter connective := by
  obtain ⟨kind, content⟩ := word
  cases connective <;>
    simp [feed, readFilter, Token.isComment, kind, content, filtering, Connective.word]

theorem feed_abandons (abandons : Abandons draft token) :
    ∃ fault, draft.feed token = ⟨{ draft with pending := none }, some fault⟩ := by
  obtain ⟨filtering, joins, pending, held, unfinished⟩ := abandons
  obtain ⟨connective, word⟩ : ∃ connective : Connective, IsWord token connective.word := by
    rcases joins with word | word
    · exact ⟨.and, word⟩
    · exact ⟨.or, word⟩
  obtain ⟨fault, incomplete⟩ := unfinished.build
  refine ⟨fault, ?_⟩
  rw [feed_connective filtering word, closeFilter, Option.mem_def.mp held]
  simp [incomplete, refuse]

/-- A refused token leaves the draft as it was, but for a connective that ends an unfinished filter.
-/
theorem feed_refused (draft : QueryDraft) (token : Token) :
    (Abandons draft token →
      ∃ fault, draft.feed token = ⟨{ draft with pending := none }, some fault⟩) ∧
    (¬ Abandons draft token → ∀ fault, (draft.feed token).fault = some fault →
      (draft.feed token).draft = draft) :=
  ⟨feed_abandons, fun kept _ refused => (feed_effect draft token).keeps refused kept⟩

def halfRead : QueryDraft :=
  feedOn {} [word "select", word "id", word "from", word "t", word "where", word "a",
    ⟨.operator, "=", []⟩, ⟨.number, "1", []⟩, word "or", word "b", ⟨.operator, "is", []⟩]

theorem halfRead_refuses :
    (∃ fault, halfRead.feed (word "and") = ⟨{ halfRead with pending := none }, some fault⟩) ∧
      (halfRead.feed (word "where")).draft = halfRead := by
  have abandons : Abandons halfRead (word "and") :=
    ⟨rfl, .inl (word_isWord "and"), _, rfl, .inr (.inl rfl)⟩
  have keeps : ¬ Abandons halfRead (word "where") := by
    rintro ⟨-, ⟨-, joins⟩ | ⟨-, joins⟩, -⟩
    · exact absurd joins (by decide)
    · exact absurd joins (by decide)
  exact ⟨(feed_refused halfRead (word "and")).1 abandons,
    (feed_refused halfRead (word "where")).2 keeps .repeatedWhere rfl⟩

end Refusing

section Runs

def accepted (draft : QueryDraft) : List Token → List Token
  | [] => []
  | token :: rest =>
      match draft.feed token with
      | ⟨next, some _⟩ => accepted next rest
      | ⟨next, none⟩ => token :: accepted next rest

def Steady (draft : QueryDraft) : List Token → Prop
  | [] => True
  | token :: rest => ¬ Abandons draft token ∧ Steady (draft.feed token).draft rest

/-- Unless a filter is abandoned, a run that ignores refusals is the run of the tokens that are not
refused. -/
theorem feedAll_accepted {draft : QueryDraft} {tokens : List Token} (steady : Steady draft tokens) :
    draft.feedAll (accepted draft tokens) = .ok (feedOn draft tokens) := by
  induction tokens generalizing draft with
  | nil => rfl
  | cons token rest ih =>
      obtain ⟨kept, steadyRest⟩ := steady
      have later := ih steadyRest
      have run : feedOn draft (token :: rest) = feedOn (draft.feed token).draft rest := rfl
      cases fed : draft.feed token with
      | mk next fault =>
        simp only [fed] at later run
        cases fault with
        | some fault =>
            -- A refused token that abandons nothing leaves no trace.
            have same : next = draft := by
              simpa [fed] using (feed_effect draft token).keeps (congrArg Fed.fault fed) kept
            rw [run, accepted, fed, same]
            rw [same] at later
            exact later
        | none =>
            rw [run, accepted, fed]
            simp only [feedAll, fed]
            exact later

end Runs

end DocQuery.Grammar
