import DocQuery.Query.FilterDraft

/-!
Drafts of filters under any run of calls, refused ones included. A value is only taken in behind an
operator, so a draft that has its value refuses whatever comes, with one exception: the `not` behind
an `is` does not ask whether the value is there (`answer_valued`). A run behind the value leaves the
draft as it was or negates it (`valued_frozen_iff`).
-/

namespace DocQuery.FilterDraft

section Calls

inductive Call where
  | operator (name : String)
  | value (token : Token)
  deriving DecidableEq

def answer (draft : FilterDraft) : Call → Except ParseFault FilterDraft
  | .operator name => draft.setOperator name
  | .value token => draft.setValue token

def after (draft : FilterDraft) (call : Call) : FilterDraft :=
  match draft.answer call with
  | .ok next => next
  | .error _ => draft

def afterAll (draft : FilterDraft) (calls : List Call) : FilterDraft := calls.foldl after draft

/-- The call is out of place, and nothing comes of it. -/
def Refuses (draft : FilterDraft) (call : Call) : Prop :=
  (∃ fault, draft.answer call = .error fault ∧ fault.kind = .misplaced) ∧ draft.after call = draft

def TakesNot (draft : FilterDraft) : Prop := draft.operator = some "is" ∧ draft.negated = false
  deriving Decidable

def negate (draft : FilterDraft) : FilterDraft := { draft with negated := true }

end Calls

section Steps

variable {draft : FilterDraft}

theorem setOperator_keeps_value {name : String} {next : FilterDraft}
    (taken : draft.setOperator name = .ok next) :
    next.operator.isSome ∧ next.value = draft.value := by
  unfold setOperator at taken
  split at taken
  next =>
    cases taken
    exact ⟨rfl, rfl⟩
  next held isHeld =>
    split at taken
    · cases taken
      exact ⟨by simp [isHeld], rfl⟩
    · cases taken

theorem setValue_behind_operator {token : Token} {next : FilterDraft}
    (taken : draft.setValue token = .ok next) : next.operator.isSome := by
  unfold setValue at taken
  split at taken
  · cases taken
  · cases taken
  next isHeld _ =>
    cases taken
    simp [isHeld]

def Ordered (draft : FilterDraft) : Prop := draft.value.isSome → draft.operator.isSome

theorem Ordered.after (ordered : Ordered draft) (call : Call) : Ordered (draft.after call) := by
  unfold FilterDraft.after
  split
  next next taken =>
    cases call with
    | operator name => exact fun _ => (setOperator_keeps_value taken).1
    | value token => exact fun _ => setValue_behind_operator taken
  next => exact ordered

theorem Ordered.afterAll (ordered : Ordered draft) (calls : List Call) :
    Ordered (draft.afterAll calls) := by
  induction calls generalizing draft with
  | nil => exact ordered
  | cons call rest ih => exact ih (ordered.after call)

def Valued (draft : FilterDraft) : Prop := draft.operator.isSome ∧ draft.value.isSome

theorem refuses_of_fault {call : Call} {fault : ParseFault}
    (refused : draft.answer call = .error fault) (misplaced : fault.kind = .misplaced) :
    Refuses draft call := by
  refine ⟨⟨fault, refused, misplaced⟩, ?_⟩
  simp [FilterDraft.after, refused]

/-- With its value set a draft refuses everything but the one `not` that is still open to it. -/
theorem answer_valued (valued : Valued draft) (call : Call) :
    (TakesNot draft ∧ call = .operator "not") ∧ draft.answer call = .ok draft.negate ∨
      ¬ (TakesNot draft ∧ call = .operator "not") ∧ Refuses draft call := by
  obtain ⟨held, isHeld⟩ := Option.isSome_iff_exists.mp valued.1
  obtain ⟨value, isValue⟩ := Option.isSome_iff_exists.mp valued.2
  cases call with
  | value token =>
      have refused : draft.answer (.value token) =
          .error (.valueAlreadySet draft.column value.content) := by
        simp [answer, setValue, isHeld, isValue]
      exact .inr ⟨by simp, refuses_of_fault refused rfl⟩
  | operator name =>
      by_cases negates : held = "is" ∧ name = "not" ∧ draft.negated = false
      · refine .inl ⟨⟨⟨?_, negates.2.2⟩, by rw [negates.2.1]⟩, ?_⟩
        · rw [isHeld, negates.1]
        · simp [answer, setOperator, isHeld, negates, negate]
      · have refused : draft.answer (.operator name) =
            .error (.operatorAlreadySet draft.column held name) := by
          simp [answer, setOperator, isHeld, negates]
        refine .inr ⟨?_, refuses_of_fault refused rfl⟩
        rintro ⟨⟨base, fresh⟩, same⟩
        have word : held = "is" := by simpa [isHeld] using base
        exact negates ⟨word, by simpa using same, fresh⟩

theorem refuses_iff (valued : Valued draft) (call : Call) :
    Refuses draft call ↔ ¬ (TakesNot draft ∧ call = .operator "not") := by
  rcases answer_valued valued call with ⟨negates, taken⟩ | ⟨other, refuses⟩
  · refine iff_of_false ?_ fun other => other negates
    rintro ⟨⟨fault, refused, -⟩, -⟩
    simp [taken] at refused
  · exact iff_of_true refuses other

end Steps

section Runs

variable {draft : FilterDraft}

theorem Valued.negate (valued : Valued draft) : Valued draft.negate := valued

theorem not_takesNot_negate (draft : FilterDraft) : ¬ TakesNot draft.negate := by
  simp [TakesNot, FilterDraft.negate]

/-- Behind the value only a `not` that is still taken makes a difference, and only once. -/
theorem afterAll_valued (valued : Valued draft) (later : List Call) :
    draft.afterAll later =
      if TakesNot draft ∧ .operator "not" ∈ later then draft.negate else draft := by
  -- Once the draft is negated there is no exception left, so only the first `not` counts.
  induction later generalizing draft with
  | nil => simp [afterAll]
  | cons call rest ih =>
      have run : draft.afterAll (call :: rest) = (draft.after call).afterAll rest := rfl
      rw [run]
      rcases answer_valued valued call with ⟨⟨takes, rfl⟩, taken⟩ | ⟨other, refuses⟩
      · have next : draft.after (.operator "not") = draft.negate := by
          simp [FilterDraft.after, taken]
        rw [next, ih valued.negate]
        simp [not_takesNot_negate, takes]
      · rw [refuses.2, ih valued]
        by_cases takes : TakesNot draft
        · have different : ¬ .operator "not" = call := fun same => other ⟨takes, same.symm⟩
          simp [takes, different]
        · simp [takes]

def oppositeFilter (filter : Filter) : Filter :=
  { filter with operator := .negation filter.operator }

theorem build_negate (valued : Valued draft) (takes : TakesNot draft) :
    draft.negate.build = draft.build.map oppositeFilter := by
  obtain ⟨column, operator, value, negated⟩ := draft
  obtain ⟨rfl, rfl⟩ := takes
  obtain ⟨token, rfl⟩ := Option.isSome_iff_exists.mp valued.2
  rfl

theorem build_afterAll (valued : Valued draft) (later : List Call) :
    (draft.afterAll later).build =
      if TakesNot draft ∧ .operator "not" ∈ later then draft.build.map oppositeFilter
      else draft.build := by
  rw [afterAll_valued valued]
  split
  next negates => exact build_negate valued negates.1
  next => rfl

end Runs

/-- A draft that has its value is frozen exactly if it cannot be negated any more. If it can, the
first `not` behind the value negates it and the filter that is built, and all else is refused. -/
theorem valued_frozen_iff (column : String) (calls : List Call)
    (valued : (afterAll { column } calls).value.isSome) :
    ((∀ call, Refuses (afterAll { column } calls) call) ↔
      ¬ TakesNot (afterAll { column } calls)) ∧
    (∀ call, Refuses (afterAll { column } calls) call ↔
      ¬ (TakesNot (afterAll { column } calls) ∧ call = .operator "not")) ∧
    ∀ later,
      afterAll { column } (calls ++ later) =
        (if TakesNot (afterAll { column } calls) ∧ .operator "not" ∈ later then
          (afterAll { column } calls).negate
        else afterAll { column } calls) ∧
      (afterAll { column } (calls ++ later)).build =
        if TakesNot (afterAll { column } calls) ∧ .operator "not" ∈ later then
          (afterAll { column } calls).build.map oppositeFilter
        else (afterAll { column } calls).build := by
  have ordered : Ordered { column } := by simp [Ordered]
  have complete : Valued (afterAll { column } calls) := ⟨ordered.afterAll calls valued, valued⟩
  refine ⟨⟨fun frozen takes => ?_, fun closed call => ?_⟩, refuses_iff complete, fun later => ?_⟩
  · exact (refuses_iff complete (.operator "not")).mp (frozen _) ⟨takes, rfl⟩
  · exact (refuses_iff complete call).mpr fun negates => closed negates.1
  · have run : afterAll { column } (calls ++ later) =
        (afterAll { column } calls).afterAll later := List.foldl_append
    rw [run]
    exact ⟨afterAll_valued complete later, build_afterAll complete later⟩

def compared (operator : String) : List Call :=
  [.value ⟨.number, "0", []⟩, .operator operator, .operator "=", .value ⟨.text, "foo", []⟩]

theorem compared_frozen :
    (afterAll { column := "c.name" } (compared "<")).value.isSome ∧
      (∀ call, Refuses (afterAll { column := "c.name" } (compared "<")) call) ∧
      (afterAll { column := "c.name" } (compared "is" ++ [.operator "in", .operator "not"])).build =
        .ok ⟨⟨"name", some "c"⟩, .negation .equalTo, ⟨.text, "foo", []⟩⟩ := by
  have frozen := valued_frozen_iff "c.name" (compared "<") rfl
  have negates := (valued_frozen_iff "c.name" (compared "is") rfl).2.2
    [.operator "in", .operator "not"]
  exact ⟨rfl, frozen.1.mpr (by decide), negates.2⟩

def equalsFoo : List Call := [.operator "is", .value ⟨.text, "foo", []⟩]

theorem negated_behind_value :
    (afterAll { column := "c.name" } equalsFoo).value.isSome ∧
      ¬ Refuses (afterAll { column := "c.name" } equalsFoo) (.operator "not") ∧
      (afterAll { column := "c.name" } equalsFoo).build =
        .ok ⟨⟨"name", some "c"⟩, .equalTo, ⟨.text, "foo", []⟩⟩ ∧
      (afterAll { column := "c.name" } (equalsFoo ++ [.operator "not"])).build =
        .ok ⟨⟨"name", some "c"⟩, .negation .equalTo, ⟨.text, "foo", []⟩⟩ := by
  -- Neither setter looks at the slot of the other, but for the value that asks for an operator.
  refine ⟨rfl, ?_, rfl, rfl⟩
  rintro ⟨⟨fault, refused, -⟩, -⟩
  cases refused

end DocQuery.FilterDraft
