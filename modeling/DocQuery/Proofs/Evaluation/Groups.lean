import DocQuery.Evaluation.Matching

/-!
Verdicts of filter groups. Both lists of a group are searched in the same way, the `and` list for a
filter that does not accept the record and the `or` list for one that does, and a filter behind the
end of a search is never asked. So a fault comes out exactly if its filter is met
(`accepts_eq_error_iff`), and where every filter has a verdict the verdicts alone count, neither
their order nor their number (`accepts_verdicts`).
-/

namespace DocQuery.FilterGroup

variable {record : Json} {table : Table}

section Searches

/-- Asks one filter after the other as long as they say the same. -/
def search (record : Json) (table : Table) (goesOn : Bool) : List Filter → Except EvalFault Bool
  | [] => .ok goesOn
  | filter :: rest =>
      match filter.accepts record table with
      | .error fault => .error fault
      | .ok verdict => if verdict = goesOn then search record table goesOn rest else .ok verdict

/-- The search comes to the filter, since all those in front of it say the same. -/
def Reaches (record : Json) (table : Table) (goesOn : Bool) (filters : List Filter)
    (filter : Filter) : Prop :=
  ∃ before behind, filters = before ++ filter :: behind ∧
    ∀ earlier ∈ before, earlier.accepts record table = .ok goesOn

variable {goesOn : Bool} {filters : List Filter} {filter : Filter}

theorem allAccept_eq_search (filters : List Filter) :
    allAccept record table filters = search record table true filters := by
  induction filters with
  | nil => rfl
  | cons filter rest ih =>
      cases judged : filter.accepts record table with
      | error fault => simp [allAccept, search, judged]
      | ok verdict => cases verdict <;> simp [allAccept, search, judged, ih]

theorem anyAccepts_eq_search (filters : List Filter) :
    anyAccepts record table filters = search record table false filters := by
  induction filters with
  | nil => rfl
  | cons filter rest ih =>
      cases judged : filter.accepts record table with
      | error fault => simp [anyAccepts, search, judged]
      | ok verdict => cases verdict <;> simp [anyAccepts, search, judged, ih]

theorem search_goesOn (judged : filter.accepts record table = .ok goesOn) (rest : List Filter) :
    search record table goesOn (filter :: rest) = search record table goesOn rest := by
  simp [search, judged]

theorem search_stops (differs : filter.accepts record table ≠ .ok goesOn) (rest : List Filter) :
    search record table goesOn (filter :: rest) = filter.accepts record table := by
  cases judged : filter.accepts record table with
  | error fault => simp [search, judged]
  | ok verdict =>
      have other : verdict ≠ goesOn := fun same => differs (by rw [judged, same])
      simp [search, judged, other]

theorem reaches_cons (first : Filter) (rest : List Filter) :
    Reaches record table goesOn (first :: rest) filter ↔
      filter = first ∨
        first.accepts record table = .ok goesOn ∧ Reaches record table goesOn rest filter := by
  constructor
  · rintro ⟨_ | ⟨head, before⟩, behind, split, same⟩
    · cases split
      exact .inl rfl
    · cases split
      rw [List.forall_mem_cons] at same
      exact .inr ⟨same.1, before, behind, rfl, same.2⟩
  · rintro (rfl | ⟨judged, before, behind, rfl, same⟩)
    · exact ⟨[], rest, rfl, by simp⟩
    · exact ⟨first :: before, behind, rfl, List.forall_mem_cons.mpr ⟨judged, same⟩⟩

/-- A search has one result that is no answer of a filter: all of them said the same. -/
theorem search_eq_iff {answer : Except EvalFault Bool} (other : answer ≠ .ok goesOn) :
    search record table goesOn filters = answer ↔
      ∃ filter, Reaches record table goesOn filters filter ∧
        filter.accepts record table = answer := by
  induction filters with
  | nil => simp [search, Reaches, other.symm]
  | cons first rest ih =>
      simp only [reaches_cons]
      by_cases judged : first.accepts record table = .ok goesOn
      · rw [search_goesOn judged, ih]
        constructor
        · rintro ⟨filter, reached, answers⟩
          exact ⟨filter, .inr ⟨judged, reached⟩, answers⟩
        · rintro ⟨filter, rfl | ⟨-, reached⟩, answers⟩
          · exact absurd (answers.symm.trans judged) other
          · exact ⟨filter, reached, answers⟩
      · rw [search_stops judged]
        constructor
        · intro answers
          exact ⟨first, .inl rfl, answers⟩
        · rintro ⟨filter, rfl | ⟨same, -⟩, answers⟩
          · exact answers
          · exact absurd same judged

theorem search_eq_goesOn_iff :
    search record table goesOn filters = .ok goesOn ↔
      ∀ filter ∈ filters, filter.accepts record table = .ok goesOn := by
  induction filters with
  | nil => simp [search]
  | cons first rest ih =>
      rw [List.forall_mem_cons]
      by_cases judged : first.accepts record table = .ok goesOn
      · rw [search_goesOn judged, ih]
        simp [judged]
      · rw [search_stops judged]
        simp [judged]

end Searches

section Groups

/-- The search of the `or` list takes place: no `and` list has already accepted the record. -/
def AsksOr (group : FilterGroup) (record : Json) (table : Table) : Prop :=
  group.and = [] ∨ ∃ filter, Reaches record table true group.and filter ∧
    filter.accepts record table = .ok false

def Meets (group : FilterGroup) (record : Json) (table : Table) (filter : Filter) : Prop :=
  Reaches record table true group.and filter ∨
    AsksOr group record table ∧ Reaches record table false group.or filter

/-- What the `and` list says. An empty one accepts nothing. -/
def conjunction (record : Json) (table : Table) : List Filter → Except EvalFault Bool
  | [] => .ok false
  | filters => search record table true filters

theorem conjunction_eq_search {filters : List Filter} (nonempty : filters ≠ []) :
    conjunction record table filters = search record table true filters := by
  cases filters with
  | nil => exact absurd rfl nonempty
  | cons => rfl

theorem conjunction_eq_false_iff (group : FilterGroup) :
    conjunction record table group.and = .ok false ↔ AsksOr group record table := by
  unfold AsksOr
  by_cases empty : group.and = []
  · simp [empty, conjunction]
  · rw [conjunction_eq_search empty, search_eq_iff (by simp)]
    simp [empty]

theorem conjunction_eq_true_iff (filters : List Filter) :
    conjunction record table filters = .ok true ↔
      filters ≠ [] ∧ ∀ filter ∈ filters, filter.accepts record table = .ok true := by
  by_cases empty : filters = []
  · simp [empty, conjunction]
  · rw [conjunction_eq_search empty, search_eq_goesOn_iff]
    simp [empty]

theorem conjunction_eq_error_iff (filters : List Filter) (fault : EvalFault) :
    conjunction record table filters = .error fault ↔
      ∃ filter, Reaches record table true filters filter ∧
        filter.accepts record table = .error fault := by
  by_cases empty : filters = []
  · simp [empty, conjunction, Reaches]
  · rw [conjunction_eq_search empty, search_eq_iff (by simp)]

theorem accepts_nonempty {group : FilterGroup} (nonempty : ¬ (group.and = [] ∧ group.or = [])) :
    group.accepts record table =
      match conjunction record table group.and with
      | .ok false => search record table false group.or
      | decided => decided := by
  obtain ⟨and, or⟩ := group
  cases and with
  | nil =>
      cases or with
      | nil => exact absurd ⟨rfl, rfl⟩ nonempty
      | cons => simp only [accepts, anyAccepts_eq_search, conjunction]
  | cons first others =>
      have searched : allAccept record table (first :: others) =
          search record table true (first :: others) := allAccept_eq_search (first :: others)
      cases or with
      | nil =>
          simp only [accepts, searched, conjunction]
          cases search record table true (first :: others) with
          | error fault => rfl
          | ok verdict => cases verdict <;> rfl
      | cons =>
          rw [conjunction_eq_search (List.cons_ne_nil first others), ← searched,
            ← anyAccepts_eq_search]
          rfl

/-- No answer but `false` leaves it open which of the two lists it comes from. -/
theorem accepts_eq_iff {group : FilterGroup} (nonempty : ¬ (group.and = [] ∧ group.or = []))
    {answer : Except EvalFault Bool} (other : answer ≠ .ok false) :
    group.accepts record table = answer ↔
      conjunction record table group.and = answer ∨
        conjunction record table group.and = .ok false ∧
          search record table false group.or = answer := by
  rw [accepts_nonempty nonempty]
  split
  next decided => simp [decided, other.symm]
  next undecided =>
    have undecided : conjunction record table group.and ≠ .ok false := undecided
    simp [undecided]

theorem accepts_empty {group : FilterGroup} (empty : group.and = [] ∧ group.or = []) :
    group.accepts record table = .ok true := by
  simp [accepts, empty]

theorem not_meets_empty {group : FilterGroup} (empty : group.and = [] ∧ group.or = [])
    (filter : Filter) : ¬ Meets group record table filter := by
  simp [Meets, Reaches, empty]

/-- The fault of a group is that of a filter which is met. -/
theorem accepts_eq_error_iff (group : FilterGroup) (fault : EvalFault) :
    group.accepts record table = .error fault ↔
      ∃ filter, Meets group record table filter ∧ filter.accepts record table = .error fault := by
  by_cases empty : group.and = [] ∧ group.or = []
  · simp [accepts_empty empty, not_meets_empty empty]
  · rw [accepts_eq_iff empty (by simp), conjunction_eq_error_iff, conjunction_eq_false_iff,
      search_eq_iff (by simp)]
    simp only [Meets, or_and_right, exists_or, and_assoc, exists_and_left]

theorem accepts_eq_true_iff (group : FilterGroup) :
    group.accepts record table = .ok true ↔
      group.and = [] ∧ group.or = [] ∨
      (group.and ≠ [] ∧ ∀ filter ∈ group.and, filter.accepts record table = .ok true) ∨
      AsksOr group record table ∧ ∃ filter, Reaches record table false group.or filter ∧
        filter.accepts record table = .ok true := by
  by_cases empty : group.and = [] ∧ group.or = []
  · simp [accepts_empty empty, empty]
  · rw [accepts_eq_iff empty (by simp), conjunction_eq_true_iff, conjunction_eq_false_iff,
      search_eq_iff (by simp)]
    simp only [empty, false_or]

end Groups

section Verdicts

def holds (record : Json) (table : Table) (filter : Filter) : Bool :=
  (filter.accepts record table).toOption == some true

/-- An empty group says yes. Otherwise all filters of the `and` list do, and there are some, or one
of the `or` list does. -/
def formula (group : FilterGroup) (verdict : Filter → Bool) : Bool :=
  group.and.isEmpty && group.or.isEmpty || !group.and.isEmpty && group.and.all verdict ||
    group.or.any verdict

/-- The same filters in each of the lists, in any order and number. -/
def SameFilters (group other : FilterGroup) : Prop :=
  (∀ filter, filter ∈ group.and ↔ filter ∈ other.and) ∧
    ∀ filter, filter ∈ group.or ↔ filter ∈ other.or

theorem accepts_eq_holds {filter : Filter}
    (judged : ∃ verdict, filter.accepts record table = .ok verdict) :
    filter.accepts record table = .ok (holds record table filter) := by
  obtain ⟨verdict, judged⟩ := judged
  cases verdict <;> simp [holds, judged, Except.toOption]

theorem search_verdicts {filters : List Filter} {verdict : Filter → Bool}
    (judged : ∀ filter ∈ filters, filter.accepts record table = .ok (verdict filter)) :
    search record table true filters = .ok (filters.all verdict) ∧
      search record table false filters = .ok (filters.any verdict) := by
  induction filters with
  | nil => exact ⟨rfl, rfl⟩
  | cons filter rest ih =>
      rw [List.forall_mem_cons] at judged
      obtain ⟨all, any⟩ := ih judged.2
      cases told : verdict filter <;> simp [search, judged.1, told, all, any]

theorem accepts_of_verdicts {group : FilterGroup} {verdict : Filter → Bool}
    (judged : ∀ filter ∈ group.and ++ group.or,
      filter.accepts record table = .ok (verdict filter)) :
    group.accepts record table = .ok (group.formula verdict) := by
  rw [List.forall_mem_append] at judged
  by_cases empty : group.and = [] ∧ group.or = []
  · simp [accepts_empty empty, formula, empty]
  · rw [accepts_nonempty empty, (search_verdicts judged.2).2]
    by_cases noAnd : group.and = []
    · have someOr : group.or ≠ [] := fun noOr => empty ⟨noAnd, noOr⟩
      simp [noAnd, conjunction, formula, someOr]
    · rw [conjunction_eq_search noAnd, (search_verdicts judged.1).1]
      cases all : group.and.all verdict <;> simp [formula, noAnd, all]

theorem isEmpty_congr {filters others : List Filter}
    (same : ∀ filter, filter ∈ filters ↔ filter ∈ others) : filters.isEmpty = others.isEmpty := by
  rw [Bool.eq_iff_iff, List.isEmpty_iff, List.isEmpty_iff, List.eq_nil_iff_forall_not_mem,
    List.eq_nil_iff_forall_not_mem]
  simp [same]

theorem formula_congr {group other : FilterGroup} (same : SameFilters group other)
    (verdict : Filter → Bool) : group.formula verdict = other.formula verdict := by
  have all : group.and.all verdict = other.and.all verdict := by
    rw [Bool.eq_iff_iff]
    simp [same.1]
  have any : group.or.any verdict = other.or.any verdict := by
    rw [Bool.eq_iff_iff]
    simp [same.2]
  simp only [formula, isEmpty_congr same.1, isEmpty_congr same.2, all, any]

end Verdicts

/-- A group computes its formula where every filter has a verdict. Where one has not, the group
fails with the fault of a filter that is met, and a fault that is not met changes nothing. -/
theorem accepts_verdicts (group : FilterGroup) (record : Json) (table : Table) :
    ((∀ filter ∈ group.and ++ group.or, ∃ verdict, filter.accepts record table = .ok verdict) →
      group.accepts record table = .ok (group.formula (holds record table)) ∧
        ∀ other, SameFilters group other →
          other.accepts record table = group.accepts record table) ∧
    (∀ fault, group.accepts record table = .error fault ↔
      ∃ filter, Meets group record table filter ∧ filter.accepts record table = .error fault) ∧
    (group.accepts record table = .ok true ↔
      group.and = [] ∧ group.or = [] ∨
      (group.and ≠ [] ∧ ∀ filter ∈ group.and, filter.accepts record table = .ok true) ∨
      AsksOr group record table ∧ ∃ filter, Reaches record table false group.or filter ∧
        filter.accepts record table = .ok true) := by
  refine ⟨fun judged => ?_, accepts_eq_error_iff group, accepts_eq_true_iff group⟩
  have verdicts := accepts_of_verdicts fun filter member => accepts_eq_holds (judged filter member)
  refine ⟨verdicts, fun other same => ?_⟩
  have judgedOther : ∀ filter ∈ other.and ++ other.or,
      filter.accepts record table = .ok (holds record table filter) := by
    intro filter member
    apply accepts_eq_holds (judged filter _)
    simpa [same.1, same.2] using member
  rw [verdicts, accepts_of_verdicts judgedOther, formula_congr same]

def ada : Json := .object [("name", .text "Ada")]

def isNamed (name : String) : Filter := ⟨⟨"name", none⟩, .equalTo, ⟨.text, name, []⟩⟩

def isAmongText : Filter := ⟨⟨"name", none⟩, .isIn, ⟨.text, "Ada", []⟩⟩

theorem fault_hidden_or_met :
    accepts ⟨[isNamed "Bo"], [isNamed "Cy", isNamed "Ada"]⟩ ada ⟨"people", none⟩ = .ok true ∧
      accepts ⟨[isNamed "Bo"], [isNamed "Ada", isNamed "Cy", isNamed "Ada"]⟩ ada ⟨"people", none⟩ =
        .ok true ∧
      accepts ⟨[isNamed "Bo", isAmongText], [isNamed "Ada", isAmongText]⟩ ada ⟨"people", none⟩ =
        .ok true ∧
      accepts ⟨[isNamed "Ada", isAmongText], [isNamed "Ada"]⟩ ada ⟨"people", none⟩ =
        .error (.expectedArray (.text "Ada")) := by
  have accepted : (isNamed "Ada").accepts ada ⟨"people", none⟩ = .ok true := rfl
  have stopped : (isNamed "Bo").accepts ada ⟨"people", none⟩ = .ok false := rfl
  have judged : ∀ filter ∈ [isNamed "Bo"] ++ [isNamed "Cy", isNamed "Ada"],
      ∃ verdict, filter.accepts ada ⟨"people", none⟩ = .ok verdict := by
    simp only [List.cons_append, List.nil_append, List.forall_mem_cons, List.not_mem_nil,
      false_implies, implies_true, and_true]
    exact ⟨⟨_, stopped⟩, ⟨false, rfl⟩, ⟨_, accepted⟩⟩
  have computed := (accepts_verdicts ⟨[isNamed "Bo"], [isNamed "Cy", isNamed "Ada"]⟩ ada
    ⟨"people", none⟩).1 judged
  have same : SameFilters ⟨[isNamed "Bo"], [isNamed "Cy", isNamed "Ada"]⟩
      ⟨[isNamed "Bo"], [isNamed "Ada", isNamed "Cy", isNamed "Ada"]⟩ :=
    ⟨fun filter => Iff.rfl, fun filter => by simpa using Or.inr⟩
  refine ⟨computed.1.trans rfl, (computed.2 _ same).trans (computed.1.trans rfl), ?_, ?_⟩
  · refine (accepts_verdicts _ ada ⟨"people", none⟩).2.2.mpr
      (.inr (.inr ⟨.inr ⟨_, ?_, stopped⟩, ?_⟩))
    · exact ⟨[], _, rfl, by simp⟩
    · exact ⟨_, ⟨[], _, rfl, by simp⟩, accepted⟩
  · refine ((accepts_verdicts _ ada ⟨"people", none⟩).2.1 _).mpr ⟨isAmongText, .inl ?_, rfl⟩
    exact ⟨[isNamed "Ada"], [], rfl, by simpa using accepted⟩

end DocQuery.FilterGroup
