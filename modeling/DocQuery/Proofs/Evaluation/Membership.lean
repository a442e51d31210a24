import Mathlib.Data.List.Forall2
import DocQuery.Proofs.Evaluation.Groups
import DocQuery.Proofs.Outcomes

/-!
Membership and equality. A column is among the values of an array exactly if it is equal to one of
them, so `in` can be written as a disjunction of equalities, and its negation as a conjunction of
inequalities (`membership_agrees`). A missing field is equal to nothing and so different from
everything, which is why the second part holds for it too.
-/

namespace DocQuery

section Literals

def Denote (tokens : List Token) (values : List Json) : Prop :=
  List.Forall₂ (fun token value => token.literal = .ok value) tokens values

theorem literals_denote {tokens : List Token}
    (denoting : ∀ token ∈ tokens, ∃ value, token.literal = .ok value) :
    ∃ values, Token.literals tokens = .ok values ∧ Denote tokens values := by
  induction tokens with
  | nil => exact ⟨[], by simp [Token.literals], .nil⟩
  | cons token rest ih =>
      rw [List.forall_mem_cons] at denoting
      obtain ⟨⟨value, denotes⟩, denoting⟩ := denoting
      obtain ⟨values, read, each⟩ := ih denoting
      exact ⟨value :: values, by simp [Token.literals, denotes, read, Except.map],
        .cons denotes each⟩

theorem literal_ofElements {tokens : List Token} {values : List Json}
    (read : Token.literals tokens = .ok values) :
    (Token.ofElements tokens).literal = .ok (.array values) := by
  simp [Token.ofElements, Token.literal, read, Except.map]

end Literals

section Filters

variable {column : ColumnRef} {table : Table} {record : Json}

theorem path_of_resolves (resolves : ∀ qualifier ∈ column.qualifier, table.answersTo qualifier) :
    column.path table = .ok column.name := by
  unfold ColumnRef.path
  split
  · rfl
  next qualifier isQualifier => simp [resolves qualifier isQualifier]

theorem accepts_eq_apply {operator : Operator} {token : Token} {value : Json}
    (resolves : ∀ qualifier ∈ column.qualifier, table.answersTo qualifier)
    (denotes : token.literal = .ok value) :
    Filter.accepts ⟨column, operator, token⟩ record table =
      operator.apply (record.lookup? column.name) value := by
  simp [Filter.accepts, denotes, path_of_resolves resolves]

def matchesToken (field : Option Json) (token : Token) : Bool :=
  field.any fun field => token.literal.toOption.any field.equals

theorem matchesToken_of_denotes {token : Token} {value : Json} (denotes : token.literal = .ok value)
    (field : Option Json) : matchesToken field token = field.any (·.equals value) := by
  simp [matchesToken, denotes, Except.toOption]

theorem any_matchesToken {tokens : List Token} {values : List Json} (denote : Denote tokens values)
    (field : Json) : tokens.any (matchesToken (some field)) = values.any field.equals := by
  induction denote with
  | nil => rfl
  | cons denotes _ ih => simp [matchesToken_of_denotes denotes, ih]

theorem matchesToken_none (token : Token) : matchesToken none token = false := rfl

theorem apply_isIn {tokens : List Token} {values : List Json} (denote : Denote tokens values)
    (field : Option Json) :
    Operator.apply field (.array values) .isIn = .ok (tokens.any (matchesToken field)) := by
  cases field with
  | none => simp [Operator.apply, matchesToken_none]
  | some field => simp [Operator.apply, any_matchesToken denote]

theorem any_matchesToken_iff {tokens : List Token} (field : Option Json) :
    tokens.any (matchesToken field) = true ↔
      ∃ held ∈ field, ∃ token ∈ tokens, ∃ value, token.literal = .ok value ∧
        held.equals value = true := by
  have denotes : ∀ token : Token, ∀ value,
      token.literal.toOption = some value ↔ token.literal = .ok value := by
    intro token value
    cases token.literal <;> simp [Except.toOption]
  cases field with
  | none => simp [matchesToken_none]
  | some held => simp [matchesToken, Option.any_eq_true, denotes]

end Filters

section Groups

variable {column : ColumnRef} {table : Table} {record : Json} {tokens : List Token}

theorem equalities_accept (resolves : ∀ qualifier ∈ column.qualifier, table.answersTo qualifier)
    (nonempty : tokens ≠ []) (denoting : ∀ token ∈ tokens, ∃ value, token.literal = .ok value) :
    FilterGroup.accepts { or := tokens.map fun token => ⟨column, .equalTo, token⟩ } record table =
      .ok (tokens.any (matchesToken (record.lookup? column.name))) := by
  have judged : ∀ filter ∈ [] ++ tokens.map fun token => Filter.mk column .equalTo token,
      filter.accepts record table =
        .ok (matchesToken (record.lookup? column.name) filter.value) := by
    simp only [List.nil_append, List.forall_mem_map]
    intro token member
    obtain ⟨value, denotes⟩ := denoting token member
    rw [accepts_eq_apply resolves denotes, matchesToken_of_denotes denotes]
    rfl
  rw [FilterGroup.accepts_of_verdicts judged]
  simp [FilterGroup.formula, nonempty, Function.comp_def]

theorem inequalities_accept (resolves : ∀ qualifier ∈ column.qualifier, table.answersTo qualifier)
    (nonempty : tokens ≠ []) (denoting : ∀ token ∈ tokens, ∃ value, token.literal = .ok value) :
    FilterGroup.accepts { and := tokens.map fun token => ⟨column, .negation .equalTo, token⟩ }
        record table =
      .ok (!tokens.any (matchesToken (record.lookup? column.name))) := by
  have someToken : tokens.isEmpty = false := by simpa using nonempty
  have judged : ∀ filter ∈
      (tokens.map fun token => Filter.mk column (.negation .equalTo) token) ++ [],
      filter.accepts record table =
        .ok (!matchesToken (record.lookup? column.name) filter.value) := by
    simp only [List.append_nil, List.forall_mem_map]
    intro token member
    obtain ⟨value, denotes⟩ := denoting token member
    rw [accepts_eq_apply resolves denotes, matchesToken_of_denotes denotes]
    rfl
  rw [FilterGroup.accepts_of_verdicts judged]
  simp [FilterGroup.formula, someToken, Function.comp_def, List.all_eq_not_any_not]

end Groups

/-- A filter with `in`, the disjunction of the equalities with its values and the conjunction of the
inequalities never fail on values that can be read: the first two agree and the third is their
opposite. -/
theorem membership_agrees (column : ColumnRef) (table : Table) (record : Json)
    (tokens : List Token)
    (resolves : ∀ qualifier ∈ column.qualifier, table.answersTo qualifier)
    (nonempty : tokens ≠ []) (denoting : ∀ token ∈ tokens, ∃ value, token.literal = .ok value) :
    ∃ found : Bool,
      Filter.accepts ⟨column, .isIn, .ofElements tokens⟩ record table = .ok found ∧
      FilterGroup.accepts { or := tokens.map fun token => ⟨column, .equalTo, token⟩ } record table =
        .ok found ∧
      FilterGroup.accepts { and := tokens.map fun token => ⟨column, .negation .equalTo, token⟩ }
        record table = .ok (!found) ∧
      (found = true ↔ ∃ field ∈ record.lookup? column.name, ∃ token ∈ tokens, ∃ value,
        token.literal = .ok value ∧ field.equals value = true) := by
  obtain ⟨values, read, denote⟩ := literals_denote denoting
  refine ⟨tokens.any (matchesToken (record.lookup? column.name)), ?_,
    equalities_accept resolves nonempty denoting, inequalities_accept resolves nonempty denoting,
    any_matchesToken_iff _⟩
  rw [accepts_eq_apply resolves (literal_ofElements read), apply_isIn denote]

def listed : Json := .object [("tags", .array [.text "a", .null])]

def candidates : List Token :=
  [⟨.text, "a", []⟩, .ofElements [⟨.text, "a", []⟩, ⟨.query, "null", []⟩], ⟨.query, "true", []⟩]

theorem tags_among_candidates :
    (Table.answersTo ⟨"posts", some "p"⟩ "p" = true ∧ candidates ≠ [] ∧
      ∀ token ∈ candidates, ∃ value, token.literal = .ok value) ∧
    Filter.accepts ⟨⟨"tags", some "p"⟩, .isIn, .ofElements candidates⟩ listed ⟨"posts", some "p"⟩ =
      .ok true ∧
    FilterGroup.accepts
        { and := candidates.map fun token => ⟨⟨"tags", some "p"⟩, .negation .equalTo, token⟩ }
        listed ⟨"posts", some "p"⟩ = .ok false := by
  have resolves : ∀ qualifier ∈ some "p", Table.answersTo ⟨"posts", some "p"⟩ qualifier = true := by
    decide
  have denoting : ∀ token ∈ candidates, ∃ value, token.literal = .ok value := by
    simp only [candidates, List.forall_mem_cons, List.not_mem_nil, false_implies, implies_true,
      and_true]
    exact ⟨⟨_, rfl⟩, ⟨_, rfl⟩, ⟨_, rfl⟩⟩
  obtain ⟨found, among, -, differs, isFound⟩ := membership_agrees ⟨"tags", some "p"⟩
    ⟨"posts", some "p"⟩ listed candidates resolves (by decide) denoting
  have equal : found = true :=
    isFound.mpr ⟨_, rfl, candidates[1], by decide, .array [.text "a", .null], rfl, by decide⟩
  rw [equal] at among differs
  exact ⟨⟨by decide, by decide, denoting⟩, among, differs⟩

end DocQuery
