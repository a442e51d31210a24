import DocQuery.Proofs.Evaluation.Membership
import DocQuery.Query.Draft

/-!
Filters with the operators that order. They accept a record if it has the column, the field and the
value are scalars of one type, and their order is one that the operator admits. All four types of
scalars are ordered: not only numbers and texts but also truth values, `false` before `true`, and
null, which is equal to itself. So a field beside such a word can be accepted, and the operators and
words for which it is are listed by `ordersWord` (`orderings_accept`).
-/

namespace DocQuery

section Comparisons

inductive Json.Compares : Json → Json → Ordering → Prop where
  | numbers (m n : Json.Number) : Compares (.number m) (.number n) (m.order n)
  | texts (s t : String) : Compares (.text s) (.text t) (compare s t)
  | bools (p q : Bool) : Compares (.bool p) (.bool q) (compare p q)
  | nulls : Compares .null .null .eq

inductive Json.Orderable : Json → Json → Prop where
  | numbers (m n : Json.Number) : Orderable (.number m) (.number n)
  | texts (s t : String) : Orderable (.text s) (.text t)

theorem Json.order?_eq_some_iff (a b : Json) (order : Ordering) :
    a.order? b = some order ↔ a.Compares b order := by
  constructor
  · intro ordered
    unfold Json.order? at ordered
    split at ordered <;> cases ordered <;> constructor
  · rintro (_ | _ | _ | _) <;> rfl

def orderings : List Operator :=
  [.greaterThan, .greaterThanOrEqualTo, .lessThan, .lessThanOrEqualTo]

/-- The orders of a field and a value that an operator accepts. -/
def Operator.admits : Operator → List Ordering
  | .greaterThan => [.gt]
  | .greaterThanOrEqualTo => [.gt, .eq]
  | .lessThan => [.lt]
  | .lessThanOrEqualTo => [.lt, .eq]
  | _ => []

def Operator.ordersWord : Operator → Json → Bool
  | .greaterThan, .bool value => !value
  | .lessThan, .bool value => value
  | .greaterThanOrEqualTo, .bool _ | .greaterThanOrEqualTo, .null => true
  | .lessThanOrEqualTo, .bool _ | .lessThanOrEqualTo, .null => true
  | _, _ => false

variable {operator : Operator}

theorem apply_ordering (isOrdering : operator ∈ orderings) (field : Option Json) (value : Json) :
    operator.apply field value =
      .ok (field.any fun held => (held.order? value).any (operator.admits.contains ·)) := by
  simp only [orderings, List.mem_cons, List.not_mem_nil, or_false] at isOrdering
  rcases isOrdering with rfl | rfl | rfl | rfl
  all_goals
    simp only [Operator.apply, Operator.admits]
    congr 2
    funext held
    rcases held.order? value with _ | (_ | _ | _) <;> rfl

theorem ordering_accepts_iff (field : Option Json) (value : Json) :
    (field.any fun held => (held.order? value).any (operator.admits.contains ·)) = true ↔
      ∃ held order, field = some held ∧ held.Compares value order ∧ order ∈ operator.admits := by
  cases field <;> simp [Option.any_eq_true, Json.order?_eq_some_iff]

theorem word_accepts_iff (value : Json) :
    (∃ held order, Json.Compares held value order ∧ order ∈ operator.admits ∧
        ¬ Json.Orderable held value) ↔
      value = .null ∧ .eq ∈ operator.admits ∨
        ∃ p q, value = .bool q ∧ compare p q ∈ operator.admits := by
  constructor
  · rintro ⟨held, order, compares, admitted, unordered⟩
    cases compares with
    | numbers m n => exact absurd (.numbers m n) unordered
    | texts s t => exact absurd (.texts s t) unordered
    | bools p q => exact .inr ⟨p, q, rfl, admitted⟩
    | nulls => exact .inl ⟨rfl, admitted⟩
  · rintro (⟨rfl, admitted⟩ | ⟨p, q, rfl, admitted⟩)
    · exact ⟨.null, .eq, .nulls, admitted, nofun⟩
    · exact ⟨.bool p, compare p q, .bools p q, admitted, nofun⟩

theorem ordersWord_iff (isOrdering : operator ∈ orderings) (value : Json) :
    operator.ordersWord value = true ↔
      value = .null ∧ .eq ∈ operator.admits ∨
        ∃ p q, value = .bool q ∧ compare p q ∈ operator.admits := by
  simp only [orderings, List.mem_cons, List.not_mem_nil, or_false] at isOrdering
  cases value with
  | bool q =>
      simp only [reduceCtorEq, false_and, false_or, Json.bool.injEq]
      rcases isOrdering with rfl | rfl | rfl | rfl <;> cases q <;> simp <;> decide
  | null => rcases isOrdering with rfl | rfl | rfl | rfl <;> simp <;> decide
  | _ => rcases isOrdering with rfl | rfl | rfl | rfl <;> simp [Operator.ordersWord]

end Comparisons

section Records

def Json.nest (value : Json) : List (List Char) → Json
  | [] => value
  | segment :: rest => .object [(String.ofList segment, value.nest rest)]

theorem foldlM_nest (value : Json) (path : List (List Char)) :
    path.foldlM Json.child? (value.nest path) = some value := by
  induction path with
  | nil => rfl
  | cons segment rest ih => simpa [Json.nest, Json.child?, Json.field?, List.lookup_cons] using ih

theorem lookup?_nest (value : Json) (path : String) :
    (value.nest (segments path.toList)).lookup? path = some value :=
  foldlM_nest value (segments path.toList)

end Records

/-- A filter that orders never fails. It accepts the records that have the column with a field whose
order to the value is admitted. Only numbers and texts are ordered so, exactly unless the value is
null or a truth value that the operator orders. -/
theorem orderings_accept {operator : Operator} (isOrdering : operator ∈ orderings)
    (column : ColumnRef) (table : Table) (token : Token) (value : Json)
    (resolves : ∀ qualifier ∈ column.qualifier, table.answersTo qualifier = true)
    (denotes : token.literal = .ok value) :
    (∀ record, ∃ verdict,
      Filter.accepts ⟨column, operator, token⟩ record table = .ok verdict ∧
        (verdict = true ↔ ∃ field order, record.lookup? column.name = some field ∧
          field.Compares value order ∧ order ∈ operator.admits)) ∧
    ((∀ record, Filter.accepts ⟨column, operator, token⟩ record table = .ok true →
        ∃ field, record.lookup? column.name = some field ∧ field.Orderable value) ↔
      operator.ordersWord value = false) := by
  have accepts : ∀ record, Filter.accepts ⟨column, operator, token⟩ record table = .ok true ↔
      ∃ field order, record.lookup? column.name = some field ∧ field.Compares value order ∧
        order ∈ operator.admits := by
    intro record
    rw [accepts_eq_apply resolves denotes, apply_ordering isOrdering, Except.ok.injEq,
      ordering_accepts_iff]
  constructor
  · intro record
    refine ⟨_, (accepts_eq_apply resolves denotes).trans (apply_ordering isOrdering _ value), ?_⟩
    exact ordering_accepts_iff _ value
  · rw [← Bool.not_eq_true, ordersWord_iff isOrdering, ← word_accepts_iff]
    constructor
    -- A record that has just this field under the column would be accepted against the law.
    · rintro law ⟨held, order, compares, admitted, unordered⟩
      have found := lookup?_nest held column.name
      have accepted := (accepts _).mpr ⟨held, order, found, compares, admitted⟩
      obtain ⟨field, found', orderable⟩ := law _ accepted
      rw [found] at found'
      cases found'
      exact unordered orderable
    · intro noWord record accepted
      obtain ⟨field, order, found, compares, admitted⟩ := (accepts record).mp accepted
      refine ⟨field, found, ?_⟩
      by_contra unordered
      exact noWord ⟨field, order, compares, admitted, unordered⟩

def isBehindB : Filter := ⟨⟨"name", some "p"⟩, .greaterThan, ⟨.text, "B", []⟩⟩

theorem bo_behind_b :
    (isBehindB.operator ∈ orderings ∧ Table.answersTo ⟨"people", some "p"⟩ "p" = true ∧
      isBehindB.value.literal = .ok (.text "B")) ∧
    isBehindB.accepts (.object [("name", .text "Bo")]) ⟨"people", some "p"⟩ = .ok true ∧
    ∀ record, isBehindB.accepts record ⟨"people", some "p"⟩ = .ok true →
      ∃ field, record.lookup? "name" = some field ∧ field.Orderable (.text "B") := by
  have isOrdering : isBehindB.operator ∈ orderings := by decide
  have denotes : isBehindB.value.literal = .ok (.text "B") := rfl
  obtain ⟨judged, law⟩ := orderings_accept isOrdering isBehindB.column ⟨"people", some "p"⟩
    isBehindB.value (.text "B") (by decide) denotes
  refine ⟨⟨isOrdering, by decide, denotes⟩, ?_, law.mpr rfl⟩
  obtain ⟨verdict, accepts, isVerdict⟩ := judged (.object [("name", .text "Bo")])
  have compares : Json.Compares (.text "Bo") (.text "B") .gt := .texts "Bo" "B"
  rw [isVerdict.mpr ⟨_, _, rfl, compares, by decide⟩] at accepts
  exact accepts

def isBehindFalse : Filter := ⟨⟨"a", none⟩, .greaterThan, ⟨.query, "false", []⟩⟩

/-- The comparison of scalars knows an order of the truth values as well. -/
theorem true_behind_false :
    Query.parse "select * from t where a > false" =
      .ok { columns := ["*"], table := ⟨"t", none⟩, groups := some [{ and := [isBehindFalse] }] } ∧
    isBehindFalse.accepts (.object [("a", .bool true)]) ⟨"t", none⟩ = .ok true ∧
    ¬ Json.Orderable (.bool true) (.bool false) :=
  ⟨rfl, rfl, nofun⟩

end DocQuery
