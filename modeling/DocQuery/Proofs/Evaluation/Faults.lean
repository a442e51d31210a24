import DocQuery.Proofs.Evaluation.Membership
import DocQuery.Proofs.Json.Numerals
import DocQuery.Proofs.Query.Rereading

/-!
How a filter of a query that was parsed can fail. Parsing lets values through that denote nothing:
numerals that JSON does not have, and operators and names among the values of an array. These fail
first, the first of an array before the others; then a qualifier that does not name the table; and
last a comparison with `in` to a single value, unless the field is missing. Nothing else fails
(`parsed_faults_foreseen`). The numerals that are too large begin a little before the end of
binary64, so that the greatest finite number is one of them (`greatest_number_refused`).
-/

namespace DocQuery

open Lexing Grammar
open Json.Numeral (HasLeadingZero EndsInPoint TooLarge exactValue)

section Values

inductive ElementFault : Token → EvalFault → Prop where
  | number {content : String}
      (flawed : HasLeadingZero content.toList ∨ EndsInPoint content.toList ∨
        TooLarge content.toList) :
      ElementFault { kind := .number, content } (.invalidNumber content)
  | operator {content : String} :
      ElementFault { kind := .operator, content } (.unsupportedValue .operator content)
  | name {content : String} (other : content ∉ ["true", "false", "null"]) :
      ElementFault { kind := .query, content } (.unsupportedValue .query content)

/-- A value of a filter that denotes nothing. The first element that makes a fault decides. -/
inductive ValueFault : Token → EvalFault → Prop where
  | number {content : String} {fault : EvalFault}
      (flawed : ElementFault { kind := .number, content } fault) :
      ValueFault { kind := .number, content } fault
  | element {before after : List Token} {element : Token} {fault : EvalFault}
      (sound : ∀ earlier ∈ before, ∀ fault, ¬ ElementFault earlier fault)
      (flawed : ElementFault element fault) :
      ValueFault (.ofElements (before ++ element :: after)) fault

variable {token : Token} {fault : EvalFault}

theorem wordLiteral_eq_error_iff (content : String) (fault : EvalFault) :
    Token.wordLiteral content = .error fault ↔
      content ∉ ["true", "false", "null"] ∧ fault = .unsupportedValue .query content := by
  unfold Token.wordLiteral
  split_ifs <;> simp_all [eq_comm]

theorem element_literal_iff (element : IsElement token) (fault : EvalFault) :
    token.literal = .error fault ↔ ElementFault token fault := by
  obtain ⟨kind, content, elements⟩ := token
  obtain ⟨isKind, rfl, fits⟩ := element
  simp only [List.mem_cons, List.not_mem_nil, or_false] at isKind
  rcases isKind with rfl | rfl | rfl | rfl
  · simp only [Token.literal]
    exact iff_of_false (by simp) (by rintro ⟨⟩)
  · simp only [Token.literal, Token.numberLiteral_eq_error_iff fits]
    constructor
    · rintro ⟨rfl, flawed⟩
      exact .number flawed
    · rintro (flawed | _ | _)
      exact ⟨rfl, flawed⟩
  · simp only [Token.literal, wordLiteral_eq_error_iff]
    constructor
    · rintro ⟨other, rfl⟩
      exact .name other
    · rintro (_ | _ | other)
      exact ⟨other, rfl⟩
  · simp only [Token.literal]
    constructor
    · rintro ⟨⟩
      exact .operator
    · rintro (_ | _ | _)
      rfl

theorem exists_split_cons {α : Type} {P : List α → α → List α → Prop} (first : α)
    (rest : List α) :
    (∃ before element after, first :: rest = before ++ element :: after ∧ P before element after) ↔
      P [] first rest ∨
        ∃ before element after, rest = before ++ element :: after ∧
          P (first :: before) element after := by
  constructor
  · rintro ⟨_ | ⟨head, before⟩, element, after, split, holds⟩
    · cases split
      exact .inl holds
    · cases split
      exact .inr ⟨before, element, after, rfl, holds⟩
  · rintro (holds | ⟨before, element, after, rfl, holds⟩)
    · exact ⟨[], first, rest, rfl, holds⟩
    · exact ⟨first :: before, element, after, rfl, holds⟩

theorem literals_eq_error_iff (tokens : List Token) (fault : EvalFault) :
    Token.literals tokens = .error fault ↔
      ∃ before element after, tokens = before ++ element :: after ∧
        (∀ earlier ∈ before, ∀ fault, earlier.literal ≠ .error fault) ∧
        element.literal = .error fault := by
  induction tokens with
  | nil => simp [Token.literals]
  | cons token rest ih =>
      rw [exists_split_cons]
      cases read : token.literal with
      | error found => simp [Token.literals, read]
      | ok value => simp [Token.literals, read, map_eq_error_iff, ih]

theorem isElement_of_lexes {kind : TokenKind} {content : String} (bare : isBare kind = true)
    (lexes : LexesAs content kind) : IsElement { kind, content } :=
  (lexes.spells bare).isElement

theorem valueFault_array_iff (elements : List Token) (fault : EvalFault) :
    ValueFault (.ofElements elements) fault ↔
      ∃ before element after, elements = before ++ element :: after ∧
        (∀ earlier ∈ before, ∀ fault, ¬ ElementFault earlier fault) ∧
        ElementFault element fault := by
  constructor
  · generalize same : Token.ofElements elements = token
    rintro (_ | ⟨sound, flawed⟩)
    · simp [Token.ofElements] at same
    · exact ⟨_, _, _, (Token.mk.inj same).2.2, sound, flawed⟩
  · rintro ⟨before, element, after, rfl, sound, flawed⟩
    exact .element sound flawed

theorem literal_eq_error_iff (expressible : ExpressibleValue token) (fault : EvalFault) :
    token.literal = .error fault ↔ ValueFault token fault := by
  cases expressible with
  | text =>
      simp only [Token.literal]
      exact iff_of_false (by simp) (by rintro ⟨⟩)
  | number lexes =>
      rw [element_literal_iff (isElement_of_lexes rfl lexes)]
      constructor
      · exact .number
      · rintro (flawed | _)
        exact flawed
  | constant listed =>
      simp only [Token.literal, wordLiteral_eq_error_iff]
      exact iff_of_false (fun other => other.1 listed) (by rintro ⟨⟩)
  | @array elements nonempty each alone =>
      have isElement : ∀ element ∈ elements, IsElement element := fun element member =>
        (each element member).spells.isElement
      rw [valueFault_array_iff]
      simp only [Token.ofElements, Token.literal, map_eq_error_iff, literals_eq_error_iff]
      refine exists_congr fun before => exists_congr fun element => exists_congr fun after =>
        and_congr_right ?_
      rintro rfl
      refine and_congr (forall₂_congr fun earlier member => forall_congr' fun fault =>
        not_congr (element_literal_iff (isElement earlier ?_) fault))
        (element_literal_iff (isElement element ?_) fault)
      · exact List.mem_append_left _ member
      · exact List.mem_append_right _ List.mem_cons_self

theorem sound_iff_denotes (expressible : ExpressibleValue token) :
    (∀ fault, ¬ ValueFault token fault) ↔ ∃ value, token.literal = .ok value := by
  simp only [← literal_eq_error_iff expressible]
  cases token.literal <;> simp

theorem numberLiteral_number {content : String} {value : Json}
    (denotes : Token.numberLiteral content = .ok value) : ∃ number, value = .number number := by
  unfold Token.numberLiteral at denotes
  split at denotes
  · cases denotes
    exact ⟨_, rfl⟩
  · cases denotes

theorem wordLiteral_noArray {content : String} (items : List Json) :
    Token.wordLiteral content ≠ .ok (.array items) := by
  unfold Token.wordLiteral
  split_ifs <;> simp

theorem literal_array_iff (expressible : ExpressibleValue token) {value : Json}
    (denotes : token.literal = .ok value) :
    (∃ items, value = .array items) ↔ token.kind = .array := by
  cases expressible with
  | text =>
      simp only [Token.literal] at denotes
      cases denotes
      simp
  | number =>
      simp only [Token.literal] at denotes
      obtain ⟨number, rfl⟩ := numberLiteral_number denotes
      simp
  | constant =>
      simp only [Token.literal] at denotes
      refine iff_of_false ?_ (by simp)
      rintro ⟨items, rfl⟩
      exact wordLiteral_noArray items denotes
  | @array elements =>
      simp only [Token.ofElements, Token.literal] at denotes
      refine iff_of_true ?_ rfl
      cases read : Token.literals elements with
      | error => simp [read, Except.map] at denotes
      | ok items =>
          rw [read] at denotes
          exact ⟨items, (Except.ok.inj denotes).symm⟩

end Values

section Filters

variable {column : ColumnRef} {table : Table} {record : Json} {fault : EvalFault}

theorem answersTo_iff (table : Table) (qualifier : String) :
    table.answersTo qualifier = true ↔
      qualifier = table.name ∨ table.aliasName = some qualifier := by
  rw [Table.answersTo, Bool.or_eq_true, beq_iff_eq, beq_iff_eq, or_comm, eq_comm (a := qualifier)]

theorem path_eq_ok_iff {path : String} :
    column.path table = .ok path ↔
      path = column.name ∧
        ∀ qualifier ∈ column.qualifier, qualifier = table.name ∨ table.aliasName = some qualifier := by
  unfold ColumnRef.path
  split
  next isNone => simp [isNone, eq_comm]
  next qualifier isQualifier =>
    simp only [isQualifier, Option.mem_def, Option.some.injEq, forall_eq', ← answersTo_iff]
    split
    next answers => simp [answers, eq_comm]
    next unanswered => simp [unanswered]

theorem path_eq_error_iff :
    column.path table = .error fault ↔
      ∃ qualifier, column.qualifier = some qualifier ∧ qualifier ≠ table.name ∧
        table.aliasName ≠ some qualifier ∧
        fault = .unknownAlias qualifier column.render table.render := by
  unfold ColumnRef.path
  split
  next isNone => simp [isNone]
  next qualifier isQualifier =>
    simp only [isQualifier, Option.some.injEq, exists_eq_left', ne_eq]
    rw [← and_assoc, ← not_or, ← answersTo_iff]
    split
    next answers => simp [answers]
    next unanswered => simp [unanswered, eq_comm]

theorem apply_eq_error_iff {operator : Operator} (isPlain : operator ∈ plainOperators)
    (field : Option Json) (value : Json) :
    operator.apply field value = .error fault ↔
      operator = .isIn ∧ (¬ ∃ items, value = .array items) ∧ field.isSome ∧
        fault = .expectedArray value := by
  simp only [plainOperators, List.mem_cons, List.not_mem_nil, or_false] at isPlain
  rcases isPlain with rfl | rfl | rfl | rfl | rfl | rfl | rfl
  case inr.inl =>
    cases field with
    | none => simp [Operator.apply]
    | some held => cases value <;> simp [Operator.apply, eq_comm]
  all_goals simp [Operator.apply, Except.map]

/-- The faults that a filter can make on a record, each under what has to go well before. -/
inductive Foreseen (filter : Filter) (table : Table) (record : Json) : EvalFault → Prop where
  | value {fault : EvalFault} (flawed : ValueFault filter.value fault) :
      Foreseen filter table record fault
  | column {qualifier : String} (sound : ∀ fault, ¬ ValueFault filter.value fault)
      (qualified : filter.column.qualifier = some qualifier) (noName : qualifier ≠ table.name)
      (noAlias : table.aliasName ≠ some qualifier) :
      Foreseen filter table record
        (.unknownAlias qualifier filter.column.render table.render)
  | membership {found : Json} (sound : ∀ fault, ¬ ValueFault filter.value fault)
      (resolves : ∀ qualifier ∈ filter.column.qualifier,
        qualifier = table.name ∨ table.aliasName = some qualifier)
      (isIn : filter.operator = .isIn) (noArray : filter.value.kind ≠ .array)
      (present : (record.lookup? filter.column.name).isSome)
      (denotes : filter.value.literal = .ok found) :
      Foreseen filter table record (.expectedArray found)

variable {filter : Filter}

/-- A filter fails with exactly the faults that are foreseen. -/
theorem accepts_eq_error_iff (expressible : ExpressibleFilter filter) :
    filter.accepts record table = .error fault ↔ Foreseen filter table record fault := by
  -- Reading the value, finding the column and comparing follow one another, so each fault comes
  -- with what was found before it.
  simp only [Filter.accepts, bind_eq_error_iff, literal_eq_error_iff expressible.value,
    path_eq_error_iff, path_eq_ok_iff, apply_eq_error_iff expressible.isPlain]
  have soundValue := sound_iff_denotes expressible.value
  constructor
  · rintro (flawed | ⟨value, denotes, ⟨qualifier, qualified, noName, noAlias, rfl⟩ |
      ⟨_, ⟨rfl, resolves⟩, isIn, noArray, present, rfl⟩⟩)
    · exact .value flawed
    · exact .column (soundValue.mpr ⟨value, denotes⟩) qualified noName noAlias
    · rw [literal_array_iff expressible.value denotes] at noArray
      exact .membership (soundValue.mpr ⟨value, denotes⟩) resolves isIn noArray present denotes
  · rintro (flawed | ⟨sound, qualified, noName, noAlias⟩ |
      ⟨-, resolves, isIn, noArray, present, denotes⟩)
    · exact .inl flawed
    · obtain ⟨value, denotes⟩ := soundValue.mp sound
      exact .inr ⟨value, denotes, .inl ⟨_, qualified, noName, noAlias, rfl⟩⟩
    · rw [ne_eq, ← literal_array_iff expressible.value denotes] at noArray
      exact .inr ⟨_, denotes, .inr ⟨_, ⟨rfl, resolves⟩, isIn, noArray, present, rfl⟩⟩

end Filters

section Queries

theorem expressible_of_parse {text : String} {query : Query} (parsed : Query.parse text = .ok query)
    {filter : Filter} (member : filter ∈ query.filters) : ExpressibleFilter filter := by
  obtain ⟨phrase, rfl, shaped⟩ := phrase_of_text parsed
  exact phrase.filter_expressible shaped member

/-- On a record a filter of a parsed query makes the faults that are foreseen for it and otherwise
gives a verdict. What binary64 is too small for is too large, and so are a few numbers beyond the
middle between the two greatest finite ones. -/
theorem parsed_faults_foreseen {text : String} {query : Query}
    (parsed : Query.parse text = .ok query) {filter : Filter} (member : filter ∈ query.filters)
    (record : Json) :
    (∀ fault, filter.accepts record query.table = .error fault ↔
      Foreseen filter query.table record fault) ∧
    ((∀ fault, ¬ Foreseen filter query.table record fault) →
      ∃ verdict, filter.accepts record query.table = .ok verdict) ∧
    ∀ numeral, (2 ^ 1024 - 2 ^ 970 ≤ exactValue numeral → TooLarge numeral) ∧
      (TooLarge numeral → 2 ^ 1024 - 3 * 2 ^ 970 < exactValue numeral) := by
  have expressible := expressible_of_parse parsed member
  obtain ⟨above, below⟩ := Binary64.readingLimit_bounds
  refine ⟨fun fault => accepts_eq_error_iff expressible, ?_, fun _ =>
    ⟨below.le.trans, above.trans_le⟩⟩
  intro nothing
  cases judged : filter.accepts record query.table with
  | error fault => exact absurd ((accepts_eq_error_iff expressible).mp judged) (nothing fault)
  | ok verdict => exact ⟨verdict, rfl⟩

def leadTokens : List Token :=
  [⟨.query, "select", []⟩, ⟨.query, "a", []⟩, ⟨.query, "from", []⟩, ⟨.query, "t", []⟩,
    ⟨.query, "where", []⟩, ⟨.query, "a", []⟩, ⟨.operator, "=", []⟩]

theorem tokenise_comparison {digits : List Char} (nonempty : digits ≠ [])
    (isDigits : ∀ c ∈ digits, c.isDigit = true) :
    tokenise ("select a from t where a = " ++ .ofList digits) =
      .ok (leadTokens ++ [⟨.number, .ofList digits, []⟩]) := by
  have lead : Adds "select a from t where a =".toList ⟨leadTokens, 0⟩ :=
    ⟨by decide, _, cuts_of_pieces (by decide +kernel) (by decide), makes_tokens leadTokens⟩
  have number := (spells_digits nonempty isDigits).writes.blank.toAdds
  have blank : "select a from t where a = ".toList =
      "select a from t where a =".toList ++ [' '] := by decide
  have split : ("select a from t where a = " ++ .ofList digits).toList =
      "select a from t where a =".toList ++ ' ' :: digits := by
    rw [String.toList_append, String.toList_ofList (l := digits), blank, List.append_assoc,
      List.singleton_append]
  have both := lead.append number (stops_cons (by decide) _)
  rw [← split] at both
  exact both.tokenise_eq

def greatestNumber : Nat := Nat.pow 2 1024 - Nat.pow 2 971

/-- The digits of the greatest finite number, which are 309. -/
def greatestDigits : List Char := Nat.toDigits 10 greatestNumber

def greatestFilter : Filter where
  column := ⟨"a", none⟩
  operator := .equalTo
  value := { kind := .number, content := .ofList greatestDigits }

def greatestQuery : Query where
  columns := ["a"]
  table := ⟨"t", none⟩
  groups := some [{ and := [greatestFilter] }]

/-- The number is finite, but those of its digits that fit 64 bits, times the power of ten that is
rounded as well, are not, and it is refused. -/
theorem greatest_number_refused :
    Query.parse ("select a from t where a = " ++ .ofList greatestDigits) = .ok greatestQuery ∧
      greatestFilter ∈ greatestQuery.filters ∧
      exactValue greatestDigits * (Binary64.unitsInOne : ℕ) = (Binary64.greatest.units : ℕ) ∧
      ¬ HasLeadingZero greatestDigits ∧ ¬ EndsInPoint greatestDigits ∧
      ∀ record, greatestFilter.accepts record greatestQuery.table =
        .error (.invalidNumber (.ofList greatestDigits)) := by
  have digits : ∀ c ∈ greatestDigits, c.isDigit = true := fun c member =>
    Nat.isDigit_of_mem_toDigits (by decide) (by decide) member
  have parsed : Query.parse ("select a from t where a = " ++ .ofList greatestDigits) =
      .ok greatestQuery :=
    (parse_eq_ofTokens (tokenise_comparison Nat.toDigits_ne_nil digits)).trans rfl
  have member : greatestFilter ∈ greatestQuery.filters := by
    simp [greatestQuery, Query.filters]
  obtain ⟨noZero, noPoint, value⟩ := Json.Numeral.toDigits_flawless greatestNumber
  have units : greatestNumber * Binary64.unitsInOne = Binary64.greatest.units := by decide +kernel
  have tooLarge : TooLarge greatestDigits := by
    obtain ⟨zeros, isZeros, reaches⟩ : ∃ zeros, zeros = 289 ∧
        Binary64.limitDigits * 10 ^ zeros ≤ greatestNumber := ⟨289, rfl, by decide +kernel⟩
    rw [TooLarge, greatestDigits, value, Binary64.readingLimit, ← isZeros]
    exact_mod_cast reaches
  refine ⟨parsed, member, ?_, noZero, noPoint, fun record => ?_⟩
  · rw [greatestDigits, value, ← units, Nat.cast_mul]
  · rw [← String.toList_ofList (l := greatestDigits)] at tooLarge
    exact (accepts_eq_error_iff (expressible_of_parse parsed member)).mpr
      (.value (.number (.number (.inr (.inr tooLarge)))))

/-- Behind a sound filter, a list in which two values denote nothing. -/
def flawedList : String := "select a from t where b = 'x' and a in ('x', =, 007)"

def soundFilter : Filter where
  column := ⟨"b", none⟩
  operator := .equalTo
  value := { kind := .text, content := "x" }

def flawedFilter : Filter where
  column := ⟨"a", none⟩
  operator := .isIn
  value := .ofElements [⟨.text, "x", []⟩, ⟨.operator, "=", []⟩, ⟨.number, "007", []⟩]

def flawedQuery : Query where
  columns := ["a"]
  table := ⟨"t", none⟩
  groups := some [{ and := [soundFilter, flawedFilter] }]

theorem second_element_decides :
    Query.parse flawedList = .ok flawedQuery ∧
      soundFilter ∈ flawedQuery.filters ∧
      (∃ verdict, soundFilter.accepts .null flawedQuery.table = .ok verdict) ∧
      flawedFilter ∈ flawedQuery.filters ∧
      flawedFilter.accepts .null flawedQuery.table =
        .error (.unsupportedValue .operator "=") := by
  have parsed : Query.parse flawedList = .ok flawedQuery := rfl
  have first : soundFilter ∈ flawedQuery.filters := by decide
  have second : flawedFilter ∈ flawedQuery.filters := by decide
  have nothing : ∀ fault, ¬ Foreseen soundFilter flawedQuery.table .null fault := by
    rintro fault (⟨⟨⟩⟩ | ⟨_, qualified⟩ | ⟨_, _, isIn⟩)
    · cases qualified
    · cases isIn
  have sound : ∀ earlier ∈ [Token.mk .text "x" []], ∀ fault, ¬ ElementFault earlier fault := by
    rintro earlier member fault flawed
    obtain rfl := List.mem_singleton.mp member
    cases flawed
  have faults := (parsed_faults_foreseen parsed second .null).1
  exact ⟨parsed, first, (parsed_faults_foreseen parsed first .null).2.1 nothing, second,
    (faults _).mpr (.value (.element sound .operator))⟩

end Queries

end DocQuery
