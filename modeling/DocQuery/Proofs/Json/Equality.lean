import DocQuery.Proofs.Evaluation.Membership
import DocQuery.Proofs.Json.Fields
import DocQuery.Proofs.Json.NumberOrder
import DocQuery.Proofs.Json.Numerals
import DocQuery.Query.Draft

/-!
Equality of documents. Scalars are equal by value, but arrays and objects are compared structurally,
and there a number must also be of the same kind. Two numbers clash if they are equal by value and
yet not the same. Clashes are all that keeps equality from being compositional: arrays are equal if
their items are, index by index, and no two numbers among them clash (`equals_array_iff`), objects
likewise under each key (`equals_object_iff`), and so two documents that agree by value throughout
are the same unless numbers clash somewhere inside them (`same_iff_agree`).
-/

namespace DocQuery.Json

namespace Number

def isInteger : Number → Bool
  | .integer _ _ => true
  | .real _ => false

/-- Numbers that are equal by value and yet differ: an integer and a binary64 number, or two
binary64 numbers with the same bounded decimal. -/
inductive Clash : Number → Number → Prop where
  | kinds {m n : Number} (equal : m.order n = .eq) (differ : m.isInteger ≠ n.isInteger) : Clash m n
  | rounded {x y : Binary64} {ticks : Int} (left : x.ticks? = some ticks)
      (right : y.ticks? = some ticks) (differ : x.signedUnits ≠ y.signedUnits) :
      Clash (.real x) (.real y)

theorem rank_of_zero {a : Number} (zero : a.value = 0) : a.rank = 0 := by
  have none : a.exactTicks = 0 := by rw [exactTicks, zero, zero_mul]
  unfold rank
  cases found : a.ticks? with
  | none => exact none
  | some ticks =>
      have within := ticks?_within found
      rw [none] at within
      cases within with
      | zero _ isZero => simp [isZero]
      | positive low => linarith
      | negative high => linarith

theorem order_reals {x y : Binary64} (same : x.signedUnits = y.signedUnits) :
    order (.real x) (.real y) = .eq := by
  rw [order_eq_compare, compare_eq_iff_eq]
  rcases Binary64.eq_or_zero_of_signedUnits same with rfl | ⟨zero, zero'⟩
  · rfl
  · have isZero : value (.real x) = 0 := (Binary64.written_eq_zero_iff x).mpr zero
    have isZero' : value (.real y) = 0 := (Binary64.written_eq_zero_iff y).mpr zero'
    rw [rank_of_zero isZero, rank_of_zero isZero']

/-- Without two decimals that could be equal by rounding, the binary64 values themselves are
compared. -/
theorem same_reals_iff (x y : Binary64) :
    same (.real x) (.real y) = true ↔
      order (.real x) (.real y) = .eq ∧ ¬ Clash (.real x) (.real y) := by
  rw [same, beq_iff_eq]
  constructor
  · intro units
    refine ⟨order_reals units, ?_⟩
    rintro (⟨-, differ⟩ | ⟨-, -, differ⟩)
    · exact differ rfl
    · exact differ units
  · rintro ⟨equal, noClash⟩
    simp only [order, ticks?] at equal
    split at equal
    next ticks ticks' left right =>
      rw [compare_eq_iff_eq] at equal
      by_contra differ
      exact noClash (.rounded left (equal ▸ right) differ)
    next => exact compare_eq_iff_eq.mp equal

theorem same_iff (m n : Number) : m.same n = true ↔ m.order n = .eq ∧ ¬ Clash m n := by
  cases m with
  | real x =>
      cases n with
      | real y => exact same_reals_iff x y
      | integer =>
          refine iff_of_false (by simp [same]) fun alike => alike.2 ?_
          exact .kinds alike.1 (by simp [isInteger])
  | integer value inRange =>
      cases n with
      | real =>
          refine iff_of_false (by simp [same]) fun alike => alike.2 ?_
          exact .kinds alike.1 (by simp [isInteger])
      | integer value' inRange' =>
          have noClash : ¬ Clash (.integer value inRange) (.integer value' inRange') := by
            rintro ⟨-, differ⟩
            exact differ rfl
          simp [same, order_integers, noClash]

end Number

section Levels

variable {a b : Json}

def Clash (a b : Json) : Prop := ∃ m n, a = .number m ∧ b = .number n ∧ m.Clash n

def EqualAlike (a b : Json) : Prop := a.equals b = true ∧ ¬ Clash a b

theorem same_iff_equalAlike (a b : Json) : a.same b = true ↔ EqualAlike a b := by
  unfold EqualAlike Clash
  cases a <;> cases b <;>
    simp [same, equals, order?, Number.same_iff]

theorem sameItems_iff (as bs : List Json) :
    sameItems as bs = true ↔ List.Forall₂ (fun a b => a.same b = true) as bs := by
  induction as generalizing bs with
  | nil => cases bs <;> simp [sameItems]
  | cons a as ih => cases bs <;> simp [sameItems, ih]

theorem sameFields_iff (as bs : List (String × Json)) :
    sameFields as bs = true ↔
      List.Forall₂ (fun a b => a.1 = b.1 ∧ a.2.same b.2 = true) as bs := by
  induction as generalizing bs with
  | nil => cases bs <;> simp [sameFields]
  | cons a as ih => cases bs <;> simp [sameFields, ih]

/-- Lists are equal item by item, and a pair of items that clashes keeps them apart. -/
theorem equals_array_iff (as bs : List Json) :
    equals (.array as) (.array bs) = true ↔ List.Forall₂ EqualAlike as bs := by
  simp only [equals, sameItems_iff, same_iff_equalAlike]

theorem sameFields_iff_lookup {as bs : List (String × Json)} (ascending : Ascending as)
    (ascending' : Ascending bs) :
    sameFields as bs = true ↔
      ∀ key, Option.Rel (fun a b => a.same b = true) (as.lookup key) (bs.lookup key) := by
  rw [sameFields_iff]
  exact ⟨fun related => lookup_of_related related, related_of_lookup ascending ascending'⟩

/-- Objects are equal key by key, and a key that one of them lacks the other lacks as well. -/
theorem equals_object_iff {as bs : List (String × Json)} (ascending : Ascending as)
    (ascending' : Ascending bs) :
    equals (.object as) (.object bs) = true ↔
      ∀ key, Option.Rel EqualAlike (as.lookup key) (bs.lookup key) := by
  simp only [equals, sameFields_iff_lookup ascending ascending', same_iff_equalAlike]

end Levels

section Depth

/-- Equal by value throughout: scalars by their order, arrays by length and index, objects by their
keys. -/
inductive Agree : Json → Json → Prop where
  | scalar {a b : Json} (equal : a.order? b = some .eq) : Agree a b
  | array {as bs : List Json} (length : as.length = bs.length)
      (items : ∀ pair ∈ as.zip bs, Agree pair.1 pair.2) : Agree (.array as) (.array bs)
  | object {as bs : List (String × Json)}
      (keys : ∀ key, (as.lookup key).isSome = (bs.lookup key).isSome)
      (fields : ∀ key a b, as.lookup key = some a → bs.lookup key = some b → Agree a b) :
      Agree (.object as) (.object bs)

/-- Two numbers stand at the same place of two documents. -/
inductive Facing (m n : Number) : Json → Json → Prop where
  | here : Facing m n (.number m) (.number n)
  | item {as bs : List Json} {pair : Json × Json} (member : pair ∈ as.zip bs)
      (facing : Facing m n pair.1 pair.2) : Facing m n (.array as) (.array bs)
  | field {as bs : List (String × Json)} {key : String} {a b : Json}
      (left : as.lookup key = some a) (right : bs.lookup key = some b) (facing : Facing m n a b) :
      Facing m n (.object as) (.object bs)

def NoClash (a b : Json) : Prop := ∀ m n, Facing m n a b → ¬ m.Clash n

theorem noClash_array_iff (as bs : List Json) :
    NoClash (.array as) (.array bs) ↔ ∀ pair ∈ as.zip bs, NoClash pair.1 pair.2 := by
  constructor
  · intro none pair member m n facing
    exact none m n (.item member facing)
  · intro each m n facing
    cases facing with
    | item member facing => exact each _ member m n facing

theorem noClash_object_iff (as bs : List (String × Json)) :
    NoClash (.object as) (.object bs) ↔
      ∀ key a b, as.lookup key = some a → bs.lookup key = some b → NoClash a b := by
  constructor
  · intro none key a b left right m n facing
    exact none m n (.field left right facing)
  · intro each m n facing
    cases facing with
    | field left right facing => exact each _ _ _ left right m n facing

theorem agree_array_iff (as bs : List Json) :
    Agree (.array as) (.array bs) ↔
      as.length = bs.length ∧ ∀ pair ∈ as.zip bs, Agree pair.1 pair.2 := by
  constructor
  · rintro (equal | ⟨length, items⟩)
    · cases equal
    · exact ⟨length, items⟩
  · rintro ⟨length, items⟩
    exact .array length items

theorem agree_object_iff (as bs : List (String × Json)) :
    Agree (.object as) (.object bs) ↔
      (∀ key, (as.lookup key).isSome = (bs.lookup key).isSome) ∧
        ∀ key a b, as.lookup key = some a → bs.lookup key = some b → Agree a b := by
  constructor
  · rintro (equal | _ | ⟨keys, fields⟩)
    · cases equal
    · exact ⟨keys, fields⟩
  · rintro ⟨keys, fields⟩
    exact .object keys fields

theorem agree_noClash_scalar {a b : Json}
    (noArrays : ∀ as bs, a = .array as → b = .array bs → False)
    (noObjects : ∀ as bs, a = .object as → b = .object bs → False) :
    Agree a b ∧ NoClash a b ↔ EqualAlike a b := by
  have agree : Agree a b ↔ a.equals b = true := by
    have equals_eq : a.equals b = (a.order? b == some .eq) := by
      unfold equals
      split
      · exact (noArrays _ _ rfl rfl).elim
      · exact (noObjects _ _ rfl rfl).elim
      · rfl
    rw [equals_eq, beq_iff_eq]
    refine ⟨?_, .scalar⟩
    rintro (equal | _ | _)
    · exact equal
    · exact (noArrays _ _ rfl rfl).elim
    · exact (noObjects _ _ rfl rfl).elim
  have noClash : NoClash a b ↔ ¬ Clash a b := by
    constructor
    · rintro none ⟨m, n, rfl, rfl, clash⟩
      exact none m n .here clash
    · intro none m n facing clash
      cases facing with
      | here => exact none ⟨m, n, rfl, rfl, clash⟩
      | item => exact noArrays _ _ rfl rfl
      | field => exact noObjects _ _ rfl rfl
  rw [agree, noClash, EqualAlike]

theorem forall₂_iff_pairs {R : Json → Json → Prop} {as bs : List Json} :
    List.Forall₂ R as bs ↔ as.length = bs.length ∧ ∀ pair ∈ as.zip bs, R pair.1 pair.2 := by
  rw [List.forall₂_iff_zip]
  exact and_congr_right fun _ => ⟨fun each pair member => each member, fun each _ _ => each (_, _)⟩

theorem optionRel_iff {R : Json → Json → Prop} {left right : Option Json} :
    Option.Rel R left right ↔
      left.isSome = right.isSome ∧ ∀ a b, left = some a → right = some b → R a b := by
  cases left <;> cases right <;> simp

theorem sizeOf_lookup {fields : List (String × Json)} {key : String} {value : Json}
    (found : fields.lookup key = some value) : sizeOf value < sizeOf fields := by
  have inside := List.sizeOf_lt_of_mem (mem_of_lookup found)
  simp only [Prod.mk.sizeOf_spec] at inside
  omega

/-- Documents are the same if they agree throughout and no numbers in them clash. -/
theorem same_iff_agree {a b : Json} (ordered : Ordered a) (ordered' : Ordered b) :
    a.same b = true ↔ Agree a b ∧ NoClash a b := by
  -- By induction on the size of the document, since its items and fields stand in lists.
  induction size : sizeOf a using Nat.strong_induction_on generalizing a b with
  | h size ih =>
      subst size
      fun_cases equals a b with
      | case1 as bs =>
          have each : ∀ pair ∈ as.zip bs,
              (pair.1.same pair.2 = true ↔ Agree pair.1 pair.2 ∧ NoClash pair.1 pair.2) := by
            intro pair member
            have inside := List.of_mem_zip (a := pair.1) (b := pair.2) member
            have smaller := List.sizeOf_lt_of_mem inside.1
            exact ih _ (by simp; omega) (ordered.item inside.1) (ordered'.item inside.2) rfl
          rw [agree_array_iff, noClash_array_iff, and_assoc, ← forall₂_and, same, sameItems_iff,
            forall₂_iff_pairs]
          exact and_congr_right fun _ => forall₂_congr each
      | case2 as bs =>
          have each : ∀ key a b, as.lookup key = some a → bs.lookup key = some b →
              (a.same b = true ↔ Agree a b ∧ NoClash a b) := by
            intro key a b left right
            have smaller := sizeOf_lookup left
            exact ih _ (by simp; omega) (ordered.field left) (ordered'.field right) rfl
          rw [agree_object_iff, noClash_object_iff, and_assoc, same,
            sameFields_iff_lookup ordered.ascending ordered'.ascending]
          simp only [optionRel_iff, ← forall_and]
          exact forall_congr' fun key => and_congr_right fun _ => forall₄_congr (each key)
      | case3 a b noArrays noObjects =>
          rw [same_iff_equalAlike, agree_noClash_scalar noArrays noObjects]

end Depth

section Filters

variable {column : ColumnRef} {table : Table} {record : Json} {tokens : List Token}

def EqualsToken (item : Json) (token : Token) : Prop :=
  ∃ value, token.literal = .ok value ∧ EqualAlike item value

theorem equalsToken_iff {values items : List Json} (denote : Denote tokens values) :
    List.Forall₂ EqualAlike items values ↔ List.Forall₂ EqualsToken items tokens := by
  induction denote generalizing items with
  | nil => simp
  | cons denotes _ ih =>
      cases items with
      | nil => simp
      | cons item rest => simp [ih, EqualsToken, denotes]

theorem accepts_array_iff {items : List Json}
    (resolves : ∀ qualifier ∈ column.qualifier, table.answersTo qualifier)
    (denoting : ∀ token ∈ tokens, ∃ value, token.literal = .ok value)
    (found : record.lookup? column.name = some (.array items)) :
    Filter.accepts ⟨column, .equalTo, .ofElements tokens⟩ record table = .ok true ↔
      List.Forall₂ EqualsToken items tokens := by
  obtain ⟨values, read, denote⟩ := literals_denote denoting
  rw [accepts_eq_apply resolves (literal_ofElements read), found, ← equalsToken_iff denote,
    ← equals_array_iff]
  simp [Operator.apply]

end Filters

def isCompound : Json → Bool
  | .array _ | .object _ => true
  | _ => false

theorem equals_compound {a : Json} (compound : a.isCompound = true) (b : Json) :
    a.equals b = a.same b := by
  cases a <;> cases b <;> simp [isCompound, equals, order?, same] at compound ⊢

/-- Equality is compositional but for numbers that clash: of arrays, of objects, at every depth, and
where a filter compares a field that is an array with an array of values. -/
theorem equality_but_for_clashes (items others : List Json)
    (fields otherFields : List (String × Json)) (a b : Json) (column : ColumnRef) (table : Table)
    (record : Json) (tokens : List Token) :
    (equals (.array items) (.array others) = true ↔ List.Forall₂ EqualAlike items others) ∧
    (Ascending fields → Ascending otherFields →
      (equals (.object fields) (.object otherFields) = true ↔
        ∀ key, Option.Rel EqualAlike (fields.lookup key) (otherFields.lookup key))) ∧
    (Ordered a → Ordered b → a.isCompound = true →
      (a.equals b = true ↔ Agree a b ∧ NoClash a b)) ∧
    ((∀ qualifier ∈ column.qualifier, table.answersTo qualifier = true) →
      (∀ token ∈ tokens, ∃ value, token.literal = .ok value) →
      record.lookup? column.name = some (.array items) →
      (Filter.accepts ⟨column, .equalTo, .ofElements tokens⟩ record table = .ok true ↔
        List.Forall₂ EqualsToken items tokens)) := by
  refine ⟨equals_array_iff items others, equals_object_iff, fun ordered ordered' compound => ?_,
    accepts_array_iff⟩
  rw [equals_compound compound, same_iff_agree ordered ordered']

def zeroIn (negative : Bool) : List (String × Json) :=
  [("zero", .array [.number (.real (.zero negative))])]

theorem zeroIn_ascending (negative : Bool) : Ascending (zeroIn negative) :=
  List.pairwise_singleton _ _

theorem zeroIn_ordered (negative : Bool) : Ordered (.object (zeroIn negative)) := by
  refine .object (zeroIn_ascending negative) (List.forall_mem_singleton.mpr ?_)
  exact .array (List.forall_mem_singleton.mpr (.number _))

theorem zeros_and_tags_equal :
    (Agree (.object (zeroIn false)) (.object (zeroIn true)) ∧
      NoClash (.object (zeroIn false)) (.object (zeroIn true))) ∧
    (∀ key, Option.Rel EqualAlike ((zeroIn false).lookup key) ((zeroIn true).lookup key)) ∧
    Filter.accepts ⟨⟨"tags", some "p"⟩, .equalTo,
        .ofElements [⟨.text, "a", []⟩, ⟨.query, "null", []⟩]⟩ listed ⟨"posts", some "p"⟩ =
      .ok true := by
  obtain ⟨-, objects, depth, filters⟩ := equality_but_for_clashes [.text "a", .null] []
    (zeroIn false) (zeroIn true) (.object (zeroIn false)) (.object (zeroIn true))
    ⟨"tags", some "p"⟩ ⟨"posts", some "p"⟩ listed
    [⟨.text, "a", []⟩, ⟨.query, "null", []⟩]
  have equal : equals (.object (zeroIn false)) (.object (zeroIn true)) = true := by decide +kernel
  refine ⟨(depth (zeroIn_ordered false) (zeroIn_ordered true) rfl).mp equal,
    (objects (zeroIn_ascending false) (zeroIn_ascending true)).mp equal, ?_⟩
  refine (filters (by decide) ?_ rfl).mpr ?_
  · simp only [List.forall_mem_cons, List.not_mem_nil, false_implies, implies_true, and_true]
    exact ⟨⟨_, rfl⟩, ⟨_, rfl⟩⟩
  · refine .cons ⟨_, rfl, by decide, ?_⟩ (.cons ⟨_, rfl, by decide, ?_⟩ .nil)
    · rintro ⟨_, _, ⟨⟩, _⟩
    · rintro ⟨_, _, ⟨⟩, _⟩

def one : Number := .integer 1 (by decide)

def onePointZero : Number :=
  .real ⟨false, 4503599627370496, 1022, by decide, .inr (by decide), by decide⟩

def isListOfOne : Filter := ⟨⟨"a", none⟩, .equalTo, .ofElements [⟨.number, "1.0", []⟩]⟩

/-- The two ones are equal by themselves, and differ inside of lists. -/
theorem one_equal_alone_only :
    equals (.number one) (.number onePointZero) = true ∧
    equals (.array [.number one]) (.array [.number onePointZero]) = false ∧
    Query.parse "select * from t where a = (1.0)" =
      .ok { columns := ["*"], table := ⟨"t", none⟩, groups := some [{ and := [isListOfOne] }] } ∧
    isListOfOne.accepts (.object [("a", .array [.number one])]) ⟨"t", none⟩ = .ok false := by
  have equal : equals (.number one) (.number onePointZero) = true := by decide +kernel
  have unequal : equals (.array [.number one]) (.array [.number onePointZero]) = false := rfl
  have numeral : Lexing.IsNumeral "1.0".toList :=
    .inl ⟨['1'], ['.', '0'], rfl, List.cons_ne_nil _ _, List.forall_mem_singleton.mpr rfl,
      .inr ⟨['0'], rfl, List.forall_mem_singleton.mpr rfl⟩⟩
  have value : Number.read? "1.0".toList = some onePointZero := by decide +kernel
  have denotes : Token.literals [⟨.number, "1.0", []⟩] = .ok [.number onePointZero] := by
    simp only [Token.literals, Token.literal, Token.numberLiteral, read?_numeral numeral, value,
      Option.map_some, Except.map]
  refine ⟨equal, unequal, rfl, ?_⟩
  have resolves : ∀ qualifier ∈ isListOfOne.column.qualifier,
      Table.answersTo ⟨"t", none⟩ qualifier := by decide
  exact (accepts_eq_apply resolves (literal_ofElements denotes)).trans
    (congrArg Except.ok unequal)

end DocQuery.Json
