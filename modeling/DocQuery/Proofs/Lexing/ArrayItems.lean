import DocQuery.Proofs.Lexing.Shapes

/-!
The items of array literals. A region in parentheses with a comma directly inside is read as one
array token, or the text is refused. Between two commas there is a value, and in all there is one
value more than there are commas. That is all the machine asks for: an empty item at either end is
made up for by an item of two values, and only if neither end is empty has every item one value
(`tokenise_array_iff`).
-/

namespace DocQuery.Lexing

/-- Pieces whose parentheses match, and how many commas are outside of all of them. -/
inductive Matched : List Piece → Nat → Prop where
  | nothing : Matched [] 0
  | token (held : Token) {rest : List Piece} {commas : Nat} (matched : Matched rest commas) :
      Matched (.token held :: rest) commas
  | comma {rest : List Piece} {commas : Nat} (matched : Matched rest commas) :
      Matched (.comma :: rest) (commas + 1)
  | region {inside behind : List Piece} {inner commas : Nat} (within : Matched inside inner)
      (matched : Matched behind commas) :
      Matched (.opening :: inside ++ .closing :: behind) commas

inductive Flat : List Piece → Prop where
  | nothing : Flat []
  | token (held : Token) {rest : List Piece} (flat : Flat rest) : Flat (.token held :: rest)
  | comma {rest : List Piece} (flat : Flat rest) : Flat (.comma :: rest)

/-- What stands in each place between commas, comments apart. -/
def items (pieces : List Piece) : List (List Piece) :=
  (pieces.filter (!·.isComment)).splitOn .comma

def Piece.token? : Piece → Option Token
  | .token held => some held
  | .comma | .opening | .closing => none

def values (pieces : List Piece) : List Token :=
  (pieces.filterMap Piece.token?).filter (!·.isComment)

/-- What is asked of the pieces between the parentheses of an array literal. -/
structure Listed (inside : List Piece) : Prop where
  flat : Flat inside
  filled : ∀ item ∈ (items inside).tail.dropLast, item ≠ []
  count : (values inside).length = (items inside).length

def secondPass? (pieces : List Piece) : Option (List Token) :=
  if commasApart false pieces then ({} : Levels).nest? pieces else none

section Items

variable {pieces rest : List Piece} {held : Token}

theorem items_ne_nil (pieces : List Piece) : items pieces ≠ [] := List.splitOnP_ne_nil _ _

theorem items_comma (rest : List Piece) : items (.comma :: rest) = [] :: items rest := by
  simp [items, List.splitOn, List.splitOnP_cons_eq_if_modifyHead, Piece.isComment]

theorem items_comment (comment : held.isComment = true) (rest : List Piece) :
    items (.token held :: rest) = items rest := by
  simp [items, Piece.isComment, comment]

theorem items_value (counts : held.isComment = false) (rest : List Piece) :
    ∃ item others, items rest = item :: others ∧
      items (.token held :: rest) = (.token held :: item) :: others := by
  obtain ⟨item, others, shape⟩ := List.exists_cons_of_ne_nil (items_ne_nil rest)
  refine ⟨item, others, shape, ?_⟩
  have split : items (.token held :: rest) = (items rest).modifyHead (.token held :: ·) := by
    simp [items, List.splitOn, List.splitOnP_cons_eq_if_modifyHead, Piece.isComment, counts]
  rw [split, shape, List.modifyHead_cons]

theorem length_items (flat : Flat pieces) : (items pieces).length = pieces.count .comma + 1 := by
  induction flat with
  | nothing => rfl
  | comma _ ih => simp [items_comma, ih]
  | @token held rest _ ih =>
      by_cases comment : held.isComment = true
      · simp [items_comment comment, ih]
      · obtain ⟨item, others, shape, split⟩ := items_value (by simpa using comment) rest
        rw [shape] at ih
        simpa [split] using ih

theorem flatten_items (flat : Flat pieces) :
    (items pieces).flatten = (values pieces).map .token := by
  induction flat with
  | nothing => rfl
  | @comma rest _ ih =>
      have same : values (.comma :: rest) = values rest := rfl
      rw [items_comma, same, ← ih]
      rfl
  | @token held rest _ ih =>
      by_cases comment : held.isComment = true
      · have same : values (.token held :: rest) = values rest := by
          simp [values, Piece.token?, comment]
        rw [items_comment comment, same, ih]
      · obtain ⟨item, others, shape, split⟩ := items_value (by simpa using comment) rest
        rw [shape] at ih
        simpa [split, values, Piece.token?, comment] using ih

def innerItems (afterComma : Bool) (pieces : List Piece) : List (List Piece) :=
  (if afterComma then items pieces else (items pieces).tail).dropLast

theorem commasApart_iff (flat : Flat pieces) (afterComma : Bool) :
    commasApart afterComma pieces = true ↔ ∀ item ∈ innerItems afterComma pieces, item ≠ [] := by
  induction flat generalizing afterComma with
  | nothing => cases afterComma <;> simp [commasApart, innerItems, items]
  | @comma rest _ ih =>
      have someItem := items_ne_nil rest
      cases afterComma with
      | true =>
          simp [commasApart, innerItems, items_comma, List.dropLast_cons_of_ne_nil someItem]
      | false =>
          simpa [commasApart, innerItems, items_comma, Piece.leavesComma] using ih true
  | @token held rest _ ih =>
      by_cases comment : held.isComment = true
      · simpa [commasApart, innerItems, items_comment comment, Piece.leavesComma, comment] using
          ih afterComma
      · obtain ⟨item, others, shape, split⟩ := items_value (by simpa using comment) rest
        have later := ih false
        simp only [innerItems, shape, Bool.false_eq_true, ↓reduceIte, List.tail_cons] at later
        cases afterComma <;> cases others <;>
          simp_all [commasApart, innerItems, Piece.leavesComma]

end Items

section Counting

variable {α : Type} {lists : List (List α)}

theorem length_le_flatten (filled : ∀ list ∈ lists, list ≠ []) :
    lists.length ≤ lists.flatten.length := by
  induction lists with
  | nil => exact Nat.le_refl _
  | cons list rest ih =>
      obtain ⟨someItem, filledRest⟩ := List.forall_mem_cons.mp filled
      have first := List.length_pos_iff.mpr someItem
      have later := ih filledRest
      rw [List.flatten_cons, List.length_append, List.length_cons]
      omega

theorem eq_singletons (filled : ∀ list ∈ lists, list ≠ [])
    (count : lists.flatten.length ≤ lists.length) : lists = lists.flatten.map ([·]) := by
  induction lists with
  | nil => rfl
  | cons list rest ih =>
      obtain ⟨someItem, filledRest⟩ := List.forall_mem_cons.mp filled
      obtain ⟨first, more, rfl⟩ := List.exists_cons_of_ne_nil someItem
      have later := length_le_flatten filledRest
      rw [List.flatten_cons, List.length_append, List.length_cons, List.length_cons] at count
      have noMore : more = [] := List.length_eq_zero_iff.mp (by omega)
      have rest' := ih filledRest (by omega)
      rw [noMore, List.flatten_cons, List.singleton_append, List.map_cons, ← rest']

theorem mem_ends {list : List α} (member : list ∈ lists) :
    lists.head? = some list ∨ list ∈ lists.tail.dropLast ∨ lists.getLast? = some list := by
  cases lists with
  | nil => cases member
  | cons first rest =>
      rcases List.mem_cons.mp member with rfl | later
      · exact .inl rfl
      · have someItem : rest ≠ [] := List.ne_nil_of_mem later
        rw [← List.dropLast_concat_getLast someItem, List.mem_append, List.mem_singleton] at later
        rcases later with inner | last
        · exact .inr (.inl inner)
        · refine .inr (.inr ?_)
          rw [last, List.getLast?_cons, List.getLast?_eq_some_getLast someItem]
          rfl

end Counting

section Listings

variable {inside : List Piece}

def EndsFilled (inside : List Piece) : Prop :=
  (items inside).head? ≠ some [] ∧ (items inside).getLast? ≠ some []

theorem Listed.singles_iff (listed : Listed inside) :
    items inside = (values inside).map (fun value => [.token value]) ↔ EndsFilled inside := by
  -- With a value at both ends no item is empty, and then no item has two values, because there are
  -- only as many values as items.
  constructor
  · intro singles
    constructor
    · rw [singles, List.head?_map]
      simp
    · rw [singles, List.getLast?_map]
      simp
  · rintro ⟨firstFilled, lastFilled⟩
    have filled : ∀ item ∈ items inside, item ≠ [] := by
      rintro item member rfl
      rcases mem_ends member with first | inner | last
      · exact firstFilled first
      · exact listed.filled [] inner rfl
      · exact lastFilled last
    have flattened := flatten_items listed.flat
    have count : (items inside).flatten.length = (items inside).length := by
      rw [flattened, List.length_map, listed.count]
    rw [eq_singletons filled (Nat.le_of_eq count), flattened, List.map_map]
    rfl

end Listings

section Regions

variable {levels : Levels} {inside behind : List Piece} {commas : Nat} {tokens : List Token}

theorem Matched.flat_or_nested (matched : Matched inside commas) :
    Flat inside ∧ inside.count .comma = commas ∨ .opening ∈ inside := by
  induction matched with
  | nothing => exact .inl ⟨.nothing, rfl⟩
  | token held _ ih =>
      rcases ih with ⟨flat, count⟩ | nested
      · exact .inl ⟨.token held flat, by simpa using count⟩
      · exact .inr (List.mem_cons_of_mem _ nested)
  | comma _ ih =>
      rcases ih with ⟨flat, count⟩ | nested
      · exact .inl ⟨.comma flat, by simpa using count⟩
      · exact .inr (List.mem_cons_of_mem _ nested)
  | region => exact .inr (by simp)

theorem Flat.noOpening (flat : Flat inside) : .opening ∉ inside := by
  induction flat with
  | nothing => simp
  | token _ _ ih => simpa using ih
  | comma _ ih => simpa using ih

theorem nest?_flat (flat : Flat inside) (levels : Levels) (rest : List Piece) :
    levels.nest? (inside ++ rest) =
      (⟨levels.current.add ⟨inside.filterMap Piece.token?, inside.count .comma⟩,
        levels.outer⟩ : Levels).nest? rest := by
  induction flat generalizing levels with
  | nothing => simp [Level.add]
  | token held _ ih =>
      simp [Levels.nest?, Levels.meet, ih, Level.append, Level.add, Piece.token?]
  | comma _ ih =>
      simp [Levels.nest?, Levels.meet, ih, Level.add, List.filterMap_cons, Piece.token?,
        Nat.add_assoc, Nat.add_comm 1]

theorem close?_nested {level : Level} {closed : List Token} (closes : level.close? = some closed) :
    ∃ token ∈ closed, token.isNested = true := by
  cases Level.close?_eq_some_iff.mp closes with
  | empty | block => exact ⟨.blockStart, by simp, rfl⟩
  | literals | values => exact ⟨_, List.mem_singleton_self _, rfl⟩

/-- What a region inside has been read as stays among the tokens. -/
theorem Matched.nests (matched : Matched inside commas) {rest : List Piece}
    (nested : levels.nest? (inside ++ rest) = some tokens) :
    ∃ added,
      (⟨levels.current.add ⟨added, commas⟩, levels.outer⟩ : Levels).nest? rest = some tokens ∧
      (.opening ∈ inside → ∃ token ∈ added, token.isNested = true) := by
  induction matched generalizing levels rest with
  | nothing => exact ⟨[], by simpa [Level.add] using nested, by simp⟩
  | @token held rest' commas _ ih =>
      have met : (⟨levels.current.append [held], levels.outer⟩ : Levels).nest? (rest' ++ rest) =
          some tokens := nested
      obtain ⟨added, reads, keeps⟩ := ih met
      refine ⟨held :: added, ?_, fun opens => ?_⟩
      · simpa [Level.add, Level.append] using reads
      · obtain ⟨token, member, isNested⟩ := keeps (by simpa using opens)
        exact ⟨token, List.mem_cons_of_mem _ member, isNested⟩
  | @comma rest' commas _ ih =>
      have met : (⟨⟨levels.current.tokens, levels.current.commas + 1⟩, levels.outer⟩ : Levels).nest?
          (rest' ++ rest) = some tokens := nested
      obtain ⟨added, reads, keeps⟩ := ih met
      refine ⟨added, ?_, fun opens => keeps (by simpa using opens)⟩
      simpa [Level.add, Nat.add_assoc, Nat.add_comm 1] using reads
  | @region inside' behind' inner commas _ _ ihInside ihBehind =>
      have opened : (⟨{}, levels.current :: levels.outer⟩ : Levels).nest?
          (inside' ++ .closing :: (behind' ++ rest)) = some tokens := by
        simpa [Levels.nest?, Levels.meet] using nested
      -- The tokens inside end with the level that the region opened, and its token takes their
      -- place.
      obtain ⟨added, reads, -⟩ := ihInside opened
      obtain ⟨next, met, reads⟩ := Option.bind_eq_some_iff.mp reads
      obtain ⟨closed, closes, rfl⟩ := Option.map_eq_some_iff.mp met
      obtain ⟨token, member, isNested⟩ := close?_nested closes
      obtain ⟨more, reads, -⟩ := ihBehind reads
      refine ⟨closed ++ more, ?_, fun _ => ⟨token, List.mem_append_left _ member, isNested⟩⟩
      simpa [Level.add, Level.append] using reads

theorem close?_commas {level : Level} (someComma : 0 < level.commas)
    (unnested : ∀ token ∈ level.tokens, token.isNested = false) :
    level.close? =
      if (level.tokens.filter (!·.isComment)).length = level.commas + 1 then
        some [.ofElements (level.tokens.filter (!·.isComment))]
      else none := by
  have noneNested : (level.tokens.filter (!·.isComment)).any Token.isNested = false := by
    rw [any_nested_uncommented, List.any_eq_false]
    intro token member
    simp [unnested token member]
  simp only [Level.close?, Nat.ne_of_gt someComma, ↓reduceIte, noneNested, Bool.false_eq_true,
    false_or, ite_not]

/-- A region inside leaves a nested token, which an array literal may not have. -/
theorem nest?_nested (matched : Matched inside commas) (someComma : 0 < commas)
    (nested : .opening ∈ inside) (levels : Levels) :
    levels.nest? (.opening :: (inside ++ .closing :: behind)) = none := by
  rw [Option.eq_none_iff_forall_ne_some]
  intro tokens reads
  have opened : (⟨{}, levels.current :: levels.outer⟩ : Levels).nest?
      (inside ++ .closing :: behind) = some tokens := reads
  obtain ⟨added, reads, keeps⟩ := matched.nests opened
  obtain ⟨token, member, isNested⟩ := keeps nested
  obtain ⟨next, met, -⟩ := Option.bind_eq_some_iff.mp reads
  obtain ⟨closed, closes, -⟩ := Option.map_eq_some_iff.mp met
  have level : ({} : Level).add ⟨added, commas⟩ = ⟨added, commas⟩ := by simp [Level.add]
  rw [level] at closes
  cases Level.close?_eq_some_iff.mp closes with
  | empty noComma | literals noComma | block noComma => exact Nat.ne_of_gt someComma noComma
  | values _ unnested => simp [unnested token member] at isNested

theorem nest?_listed (flat : Flat inside) (count : inside.count .comma = commas)
    (someComma : 0 < commas) (unnested : ∀ token, .token token ∈ inside → token.isNested = false)
    (levels : Levels) :
    levels.nest? (.opening :: (inside ++ .closing :: behind)) =
      if (values inside).length = commas + 1 then
        levels.nest? (.token (.ofElements (values inside)) :: behind)
      else none := by
  have opened : levels.nest? (.opening :: (inside ++ .closing :: behind)) =
      (⟨{}, levels.current :: levels.outer⟩ : Levels).nest? (inside ++ .closing :: behind) := rfl
  have unnestedTokens : ∀ token ∈ inside.filterMap Piece.token?, token.isNested = false := by
    intro token member
    obtain ⟨piece, among, isToken⟩ := List.mem_filterMap.mp member
    cases piece with
    | token held =>
        cases isToken
        exact unnested token among
    | comma | opening | closing => cases isToken
  have closes : Level.close? ⟨inside.filterMap Piece.token?, commas⟩ =
      if (values inside).length = commas + 1 then some [.ofElements (values inside)] else none :=
    close?_commas someComma unnestedTokens
  have new : ∀ level : Level, ({} : Level).add level = level := by simp [Level.add]
  rw [opened, nest?_flat flat, count, new]
  simp only [Levels.nest?, Levels.meet, closes]
  split
  · simp
  · simp

theorem nest?_region_iff (matched : Matched inside commas) (someComma : 0 < commas)
    (unnested : ∀ token, .token token ∈ inside → token.isNested = false) (levels : Levels) :
    levels.nest? (.opening :: (inside ++ .closing :: behind)) = some tokens ↔
      Flat inside ∧ (values inside).length = (items inside).length ∧
        levels.nest? (.token (.ofElements (values inside)) :: behind) = some tokens := by
  rcases matched.flat_or_nested with ⟨flat, count⟩ | nested
  · rw [nest?_listed flat count someComma unnested, length_items flat, count]
    simp [flat]
  · rw [nest?_nested matched someComma nested]
    have notFlat : ¬ Flat inside := fun flat => flat.noOpening nested
    simp [notFlat]

end Regions

section Keeping

variable {token : Token} {tokens : List Token}

theorem close?_keeps {level : Level} (closes : level.close? = some tokens)
    (member : token ∈ level.tokens) (nested : token.isNested = true) : token ∈ tokens := by
  cases Level.close?_eq_some_iff.mp closes with
  | empty _ nothing => simp [nothing] at member
  | literals _ _ literals =>
      exact absurd nested (List.find?_eq_none.mp (literals_unnested literals).2 token member)
  | block => simp [member]
  | values _ unnested => simp [unnested token member] at nested

theorem meet_keeps {levels next : Levels} {piece : Piece} (met : levels.meet piece = some next)
    (held : levels.Holds token) (nested : token.isNested = true) : next.Holds token := by
  cases piece with
  | token added =>
      cases met
      rcases held with inside | outer
      · exact .inl (List.mem_append_left _ inside)
      · exact .inr outer
  | comma =>
      cases met
      exact held
  | opening =>
      cases met
      rcases held with inside | ⟨level, outside, member⟩
      · exact .inr ⟨_, List.mem_cons_self, inside⟩
      · exact .inr ⟨level, List.mem_cons_of_mem _ outside, member⟩
  | closing =>
      obtain ⟨parent, outer, closed, shape, closes, rfl⟩ := Levels.meet_closing met
      rw [Levels.Holds, shape] at held
      rcases held with inside | ⟨level, outside, member⟩
      · exact .inl (List.mem_append_right _ (close?_keeps closes inside nested))
      · rcases List.mem_cons.mp outside with rfl | outside
        · exact .inl (List.mem_append_left _ member)
        · exact .inr ⟨level, outside, member⟩

/-- A block mark or an array, once it is held, is among the tokens in the end. -/
theorem nest?_keeps {levels : Levels} {pieces : List Piece}
    (nest : levels.nest? pieces = some tokens) (held : levels.Holds token)
    (nested : token.isNested = true) : token ∈ tokens := by
  induction pieces generalizing levels with
  | nil =>
      obtain ⟨outermost, rfl⟩ := Levels.nest?_nil nest
      simpa [Levels.Holds, outermost] using held
  | cons piece rest ih =>
      obtain ⟨next, met, nest⟩ := Option.bind_eq_some_iff.mp nest
      exact ih nest (meet_keeps met held nested)

end Keeping

section Texts

variable {text : String} {before inside behind : List Piece} {commas : Nat} {tokens : List Token}

theorem tokenise_eq_ok_iff_secondPass {pieces : List Piece}
    (found : pieces? (characters text) = some pieces) :
    tokenise text = .ok tokens ↔ secondPass? pieces = some tokens := by
  rw [tokenise_eq_ok_iff_twoPass, twoPass?, flatten?, found, secondPass?]
  by_cases apart : commasApart false pieces = true <;> simp [Option.filter_some, apart]

theorem nest?_append_iff {levels : Levels} {rest : List Piece} :
    levels.nest? (before ++ rest) = some tokens ↔
      ∃ reached, before.foldlM Levels.meet levels = some reached ∧
        reached.nest? rest = some tokens := by
  induction before generalizing levels with
  | nil => simp
  | cons piece before ih =>
      simp only [List.cons_append, Levels.nest?, List.foldlM_cons]
      cases levels.meet piece with
      | none => simp
      | some next => simpa using ih

theorem commasApart_token (afterComma : Bool) (held : Token) (rest : List Piece) :
    commasApart afterComma (.token held :: rest) =
      commasApart (afterComma && held.isComment) rest := by
  have differ : (Piece.token held == Piece.comma) = false := rfl
  simp [commasApart, Piece.leavesComma, differ]

theorem commasApart_region (afterComma : Bool) :
    commasApart afterComma (.opening :: (inside ++ .closing :: behind)) =
      (commasApart afterComma inside && commasApart false behind) := by
  have opened : commasApart afterComma (.opening :: (inside ++ .closing :: behind)) =
      commasApart afterComma (inside ++ .closing :: behind) := by
    simp [commasApart, Piece.leavesComma]
  have differ : (Piece.closing == Piece.comma) = false := rfl
  rw [opened, commasApart_append]
  simp [commasApart, Piece.leavesComma, differ]

theorem innerItems_filled_iff (severalItems : 2 ≤ (items inside).length) (afterComma : Bool) :
    (∀ item ∈ innerItems afterComma inside, item ≠ []) ↔
      (∀ item ∈ (items inside).tail.dropLast, item ≠ []) ∧
        (afterComma = true → (items inside).head? ≠ some []) := by
  unfold innerItems
  match shape : items inside, severalItems with
  | first :: second :: others, _ =>
      cases afterComma <;> simp [and_comm]

theorem secondPass?_eq_some_iff {pieces : List Piece} :
    secondPass? pieces = some tokens ↔
      commasApart false pieces = true ∧ ({} : Levels).nest? pieces = some tokens := by
  unfold secondPass?
  split <;> simp_all

theorem apart_region_iff (matched : Matched inside commas) (someComma : 0 < commas)
    (flat : Flat inside) :
    commasApart false (before ++ .opening :: (inside ++ .closing :: behind)) = true ↔
      (∀ item ∈ (items inside).tail.dropLast, item ≠ []) ∧
        (before.foldl Piece.leavesComma false = true → (items inside).head? ≠ some []) ∧
        commasApart false (before ++ .token (.ofElements (values inside)) :: behind) = true := by
  -- A comma in front of the region still counts, as if it stood inside.
  have count : inside.count .comma = commas := by
    rcases matched.flat_or_nested with ⟨-, count⟩ | nested
    · exact count
    · exact absurd nested flat.noOpening
  have severalItems : 2 ≤ (items inside).length := by
    rw [length_items flat, count]
    omega
  have uncommented : (Token.ofElements (values inside)).isComment = false := rfl
  simp only [commasApart_append, commasApart_region, commasApart_token, uncommented,
    Bool.and_false, Bool.and_eq_true, commasApart_iff flat, innerItems_filled_iff severalItems]
  constructor
  · rintro ⟨apart, ⟨filled, behindComma⟩, apart'⟩
    exact ⟨filled, behindComma, apart, apart'⟩
  · rintro ⟨filled, behindComma, apart, apart'⟩
    exact ⟨apart, ⟨filled, behindComma⟩, apart'⟩

theorem secondPass?_region_iff (matched : Matched inside commas) (someComma : 0 < commas)
    (unnested : ∀ token, .token token ∈ inside → token.isNested = false) :
    secondPass? (before ++ .opening :: (inside ++ .closing :: behind)) = some tokens ↔
      Listed inside ∧
        (before.foldl Piece.leavesComma false = true → (items inside).head? ≠ some []) ∧
        secondPass? (before ++ .token (.ofElements (values inside)) :: behind) = some tokens := by
  rw [secondPass?_eq_some_iff, secondPass?_eq_some_iff, nest?_append_iff, nest?_append_iff]
  constructor
  · rintro ⟨apart, reached, reaches, nests⟩
    obtain ⟨flat, count, nests⟩ := (nest?_region_iff matched someComma unnested reached).mp nests
    obtain ⟨filled, behindComma, apart⟩ := (apart_region_iff matched someComma flat).mp apart
    exact ⟨⟨flat, filled, count⟩, behindComma, apart, reached, reaches, nests⟩
  · rintro ⟨⟨flat, filled, count⟩, behindComma, apart, reached, reaches, nests⟩
    exact ⟨(apart_region_iff matched someComma flat).mpr ⟨filled, behindComma, apart⟩, reached,
      reaches, (nest?_region_iff matched someComma unnested reached).mpr ⟨flat, count, nests⟩⟩

/-- A region with a comma is read as an array exactly if it has as many values as its commas ask
for, wherever they stand. They stand one in each place exactly if both ends are filled. -/
theorem tokenise_array_iff
    (found : pieces? (characters text) =
      some (before ++ .opening :: (inside ++ .closing :: behind)))
    (matched : Matched inside commas) (someComma : 0 < commas) :
    (tokenise text = .ok tokens ↔
      Listed inside ∧
        (before.foldl Piece.leavesComma false = true → (items inside).head? ≠ some []) ∧
        secondPass? (before ++ .token (.ofElements (values inside)) :: behind) = some tokens) ∧
      (tokenise text = .ok tokens →
        .ofElements (values inside) ∈ tokens ∧
          (items inside = (values inside).map (fun value => [.token value]) ↔
            EndsFilled inside)) := by
  have unnested : ∀ token, .token token ∈ inside → token.isNested = false :=
    fun token member => (piece_shaped found (by simp [member])).2
  have account : tokenise text = .ok tokens ↔ _ :=
    (tokenise_eq_ok_iff_secondPass found).trans (secondPass?_region_iff matched someComma unnested)
  refine ⟨account, fun read => ?_⟩
  obtain ⟨listed, -, reads⟩ := account.mp read
  obtain ⟨-, nests⟩ := secondPass?_eq_some_iff.mp reads
  -- Once the array stands in its level, nothing that follows takes it away.
  obtain ⟨reached, -, nests⟩ := nest?_append_iff.mp nests
  obtain ⟨next, met, nests⟩ := Option.bind_eq_some_iff.mp nests
  cases met
  have held : Levels.Holds ⟨reached.current.append [.ofElements (values inside)], reached.outer⟩
      (.ofElements (values inside)) := .inl (by simp [Level.append])
  exact ⟨nest?_keeps nests held rfl, listed.singles_iff⟩

def listing : String := "x in (('a' /* , */, -1) y)"

def listingTokens : List Token :=
  [⟨.query, "x", []⟩, ⟨.query, "in", []⟩, .blockStart,
    .ofElements [⟨.text, "a", []⟩, ⟨.number, "-1", []⟩], ⟨.query, "y", []⟩, .blockEnd]

theorem listing_items :
    tokenise listing = .ok listingTokens ∧
      items [.token ⟨.text, "a", []⟩, .token ⟨.comment, " , ", []⟩, .comma,
          .token ⟨.number, "-1", []⟩] =
        [[.token ⟨.text, "a", []⟩], [.token ⟨.number, "-1", []⟩]] := by
  have found : pieces? (characters listing) =
      some ([.token ⟨.query, "x", []⟩, .token ⟨.query, "in", []⟩, .opening] ++ .opening ::
        ([.token ⟨.text, "a", []⟩, .token ⟨.comment, " , ", []⟩, .comma,
          .token ⟨.number, "-1", []⟩] ++ .closing :: [.token ⟨.query, "y", []⟩, .closing])) := by
    decide +kernel
  have matched : Matched [.token ⟨.text, "a", []⟩, .token ⟨.comment, " , ", []⟩, .comma,
      .token ⟨.number, "-1", []⟩] 1 := .token _ (.token _ (.comma (.token _ .nothing)))
  have read : tokenise listing = .ok listingTokens := rfl
  have singles := (tokenise_array_iff found matched (by decide)).2 read
  exact ⟨read, singles.2.mpr ⟨by decide, by decide⟩⟩

/-- Two values in one place make up for the empty place behind the comma. -/
theorem crowded_item_accepted :
    tokenise "(1 2,)" = .ok [.ofElements [⟨.number, "1", []⟩, ⟨.number, "2", []⟩]] ∧
      items [.token ⟨.number, "1", []⟩, .token ⟨.number, "2", []⟩, .comma] =
        [[.token ⟨.number, "1", []⟩, .token ⟨.number, "2", []⟩], []] ∧
      tokenise "(1, 2,)" = .error ⟨.emptyItem, ⟨1, 8⟩⟩ :=
  ⟨rfl, by decide, rfl⟩

end Texts

end DocQuery.Lexing
