import DocQuery.Proofs.Lexing.Lexemes

/-!
The nesting of flat pieces. `Levels.nest?` matches the parentheses among them and turns what stands
between two of them into an array literal or a block. Its levels are those of the machine, so that
the two can be compared at every place of a text.
-/

namespace DocQuery.Lexing

open DocQuery.Text

/-- The tokens of a region in parentheses. A comma makes it an array literal, which has one value
more than commas, none of them nested. Without commas it is an array literal if it holds literals
and nothing else, and a block otherwise; an empty block has no end. -/
def Level.close? (level : Level) : Option (List Token) :=
  if level.commas = 0 then
    if level.tokens = [] then some [.blockStart]
    else if level.tokens.all Token.isLiteral then some [.ofElements level.tokens]
    else some (.blockStart :: level.tokens ++ [.blockEnd])
  else
    let values := level.tokens.filter (!·.isComment)
    if values.any Token.isNested ∨ values.length ≠ level.commas + 1 then none
    else some [.ofElements values]

def Level.append (level : Level) (tokens : List Token) : Level :=
  { level with tokens := level.tokens ++ tokens }

def Levels.meet (levels : Levels) : Piece → Option Levels
  | .token token => some { levels with current := levels.current.append [token] }
  | .comma => some { levels with current.commas := levels.current.commas + 1 }
  | .opening => some ⟨{}, levels.current :: levels.outer⟩
  | .closing =>
      match levels.outer with
      | [] => none
      | parent :: outer => levels.current.close?.map fun tokens => ⟨parent.append tokens, outer⟩

def Levels.nest? (levels : Levels) : List Piece → Option (List Token)
  | [] => if levels.outer = [] then some levels.current.tokens else none
  | piece :: rest => (levels.meet piece).bind (·.nest? rest)

section Closing

theorem nested_not_comment {token : Token} (nested : token.isNested = true) :
    token.isComment = false := by
  simp only [Token.isNested, Bool.or_eq_true, beq_iff_eq] at nested
  rcases nested with kind | kind <;> simp [Token.isComment, kind]

/-- An array literal is judged without its comments, and none of them is nested. -/
theorem any_nested_uncommented (tokens : List Token) :
    (tokens.filter (!·.isComment)).any Token.isNested = tokens.any Token.isNested := by
  rw [Bool.eq_iff_iff, List.any_eq_true, List.any_eq_true]
  constructor
  · rintro ⟨token, member, nested⟩
    exact ⟨token, (List.mem_filter.mp member).1, nested⟩
  · rintro ⟨token, member, nested⟩
    exact ⟨token, List.mem_filter.mpr ⟨member, by simp [nested_not_comment nested]⟩, nested⟩

theorem literals_unnested {tokens : List Token} (literals : tokens.all Token.isLiteral = true) :
    tokens.filter (!·.isComment) = tokens ∧ tokens.find? Token.isNested = none := by
  have each : ∀ token ∈ tokens, token.kind = .text ∨ token.kind = .number := by
    intro token member
    simpa [Token.isLiteral] using List.all_eq_true.mp literals token member
  constructor
  · rw [List.filter_eq_self]
    intro token member
    rcases each token member with kind | kind <;> simp [Token.isComment, kind]
  · rw [List.find?_eq_none]
    intro token member
    rcases each token member with kind | kind <;> simp [Token.isNested, kind]

inductive Level.Closes (level : Level) : List Token → Prop where
  | empty (noComma : level.commas = 0) (nothing : level.tokens = []) : level.Closes [.blockStart]
  | literals (noComma : level.commas = 0) (something : level.tokens ≠ [])
      (literals : level.tokens.all Token.isLiteral = true) :
      level.Closes [.ofElements level.tokens]
  | block (noComma : level.commas = 0) (something : level.tokens ≠ [])
      (mixed : ¬ level.tokens.all Token.isLiteral = true) :
      level.Closes (.blockStart :: level.tokens ++ [.blockEnd])
  | values (someComma : level.commas ≠ 0)
      (unnested : ∀ token ∈ level.tokens, token.isNested = false)
      (count : (level.tokens.filter (!·.isComment)).length = level.commas + 1) :
      level.Closes [.ofElements (level.tokens.filter (!·.isComment))]

theorem Level.close?_eq_some_iff {level : Level} {tokens : List Token} :
    level.close? = some tokens ↔ level.Closes tokens := by
  constructor
  · intro closed
    unfold Level.close? at closed
    split at closed
    next noComma =>
      split at closed
      next nothing =>
        cases closed
        exact .empty noComma nothing
      next something =>
      split at closed
      next literals =>
        cases closed
        exact .literals noComma something literals
      next mixed =>
        cases closed
        exact .block noComma something mixed
    next someComma =>
      -- Comments are left out before values are counted, and a nested value is no comment.
      simp only [any_nested_uncommented] at closed
      split at closed
      · cases closed
      next plain =>
        cases closed
        simp only [not_or, Bool.not_eq_true, List.any_eq_false, Decidable.not_not] at plain
        exact .values someComma plain.1 plain.2
  · intro closes
    cases closes with
    | empty noComma nothing => simp [Level.close?, noComma, nothing]
    | literals noComma something literals => simp [Level.close?, noComma, something, literals]
    | block noComma something mixed => simp [Level.close?, noComma, something, mixed]
    | values someComma unnested count =>
        simpa [Level.close?, someComma, count] using fun token member _ => unnested token member

theorem Levels.meet_closing {levels next : Levels} (met : levels.meet .closing = some next) :
    ∃ parent outer closed, levels.outer = parent :: outer ∧
      levels.current.close? = some closed ∧ next = ⟨parent.append closed, outer⟩ := by
  simp only [Levels.meet] at met
  split at met
  · cases met
  next parent outer shape =>
    obtain ⟨closed, closes, rfl⟩ := Option.map_eq_some_iff.mp met
    exact ⟨parent, outer, closed, shape, closes, rfl⟩

theorem Levels.nest?_nil {levels : Levels} {tokens : List Token}
    (nested : levels.nest? [] = some tokens) :
    levels.outer = [] ∧ levels.current.tokens = tokens := by
  simp only [Levels.nest?] at nested
  split at nested
  next outermost => exact ⟨outermost, Option.some.inj nested⟩
  next => cases nested

theorem Level.close?_eq_emit (level : Level) :
    level.close? = (Frame.emit level.tokens level.commas).toOption := by
  unfold Level.close? Frame.emit
  by_cases noComma : level.commas = 0
  · by_cases empty : level.tokens = []
    · simp [noComma, empty, Except.toOption]
    · by_cases literals : level.tokens.all Token.isLiteral = true
      · obtain ⟨same, unnested⟩ := literals_unnested literals
        simp [noComma, empty, literals, same, unnested, Except.toOption]
      · simp [noComma, empty, literals, Except.toOption]
  · have someComma : 0 < level.commas := Nat.pos_of_ne_zero noComma
    simp only [noComma, someComma, ↓reduceIte, true_or, and_true]
    cases nested : (level.tokens.filter (!·.isComment)).find? Token.isNested with
    | some token =>
        have any : (level.tokens.filter (!·.isComment)).any Token.isNested = true :=
          List.any_eq_true.mpr ⟨token, List.mem_of_find?_eq_some nested,
            List.find?_some nested⟩
        simp only [any, true_or, ↓reduceIte, Except.toOption]
    | none =>
        have notAny : (level.tokens.filter (!·.isComment)).any Token.isNested = false := by
          rw [List.any_eq_false]
          exact List.find?_eq_none.mp nested
        simp only [notAny, Bool.false_eq_true, false_or]
        split <;> rfl

def Level.Plain (level : Level) : Prop := ∀ token ∈ level.tokens, token.kind ≠ .delimiter

def Levels.Plain (levels : Levels) : Prop :=
  levels.current.Plain ∧ ∀ level ∈ levels.outer, level.Plain

theorem Level.collect_plain (level : Level) {tokens : List Token}
    (plain : ∀ token ∈ tokens, token.kind ≠ .delimiter) :
    level.collect tokens = level.append tokens := by
  have kept : tokens.filter (·.kind != .delimiter) = tokens := by
    rw [List.filter_eq_self]
    intro token member
    simpa using plain token member
  have uncounted : tokens.filter (·.kind == .delimiter) = [] := by
    rw [List.filter_eq_nil_iff]
    intro token member
    simpa using plain token member
  simp only [Level.collect, Level.append, kept, uncounted, List.length_nil, Nat.add_zero]

theorem Level.append_plain {level : Level} (plain : level.Plain) {tokens : List Token}
    (added : ∀ token ∈ tokens, token.kind ≠ .delimiter) : (level.append tokens).Plain := by
  intro token member
  rcases List.mem_append.mp member with old | new
  · exact plain token old
  · exact added token new

theorem Level.close?_plain {level : Level} (plain : level.Plain) {tokens : List Token}
    (closed : level.close? = some tokens) : ∀ token ∈ tokens, token.kind ≠ .delimiter := by
  cases Level.close?_eq_some_iff.mp closed with
  | empty => simp [Token.blockStart]
  | literals | values => simp [Token.ofElements]
  | block =>
      intro token member
      simp only [List.cons_append, List.mem_cons, List.mem_append, List.not_mem_nil,
        or_false] at member
      rcases member with rfl | inside | rfl
      · simp [Token.blockStart]
      · exact plain token inside
      · simp [Token.blockEnd]

def Piece.Plain : Piece → Prop
  | .token held => held.kind ≠ .delimiter
  | .comma | .opening | .closing => True

theorem Leads.plain {c : Char} {rest behind : List Char} {piece : Piece}
    (leads : Leads c rest piece behind) : piece.Plain := by
  cases leads with
  | opening | closing | comma => trivial
  | name =>
      simp only [Piece.Plain, nameToken]
      split <;> simp
  | text | number | negative | symbol | lineComment | blockComment =>
      simp [Piece.Plain, tokenOf]

theorem Levels.meet_plain {levels next : Levels} (plain : levels.Plain) {piece : Piece}
    (plainPiece : piece.Plain) (met : levels.meet piece = some next) : next.Plain := by
  obtain ⟨current, outer⟩ := plain
  cases piece with
  | token held =>
      cases met
      exact ⟨Level.append_plain current (by simpa [Piece.Plain] using plainPiece), outer⟩
  | comma =>
      cases met
      exact ⟨current, outer⟩
  | opening =>
      cases met
      refine ⟨by simp [Level.Plain], ?_⟩
      intro level member
      rcases List.mem_cons.mp member with rfl | member
      · exact current
      · exact outer level member
  | closing =>
      obtain ⟨parent, rest, tokens, shape, closed, rfl⟩ := Levels.meet_closing met
      rw [shape] at outer
      refine ⟨?_, fun level member => outer level (List.mem_cons_of_mem _ member)⟩
      exact Level.append_plain (outer parent List.mem_cons_self)
        (Level.close?_plain current closed)

end Closing

end DocQuery.Lexing
