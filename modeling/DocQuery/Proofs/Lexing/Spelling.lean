import DocQuery.Proofs.Lexing.TwoPass

/-!
The pieces of a text in front of another text. Cutting stops where a blank, a comma or a closing
parenthesis follows, and behind a comment where the line ends (`pieces?_append`), so a text whose only token has that text as its content is
one piece there as well (`LexesAs.spells`).
-/

namespace DocQuery.Lexing

open DocQuery.Text

/-- No lexeme goes on with one of these characters, unless it is quoted or a comment. -/
def stops : List Char := [' ', '\n', ',', ')']

def Stops (chars : List Char) : Prop := ∀ c ∈ chars.head?, c ∈ stops

def EndsLine (chars : List Char) : Prop := ∀ c ∈ chars.head?, c = '\n'

theorem stops_cons {c : Char} (stop : c ∈ stops) (rest : List Char) : Stops (c :: rest) := by
  simpa [Stops] using stop

theorem Stops.outside {chars : List Char} (ends : Stops chars) {test : Char → Bool}
    (free : stops.any test = false) : ∀ c ∈ chars.head?, test c = false :=
  fun c first => all_outside free c (ends c first)

section Cuts

variable {tail : List Char}

theorem cutWhile_stops {test : Char → Bool} (outside : ∀ c ∈ tail.head?, test c = false)
    (chars : List Char) :
    cutWhile test (chars ++ tail) =
      ⟨(cutWhile test chars).taken, (cutWhile test chars).rest ++ tail⟩ := by
  induction chars with
  | nil =>
      cases tail with
      | nil => rfl
      | cons c tail => simp [cutWhile, outside c rfl]
  | cons c chars ih =>
      by_cases inside : test c = true
      · simp only [cutWhile, Cut.mk.injEq] at ih
        simp [cutWhile, inside, ih]
      · simp [cutWhile, inside]

theorem cutName_stops (ends : Stops tail) {depth : Nat} {chars : List Char} {cut : Cut}
    (found : cutName depth chars = some cut) :
    cutName depth (chars ++ tail) = some ⟨cut.taken, cut.rest ++ tail⟩ := by
  fun_induction cutName depth chars generalizing cut with
  | case1 =>
      cases found
      cases tail with
      | nil => rfl
      | cons c tail =>
          have outside : ∀ d ∈ (c :: tail).head?,
              (d == '[' || d == ']' || continuesName d) = false := ends.outside (by decide)
          have ended := outside c rfl
          simp only [Bool.or_eq_false_iff, beq_eq_false_iff_ne] at ended
          simp [cutName, ended]
  | case2 => cases found
  | case3 rest ih | case5 c rest _ _ _ ih | case8 depth rest _ ih | case9 depth rest _ _ ih
  | case10 depth c rest _ _ _ ih =>
      obtain ⟨inner, foundInner, rfl⟩ := Option.map_eq_some_iff.mp found
      simp_all [cutName, Cut.cons]
  | case4 => cases found
  | case6 => cases found; simp_all [cutName]
  | case7 => cases found

theorem cutNumber_stops (ends : Stops tail) {chars : List Char} {cut : Cut}
    (found : cutNumber chars = some cut) :
    cutNumber (chars ++ tail) = some ⟨cut.taken, cut.rest ++ tail⟩ := by
  have noDigit : ∀ c ∈ tail.head?, c.isDigit = false := ends.outside (by decide)
  have noPoint : tail.head? ≠ some '.' := by
    intro first
    exact absurd (ends '.' first) (by decide)
  unfold cutNumber at found ⊢
  simp only [cutWhile_stops noDigit] at found ⊢
  cases shape : (cutWhile Char.isDigit chars).rest with
  | nil =>
      simp only [shape] at found ⊢
      cases found
      cases tail with
      | nil => rfl
      | cons c tail =>
          simp at noPoint
          simp [noPoint]
  | cons c behind =>
      -- Behind the point the same has to be seen once more, for the digits of the fraction.
      by_cases point : c = '.'
      · subst point
        simp only [shape, List.cons_append, cutWhile_stops noDigit] at found ⊢
        split at found
        · cases found
        next single =>
          cases found
          cases fraction : (cutWhile Char.isDigit behind).rest with
          | nil => simp [noPoint]
          | cons d more => simp_all
      · simp [shape, point] at found ⊢
        simp [← found]

theorem cutQuoted_stops {quote : Char} (other : tail.head? ≠ some quote) {chars : List Char}
    {cut : Cut} (found : cutQuoted quote chars = some cut) :
    cutQuoted quote (chars ++ tail) = some ⟨cut.taken, cut.rest ++ tail⟩ := by
  fun_induction cutQuoted quote chars generalizing cut with
  | case1 => cases found
  | case2 =>
      cases found
      exact cutQuoted_closed other
  | case3 => cases found
  | case4 rest ih =>
      obtain ⟨inner, foundInner, rfl⟩ := Option.map_eq_some_iff.mp found
      simp [cutQuoted_doubled, ih foundInner, Cut.cons]
  | case5 d rest differ =>
      cases found
      exact cutQuoted_closed (by simpa using differ)
  | case6 => cases found
  | case7 c d rest different inLine ih =>
      obtain ⟨inner, foundInner, rfl⟩ := Option.map_eq_some_iff.mp found
      simp only [List.cons_append] at ih ⊢
      simp [cutQuoted_other different, inLine, ih foundInner, Cut.cons]

theorem cutBlockComment_before {chars : List Char} {cut : Cut}
    (found : cutBlockComment chars = some cut) (tail : List Char) :
    cutBlockComment (chars ++ tail) = some ⟨cut.taken, cut.rest ++ tail⟩ := by
  -- The mark that ends a block comment is read as a whole, so that nothing behind it matters.
  fun_induction cutBlockComment chars generalizing cut with
  | case1 => cases found
  | case2 rest => cases found; rfl
  | case3 c rest goesOn ih =>
      obtain ⟨inner, foundInner, rfl⟩ := Option.map_eq_some_iff.mp found
      have noMark : ∀ more, c = '*' → rest ++ tail = '/' :: more → False := by
        rintro more star slash
        cases rest with
        | nil => cases foundInner
        | cons d rest =>
            cases slash
            exact goesOn rest star rfl
      rw [List.cons_append, cutBlockComment.eq_3 _ _ noMark, ih foundInner]
      rfl

def singles : List Char := ['(', ')', ',', '\'', '"']

theorem Leads.cut {c : Char} {rest behind : List Char} {piece : Piece}
    (leads : Leads c rest piece behind) : cutPiece c rest = some (piece, behind) := by
  have minus : startsName '-' = false := rfl
  have slash : startsName '/' = false := rfl
  cases leads with
  | opening | closing | comma => rfl
  | text mark found => rcases mark with rfl | rfl <;> simp [cutPiece, found, Cut.piece]
  | name start found =>
      -- The characters that are asked for before do not start a name.
      have noSingle : c ∉ singles := not_mem_of_outside (by decide) start
      simp [singles] at noSingle
      simp [cutPiece, noSingle, start, found, Cut.piece]
  | number digit found =>
      have noStart : startsName c = false := by
        rw [startsName_eq]
        exact isDigit_not_start digit
      have noSingle : c ∉ singles := not_mem_of_outside (by decide) digit
      simp [singles] at noSingle
      simp [cutPiece, noSingle, noStart, digit, found, Cut.piece]
  | negative digit found =>
      have noMinus : ∀ d : Char, d.isDigit = true → d ≠ '-' := by
        rintro d digit rfl
        simp at digit
      simp [cutPiece, minus, inSymbol, noMinus _ digit, digit, found, Cut.piece]
  | symbol rest start =>
      have listed : c = '=' ∨ c = '<' ∨ c = '>' ∨ c = '!' := by simpa [inSymbol] using start
      rcases listed with rfl | rfl | rfl | rfl <;> rfl
  | lineComment tail mark =>
      rcases mark with rfl | rfl
      · simp [cutPiece, minus, inSymbol, Cut.piece]
      · simp [cutPiece, slash, inSymbol, Cut.piece]
  | blockComment found => simp [cutPiece, slash, inSymbol, found, Cut.piece]

def Piece.isComment : Piece → Bool
  | .token held => held.isComment
  | .comma | .opening | .closing => false

/-- A line comment at the end of a text takes in all that follows it on its line, so that a comment
needs more than a stop behind it. -/
theorem cutPiece_stops (ends : Stops tail) {c : Char} {rest behind : List Char} {piece : Piece}
    (found : cutPiece c rest = some (piece, behind))
    (endsComment : piece.isComment = true → EndsLine tail) :
    cutPiece c (rest ++ tail) = some (piece, behind ++ tail) := by
  apply Leads.cut
  cases cutPiece_leads found with
  | opening => exact .opening _
  | closing => exact .closing _
  | comma => exact .comma _
  | text mark foundCut =>
      have noQuote : tail.head? ≠ some c := by
        intro first
        rcases mark with rfl | rfl
        · exact absurd (ends _ first) (by decide)
        · exact absurd (ends _ first) (by decide)
      exact .text mark (cutQuoted_stops noQuote foundCut)
  | name start foundCut => exact .name start (cutName_stops ends foundCut)
  | number digit foundCut => exact .number digit (cutNumber_stops ends foundCut)
  | negative digit foundCut => exact .negative digit (cutNumber_stops ends foundCut)
  | symbol rest start =>
      have noSymbol : ∀ d ∈ tail.head?, inSymbol d = false := ends.outside (by decide)
      have leads := Leads.symbol (rest ++ tail) start
      rw [cutWhile_stops noSymbol] at leads
      exact leads
  | lineComment rest mark =>
      have endsLine : ∀ d ∈ tail.head?, (d != '\n') = false := by
        intro d first
        simp [endsComment rfl d first]
      have leads := Leads.lineComment (rest ++ tail) mark
      rw [cutWhile_stops endsLine] at leads
      exact leads
  | blockComment foundCut => exact .blockComment (cutBlockComment_before foundCut tail)

end Cuts

section Texts

theorem pieces_of_tokenise {text : String} {tokens : List Token}
    (read : tokenise text = .ok tokens) :
    ∃ pieces, pieces? (characters text) = some pieces ∧ commasApart false pieces = true ∧
      ({} : Levels).nest? pieces = some tokens := by
  have passes := toOption_eq_some_iff.mpr read
  rw [toOption_tokenise] at passes
  obtain ⟨pieces, flat, nested⟩ := Option.bind_eq_some_iff.mp passes
  obtain ⟨found, apart⟩ := Option.filter_eq_some_iff.mp flat
  exact ⟨pieces, found, apart, nested⟩

theorem pieces?_blank {c : Char} (blank : isBlank c = true) (rest : List Char) :
    pieces? (c :: rest) = pieces? rest := by
  rw [pieces?, if_pos blank]

theorem pieces?_solid {c : Char} (solid : isBlank c = false) {rest behind : List Char}
    {piece : Piece} (found : cutPiece c rest = some (piece, behind)) :
    pieces? (c :: rest) = (pieces? behind).map (piece :: ·) := by
  rw [pieces?, if_neg (by simp [solid])]
  split
  · simp_all
  · simp_all

/-- A text keeps its pieces in front of a stop, whatever comes after. -/
theorem pieces?_append {chars tail : List Char} (ends : Stops tail) {pieces : List Piece}
    (found : pieces? chars = some pieces)
    (endsComments : ∀ piece ∈ pieces, piece.isComment = true → EndsLine tail) :
    pieces? (chars ++ tail) = (pieces? tail).map (pieces ++ ·) := by
  fun_induction pieces? chars generalizing pieces with
  | case1 =>
      cases found
      simp
  | case2 c rest blank ih =>
      rw [List.cons_append, pieces?_blank blank]
      exact ih found endsComments
  | case3 => cases found
  | case4 c rest solid piece behind foundPiece ih =>
      obtain ⟨more, foundMore, rfl⟩ := Option.map_eq_some_iff.mp found
      have first := cutPiece_stops ends foundPiece (endsComments piece (by simp))
      rw [List.cons_append, pieces?_solid (by simpa using solid) first,
        ih foundMore (List.forall_mem_cons.mp endsComments).2]
      simp [Function.comp_def]

end Texts

section Origins

def Levels.Holds (levels : Levels) (token : Token) : Prop :=
  token ∈ levels.current.tokens ∨ ∃ level ∈ levels.outer, token ∈ level.tokens

variable {token : Token}

theorem close?_origin {level : Level} {tokens : List Token} (closed : level.close? = some tokens)
    (member : token ∈ tokens) (flat : token.isNested = false) : token ∈ level.tokens := by
  cases Level.close?_eq_some_iff.mp closed with
  | empty => simp_all [Token.blockStart, Token.isNested]
  | literals | values => simp_all [Token.ofElements, Token.isNested]
  | block =>
      simp only [List.cons_append, List.mem_cons, List.mem_append, List.not_mem_nil,
        or_false] at member
      rcases member with rfl | inside | rfl
      · cases flat
      · exact inside
      · cases flat

theorem meet_origin {levels next : Levels} {piece : Piece} (met : levels.meet piece = some next)
    (held : next.Holds token) (flat : token.isNested = false) :
    levels.Holds token ∨ piece = .token token := by
  cases piece with
  | token added =>
      cases met
      rcases held with member | outer
      · rcases List.mem_append.mp member with old | new
        · exact .inl (.inl old)
        · exact .inr (by rw [List.mem_singleton.mp new])
      · exact .inl (.inr outer)
  | comma =>
      cases met
      exact .inl held
  | opening =>
      cases met
      rcases held with inside | ⟨level, outside, member⟩
      · cases inside
      · rcases List.mem_cons.mp outside with rfl | outside
        · exact .inl (.inl member)
        · exact .inl (.inr ⟨level, outside, member⟩)
  | closing =>
      -- Closing makes new tokens, but a flat one among them was there before.
      obtain ⟨parent, outer, tokens, shape, closed, rfl⟩ := Levels.meet_closing met
      rw [Levels.Holds, shape]
      rcases held with member | ⟨level, outside, member⟩
      · rcases List.mem_append.mp member with old | new
        · exact .inl (.inr ⟨parent, List.mem_cons_self, old⟩)
        · exact .inl (.inl (close?_origin closed new flat))
      · exact .inl (.inr ⟨level, List.mem_cons_of_mem _ outside, member⟩)

theorem nest?_origin {levels : Levels} {pieces : List Piece} {tokens : List Token}
    (nested : levels.nest? pieces = some tokens) (member : token ∈ tokens)
    (flat : token.isNested = false) : levels.Holds token ∨ .token token ∈ pieces := by
  induction pieces generalizing levels with
  | nil =>
      obtain ⟨-, rfl⟩ := Levels.nest?_nil nested
      exact .inl (.inl member)
  | cons piece rest ih =>
      obtain ⟨next, met, nested⟩ := Option.bind_eq_some_iff.mp nested
      rcases ih nested with held | later
      · rcases meet_origin met held flat with old | rfl
        · exact .inl old
        · exact .inr List.mem_cons_self
      · exact .inr (List.mem_cons_of_mem _ later)

/-- Every piece is cut at some place of the text. -/
theorem piece_origin {chars : List Char} {pieces : List Piece} {piece : Piece}
    (found : pieces? chars = some pieces) (member : piece ∈ pieces) :
    ∃ before c rest behind, chars = before ++ c :: rest ∧ isBlank c = false ∧
      cutPiece c rest = some (piece, behind) := by
  fun_induction pieces? chars generalizing pieces with
  | case1 =>
      cases found
      cases member
  | case2 c rest blank ih =>
      obtain ⟨before, d, more, behind, rfl, solid, cut⟩ := ih found member
      exact ⟨c :: before, d, more, behind, rfl, solid, cut⟩
  | case3 => cases found
  | case4 c rest solid first behind foundPiece ih =>
      obtain ⟨more, foundMore, rfl⟩ := Option.map_eq_some_iff.mp found
      rcases List.mem_cons.mp member with rfl | member
      · exact ⟨[], c, rest, behind, rfl, by simpa using solid, foundPiece⟩
      · obtain ⟨before, d, tail, last, shape, inside, cut⟩ := ih foundMore member
        obtain ⟨taken, rfl⟩ := (cutPiece_leads foundPiece).suffix
        exact ⟨c :: taken ++ before, d, tail, last, by simp [shape], inside, cut⟩

end Origins

section Bare

/-- Tokens of these kinds have the text they are read from as their content. -/
def isBare (kind : TokenKind) : Bool := kind == .query || kind == .operator || kind == .number

theorem Leads.written {c : Char} {rest behind : List Char} {token : Token}
    (leads : Leads c rest (.token token) behind) (bare : isBare token.kind = true) :
    token.content.toList ++ behind = c :: rest := by
  cases leads with
  | text | lineComment | blockComment => cases bare
  | name _ found => simp [nameToken, cutName_append found]
  | number _ found => simp [tokenOf, cutNumber_append found]
  | negative _ found => simp [tokenOf, cutNumber_append found]
  | symbol rest start => simp [tokenOf, cutWhile_append]

def LexesAs (text : String) (kind : TokenKind) : Prop :=
  tokenise text = .ok [{ kind, content := text }]

theorem LexesAs.pieces {text : String} {kind : TokenKind} (lexes : LexesAs text kind)
    (bare : isBare kind = true) :
    characters text = text.toList ∧
      pieces? text.toList = some [.token { kind, content := text }] := by
  -- Whatever else the text held, a comma, a blank or a carriage return, would make it longer than
  -- the content of its token.
  obtain ⟨pieces, found, -, nested⟩ := pieces_of_tokenise lexes
  have held := nest?_origin nested List.mem_cons_self (by
    cases kind <;> simp_all [isBare, Token.isNested])
  have member : .token { kind, content := text } ∈ pieces := by
    simpa [Levels.Holds] using held
  obtain ⟨before, c, rest, behind, shape, solid, cut⟩ := piece_origin found member
  have written := (cutPiece_leads cut).written bare
  have shorter : (characters text).length ≤ text.toList.length := List.length_filter_le _ _
  have lengths : before.length = 0 ∧ behind.length = 0 := by
    rw [shape, ← written] at shorter
    simp at shorter
    omega
  obtain ⟨rfl, rfl⟩ : before = [] ∧ behind = [] := by simpa using lengths
  have same : text.toList = c :: rest := by simpa using written
  refine ⟨by rw [shape, same]; rfl, ?_⟩
  rw [same, pieces?_solid solid cut]
  simp [pieces?]

end Bare

end DocQuery.Lexing
