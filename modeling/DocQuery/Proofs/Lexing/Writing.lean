import DocQuery.Proofs.Lexing.Spelling

/-!
Texts put together from the texts of their tokens. `Writes` says what a text adds to the region it
stands in, wherever that is, and for each way in which texts are put together there is one theorem:
blanks between them, commas, and parentheses around them.
-/

namespace DocQuery.Lexing

open DocQuery.Text

section Pieces

def Level.add (level added : Level) : Level :=
  ⟨level.tokens ++ added.tokens, level.commas + added.commas⟩

theorem commasApart_append (afterComma : Bool) (first second : List Piece) :
    commasApart afterComma (first ++ second) =
      (commasApart afterComma first &&
        commasApart (first.foldl Piece.leavesComma afterComma) second) := by
  induction first generalizing afterComma with
  | nil => simp [commasApart]
  | cons piece rest ih => simp [commasApart, ih, Bool.and_assoc]

/-- What pieces add to the region they stand in. They have no comma at an end, so that others may
stand around them. -/
structure Makes (pieces : List Piece) (level : Level) : Prop where
  apart : commasApart false pieces = true
  settled : pieces.foldl Piece.leavesComma false = false
  nests : ∀ (levels : Levels) (rest : List Piece), levels.nest? (pieces ++ rest) =
    (⟨levels.current.add level, levels.outer⟩ : Levels).nest? rest

theorem Makes.append {first second : List Piece} {level level' : Level}
    (makes : Makes first level) (makes' : Makes second level') :
    Makes (first ++ second) (level.add level') where
  apart := by rw [commasApart_append, makes.apart, makes.settled, makes'.apart]; rfl
  settled := by rw [List.foldl_append, makes.settled, makes'.settled]
  nests levels rest := by
    rw [List.append_assoc, makes.nests, makes'.nests]
    simp [Level.add, Nat.add_assoc]

theorem makes_nothing : Makes [] {} :=
  ⟨rfl, rfl, fun levels rest => by simp [Level.add]⟩

theorem makes_token (token : Token) : Makes [.token token] ⟨[token], 0⟩ where
  apart := by simp [commasApart]
  settled := by simp [Piece.leavesComma]
  nests levels rest := by simp [Levels.nest?, Levels.meet, Level.append, Level.add]

theorem makes_tokens (tokens : List Token) : Makes (tokens.map .token) ⟨tokens, 0⟩ := by
  induction tokens with
  | nil => exact makes_nothing
  | cons token rest ih => exact (makes_token token).append ih

theorem makes_comma_token {token : Token} (counts : token.isComment = false) :
    Makes [.comma, .token token] ⟨[token], 1⟩ where
  apart := by simp [commasApart]
  settled := by simp [Piece.leavesComma, counts]
  nests levels rest := by simp [Levels.nest?, Levels.meet, Level.append, Level.add]

theorem makes_enclosed {pieces : List Piece} {level : Level} (makes : Makes pieces level)
    {tokens : List Token} (closed : level.close? = some tokens) :
    Makes (.opening :: pieces ++ [.closing]) ⟨tokens, 0⟩ where
  apart := by
    have inside : commasApart false (pieces ++ [.closing]) = true := by
      rw [commasApart_append, makes.apart, makes.settled]
      rfl
    simpa [commasApart, Piece.leavesComma] using inside
  settled := by simp [Piece.leavesComma]
  nests levels rest := by
    simp [Levels.nest?, Levels.meet, makes.nests, closed, Level.append, Level.add]

theorem Makes.nest_eq {pieces : List Piece} {level : Level} (makes : Makes pieces level) :
    ({} : Levels).nest? pieces = some level.tokens := by
  have nests := makes.nests {} []
  simpa [Levels.nest?, Level.add] using nests

end Pieces

section Texts

def Cuts (chars : List Char) (pieces : List Piece) : Prop :=
  ∀ tail, Stops tail → pieces? (chars ++ tail) = (pieces? tail).map (pieces ++ ·)

theorem Cuts.found {chars : List Char} {pieces : List Piece} (cuts : Cuts chars pieces) :
    pieces? chars = some pieces := by
  have alone := cuts [] (by simp [Stops])
  simpa [pieces?] using alone

theorem cuts_of_pieces {chars : List Char} {pieces : List Piece}
    (found : pieces? chars = some pieces) (counts : ∀ piece ∈ pieces, piece.isComment = false) :
    Cuts chars pieces := by
  intro tail ends
  refine pieces?_append ends found fun piece member comment => ?_
  simp [counts piece member] at comment

theorem Cuts.append {first second : List Char} {pieces pieces' : List Piece}
    (cuts : Cuts first pieces) (cuts' : Cuts second pieces') (ends : Stops second) :
    Cuts (first ++ second) (pieces ++ pieces') := by
  intro tail endsTail
  have endsBoth : Stops (second ++ tail) := by
    cases second with
    | nil => exact endsTail
    | cons c second => exact ends
  rw [List.append_assoc, cuts _ endsBoth, cuts' _ endsTail]
  simp [Function.comp_def]

theorem Cuts.enclosed {chars : List Char} {pieces : List Piece} (cuts : Cuts chars pieces) :
    Cuts ('(' :: chars ++ [')']) (.opening :: pieces ++ [.closing]) := by
  intro tail _
  have shut : pieces? (')' :: tail) = (pieces? tail).map (.closing :: ·) :=
    pieces?_solid (by decide) (by rfl)
  have inside : pieces? (chars ++ ')' :: tail) =
      (pieces? tail).map fun rest => pieces ++ .closing :: rest := by
    rw [cuts _ (stops_cons (by decide) tail), shut, Option.map_map]
    rfl
  rw [List.append_assoc, List.singleton_append, List.cons_append,
    pieces?_solid (by decide) (by rfl), inside, Option.map_map]
  simp [Function.comp_def]

/-- What a text adds to the region it stands in, whatever stands before it and whatever stop
behind it. -/
structure Adds (chars : List Char) (level : Level) : Prop where
  plain : '\r' ∉ chars
  makes : ∃ pieces, Cuts chars pieces ∧ Makes pieces level

theorem characters_plain {text : String} (plain : '\r' ∉ text.toList) :
    characters text = text.toList := by
  rw [characters, List.filter_eq_self]
  intro c member
  have other : c ≠ '\r' := by
    rintro rfl
    exact plain member
  simpa using other

theorem Adds.tokenise_eq {text : String} {level : Level} (adds : Adds text.toList level) :
    tokenise text = .ok level.tokens := by
  obtain ⟨plain, pieces, cuts, makes⟩ := adds
  rw [← toOption_eq_some_iff, toOption_tokenise, characters_plain plain, twoPass?, flatten?, cuts.found]
  simp [Option.filter_some, makes.apart, makes.nest_eq]

theorem Adds.append {first second : List Char} {level level' : Level}
    (adds : Adds first level) (adds' : Adds second level') (ends : Stops second) :
    Adds (first ++ second) (level.add level') := by
  obtain ⟨plain, pieces, cuts, makes⟩ := adds
  obtain ⟨plain', pieces', cuts', makes'⟩ := adds'
  exact ⟨by simp [plain, plain'], pieces ++ pieces', cuts.append cuts' ends,
    makes.append makes'⟩

theorem adds_nothing : Adds [] {} :=
  ⟨by simp, [], fun tail _ => by simp, makes_nothing⟩

/-- A blank in front of a text adds nothing to it. -/
theorem adds_blank_cons {chars : List Char} {level : Level} :
    Adds (' ' :: chars) level ↔ Adds chars level := by
  have same : ∀ pieces, Cuts (' ' :: chars) pieces ↔ Cuts chars pieces := by
    intro pieces
    simp only [Cuts, List.cons_append, pieces?_blank (by decide : isBlank ' ' = true)]
  constructor
  · rintro ⟨plain, pieces, cuts, makes⟩
    exact ⟨by simpa using plain, pieces, (same pieces).mp cuts, makes⟩
  · rintro ⟨plain, pieces, cuts, makes⟩
    exact ⟨by simpa using plain, pieces, (same pieces).mpr cuts, makes⟩

theorem Adds.enclosed {chars : List Char} {level : Level} (adds : Adds chars level)
    {tokens : List Token} (closed : level.close? = some tokens) :
    Adds ('(' :: chars ++ [')']) ⟨tokens, 0⟩ := by
  obtain ⟨plain, pieces, cuts, makes⟩ := adds
  exact ⟨by simp [plain], .opening :: pieces ++ [.closing], cuts.enclosed,
    makes_enclosed makes closed⟩

structure Writes (chars : List Char) (level : Level) : Prop extends Adds chars level where
  counts : ∀ token ∈ level.tokens, token.isComment = false

theorem Writes.append {first second : List Char} {level level' : Level}
    (writes : Writes first level) (writes' : Writes second level') (ends : Stops second) :
    Writes (first ++ second) (level.add level') := by
  refine ⟨writes.toAdds.append writes'.toAdds ends, ?_⟩
  intro token member
  rcases List.mem_append.mp member with before | behind
  · exact writes.counts token before
  · exact writes'.counts token behind

theorem Writes.blank {chars : List Char} {level : Level} (writes : Writes chars level) :
    Writes (' ' :: chars) level :=
  ⟨adds_blank_cons.mpr writes.toAdds, writes.counts⟩

theorem Writes.spaced {first second : List Char} {level level' : Level}
    (writes : Writes first level) (writes' : Writes second level') :
    Writes (first ++ ' ' :: second) (level.add level') :=
  writes.append writes'.blank (stops_cons (by decide) _)

theorem Writes.enclosed {chars : List Char} {level : Level} (writes : Writes chars level)
    {tokens : List Token} (closed : level.close? = some tokens) :
    Writes ('(' :: chars ++ [')']) ⟨tokens, 0⟩ := by
  refine ⟨writes.toAdds.enclosed closed, ?_⟩
  intro token member
  by_cases nested : token.isNested = true
  · exact nested_not_comment nested
  · exact writes.counts token (close?_origin closed member (by simpa using nested))

end Texts

section Tokens

structure Spells (chars : List Char) (token : Token) : Prop where
  plain : '\r' ∉ chars
  found : pieces? chars = some [.token token]
  counts : token.isComment = false

theorem Spells.writes {chars : List Char} {token : Token} (spells : Spells chars token) :
    Writes chars ⟨[token], 0⟩ where
  plain := spells.plain
  makes := ⟨_, cuts_of_pieces spells.found (by simpa [Piece.isComment] using spells.counts),
    makes_token token⟩
  counts := by simpa using spells.counts

theorem Spells.afterComma {chars : List Char} {token : Token} (spells : Spells chars token) :
    Writes (',' :: ' ' :: chars) ⟨[token], 1⟩ := by
  have found : pieces? (',' :: ' ' :: chars) = some [.comma, .token token] := by
    rw [pieces?_solid (by decide) (by rfl), pieces?_blank (by decide), spells.found]
    rfl
  have cuts := cuts_of_pieces found (by simpa [Piece.isComment] using spells.counts)
  exact ⟨⟨by simp [spells.plain], _, cuts, makes_comma_token spells.counts⟩,
    by simpa using spells.counts⟩

theorem source_bare {token : Token} (bare : isBare token.kind = true) :
    token.source = token.content := by
  obtain ⟨kind, content, elements⟩ := token
  cases kind with
  | query | operator | number => rfl
  | text | block | comment | array | delimiter => cases bare

theorem LexesAs.spells {text : String} {kind : TokenKind} (lexes : LexesAs text kind)
    (bare : isBare kind = true) : Spells text.toList { kind, content := text } := by
  obtain ⟨whole, found⟩ := lexes.pieces bare
  refine ⟨?_, found, ?_⟩
  · rw [← whole]
    simp [characters]
  · cases kind <;> simp_all [isBare, Token.isComment]

theorem cutQuoted_doubleQuotes {content : List Char} (line : '\n' ∉ content) :
    cutQuoted '\'' (Token.doubleQuotes content ++ ['\'']) = some ⟨content, []⟩ := by
  induction content with
  | nil => rfl
  | cons c rest ih =>
      simp only [List.mem_cons, not_or] at line
      by_cases quote : c = '\''
      · subst quote
        have doubled : Token.doubleQuotes ('\'' :: rest) =
            '\'' :: '\'' :: Token.doubleQuotes rest := rfl
        simp only [doubled, List.cons_append, cutQuoted_doubled, ih line.2]
        rfl
      · have single : Token.doubleQuotes (c :: rest) = c :: Token.doubleQuotes rest := by
          simp [Token.doubleQuotes, quote]
        have inLine : c ≠ '\n' := fun same => line.1 same.symm
        simp only [single, List.cons_append, cutQuoted_other quote, inLine, ↓reduceIte, ih line.2]
        rfl

theorem mem_of_mem_doubleQuotes {content : List Char} {c : Char}
    (member : c ∈ Token.doubleQuotes content) : c ∈ content := by
  obtain ⟨d, inside, written⟩ := List.mem_flatMap.mp member
  by_cases quote : d = '\''
  · simp only [quote, ↓reduceIte, List.mem_cons, List.not_mem_nil, or_false, or_self] at written
    rw [written, ← quote]
    exact inside
  · simp only [quote, ↓reduceIte, List.mem_singleton] at written
    rw [written]
    exact inside

theorem spells_text {content : String} (line : '\n' ∉ content.toList)
    (plain : '\r' ∉ content.toList) :
    Spells (Token.source { kind := .text, content }).toList { kind := .text, content } where
  plain := by
    intro member
    simp only [Token.source, String.toList_ofList, List.mem_cons, List.mem_append,
      List.not_mem_nil, or_false, Char.reduceEq, false_or] at member
    exact plain (mem_of_mem_doubleQuotes member)
  found := by
    have cut : cutPiece '\'' (Token.doubleQuotes content.toList ++ ['\'']) =
        some (.token { kind := .text, content }, []) := by
      simp [cutPiece, cutQuoted_doubleQuotes line, Cut.piece, tokenOf]
    simp only [Token.source, String.toList_ofList]
    rw [pieces?_solid (by decide) cut]
    simp [pieces?]
  counts := rfl

theorem intercalate_cons (separator first : String) (rest : List String) :
    separator.intercalate (first :: rest) =
      first ++ String.join (rest.map (separator ++ ·)) := by
  induction rest generalizing first with
  | nil => simp
  | cons next rest ih => simp [ih, String.append_assoc]

theorem stops_following (tokens : List Token) :
    Stops (String.join (tokens.map fun token => ", " ++ token.source)).toList := by
  cases tokens with
  | nil => simp [Stops]
  | cons token rest => simp [Stops, stops]

theorem writes_following {tokens : List Token}
    (spelled : ∀ token ∈ tokens, Spells token.source.toList token) :
    Writes (String.join (tokens.map fun token => ", " ++ token.source)).toList
      ⟨tokens, tokens.length⟩ := by
  induction tokens with
  | nil => exact ⟨adds_nothing, by simp⟩
  | cons token rest ih =>
      have writes := (spelled token (by simp)).afterComma.append
        (ih (List.forall_mem_cons.mp spelled).2) (stops_following rest)
      simpa [Level.add, Nat.add_comm] using writes

/-- Tokens with commas between them. -/
theorem writes_list {first : Token} {rest : List Token}
    (spelled : ∀ token ∈ first :: rest, Spells token.source.toList token) :
    Writes (", ".intercalate ((first :: rest).map Token.source)).toList
      ⟨first :: rest, rest.length⟩ := by
  have writes := (spelled first (by simp)).writes.append
    (writes_following (List.forall_mem_cons.mp spelled).2) (stops_following rest)
  rw [List.map_cons, intercalate_cons, String.toList_append, List.map_map]
  simpa [Level.add, Function.comp_def] using writes

theorem Leads.unnested {c : Char} {rest behind : List Char} {token : Token}
    (leads : Leads c rest (.token token) behind) : token.isNested = false := by
  cases leads with
  | name =>
      simp only [nameToken, Token.isNested]
      split <;> rfl
  | text | number | negative | symbol | lineComment | blockComment => rfl

theorem Spells.leads {chars : List Char} {token : Token} (spells : Spells chars token) :
    ∃ c rest behind, (∀ d ∈ c :: rest, d ∈ chars) ∧ Leads c rest (.token token) behind := by
  obtain ⟨before, c, rest, behind, rfl, -, cut⟩ :=
    piece_origin spells.found (List.mem_singleton_self _)
  exact ⟨c, rest, behind, fun d member => List.mem_append_right before member,
    cutPiece_leads cut⟩

theorem Spells.unnested {chars : List Char} {token : Token} (spells : Spells chars token) :
    token.isNested = false := by
  obtain ⟨c, rest, behind, -, leads⟩ := spells.leads
  exact leads.unnested

/-- A single value in parentheses is an array literal only if it is a text or a number. -/
theorem close?_values {first : Token} {rest : List Token}
    (flat : ∀ value ∈ first :: rest, value.isNested = false ∧ value.isComment = false)
    (alone : rest = [] → first.isLiteral = true) :
    Level.close? ⟨first :: rest, rest.length⟩ = some [.ofElements (first :: rest)] := by
  cases rest with
  | nil => simp [Level.close?, alone rfl]
  | cons second rest =>
      have kept : (first :: second :: rest).filter (!·.isComment) = first :: second :: rest := by
        rw [List.filter_eq_self]
        intro value member
        simp [(flat value member).2]
      have unnested : (first :: second :: rest).any Token.isNested = false := by
        rw [List.any_eq_false]
        intro value member
        simp [(flat value member).1]
      simp [Level.close?, kept, unnested]

theorem writes_array {elements : List Token} (nonempty : elements ≠ [])
    (spelled : ∀ element ∈ elements, Spells element.source.toList element)
    (alone : elements.length = 1 → ∀ element ∈ elements, element.isLiteral = true) :
    Writes (Token.ofElements elements).source.toList ⟨[.ofElements elements], 0⟩ := by
  obtain ⟨first, rest, rfl⟩ := List.exists_cons_of_ne_nil nonempty
  have closed := close?_values
    (fun value member => ⟨(spelled value member).unnested, (spelled value member).counts⟩)
    fun single => alone (by simp [single]) first (by simp)
  have writes := (writes_list spelled).enclosed closed
  simpa [Token.source, Token.ofElements] using writes

end Tokens

end DocQuery.Lexing
