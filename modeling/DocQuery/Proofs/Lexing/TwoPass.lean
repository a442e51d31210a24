import DocQuery.Proofs.Lexing.Nesting

/-!
Two passes over a text. The first cuts it into flat pieces and knows nothing of nesting; the second
nests them. The machine, which has one character at a time and never looks ahead, gives the same
tokens on every text (`tokenise_eq_ok_iff_twoPass`).
-/

namespace DocQuery.Lexing

open DocQuery.Text

/-- Whether a comma is the last thing behind a piece. Comments and opening parentheses do not count
as things. -/
def Piece.leavesComma (afterComma : Bool) : Piece → Bool
  | .token held => afterComma && held.isComment
  | .comma => true
  | .opening => afterComma
  | .closing => false

def commasApart : Bool → List Piece → Bool
  | _, [] => true
  | afterComma, piece :: rest =>
      !(afterComma && piece == .comma) && commasApart (piece.leavesComma afterComma) rest

def flatten? (chars : List Char) : Option (List Piece) := (pieces? chars).filter (commasApart false)

def twoPass? (chars : List Char) : Option (List Token) :=
  (flatten? chars).bind ({} : Levels).nest?

section Starts

theorem mem_digits_of_isDigit {c : Char} (digit : c.isDigit = true) :
    c ∈ "0123456789".toList := by
  obtain ⟨low, high⟩ := Char.isDigit_iff_toNat.mp digit
  have code : c.toNat ∈ List.range' 48 10 := by
    rw [List.mem_range'_1]
    exact ⟨low, Nat.lt_succ_of_le high⟩
  rw [← Char.ofNat_toNat c]
  revert code
  generalize c.toNat = n
  revert n
  decide

theorem all_outside {test : Char → Bool} {chars : List Char} (free : chars.any test = false) :
    ∀ c ∈ chars, test c = false := by
  simpa using free

theorem not_mem_of_outside {test : Char → Bool} {chars : List Char} {c : Char}
    (free : chars.any test = false) (passes : test c = true) : c ∉ chars := by
  intro member
  simp [all_outside free c member] at passes

theorem isDigit_not_start {c : Char} (digit : c.isDigit = true) : isWordStart c = false := by
  have all : ∀ d ∈ "0123456789".toList, isWordStart d = false := all_outside (by decide)
  exact all c (mem_digits_of_isDigit digit)

theorem ne_of_isWordStart {c d : Char} (start : isWordStart c = true)
    (other : isWordStart d = false) : c ≠ d := by
  rintro rfl
  simp [start] at other

def marks : List Char := ['\'', '"', '-', '=', '>', '<', '!', '/', '(', ',']

theorem select_word {c : Char} (start : isWordStart c = true) :
    RecognizerKind.select c = .ok .word := by
  have noDigit : c.isDigit = false := by
    rw [Bool.eq_false_iff]
    intro digit
    simp [isDigit_not_start digit] at start
  have noMark : c ∉ marks := not_mem_of_outside (by decide) start
  simp [marks] at noMark
  simp [RecognizerKind.select, RecognizerKind.all, RecognizerKind.canStart, isSymbolPart, start,
    noDigit, noMark]

theorem select_digit {c : Char} (digit : c.isDigit = true) :
    RecognizerKind.select c = .ok .number := by
  have noMark : c ∉ marks := not_mem_of_outside (by decide) digit
  simp [marks] at noMark
  simp [RecognizerKind.select, RecognizerKind.all, RecognizerKind.canStart, isSymbolPart, digit,
    isDigit_not_start digit, noMark]

theorem select_symbol {c : Char} (symbol : isSymbolPart c = true) :
    RecognizerKind.select c = .ok .symbol := by
  have listed : c = '=' ∨ c = '>' ∨ c = '<' ∨ c = '!' := by
    simpa [isSymbolPart, or_assoc] using symbol
  rcases listed with rfl | rfl | rfl | rfl <;> rfl

theorem select_unknown {c : Char} (noWord : isWordStart c = false) (noDigit : c.isDigit = false)
    (noMark : c ∉ marks) : RecognizerKind.select c = .error (.unexpectedCharacter c) := by
  simp [marks] at noMark
  simp [RecognizerKind.select, RecognizerKind.all, RecognizerKind.canStart, isSymbolPart, noWord,
    noDigit, noMark]

variable {levels : Levels} {previous : Option RecognizerKind}

theorem read_idle_blank {c : Char} (rest : List Char) (blank : isBlank c = true) :
    levels.idle.read previous (c :: rest) = levels.idle.read previous rest := by
  apply read_enclose_taken levels.outer
  simp only [accept_region, Frame.dispatch, blank, ↓reduceIte]

theorem read_idle_begin {c : Char} {kind : RecognizerKind} {active : Recognizer}
    (rest : List Char) (solid : isBlank c = false) (noClosing : c ≠ ')')
    (selected : RecognizerKind.select c = .ok kind)
    (begun : kind.begin c (following previous) = ⟨.taken, active, following previous⟩) :
    levels.idle.read previous (c :: rest) = (levels.over active).read previous rest := by
  apply read_enclose_taken levels.outer
  simp [accept_region, Frame.dispatch, solid, noClosing, selected, begun]

theorem read_idle_unknown {c : Char} {cause : Cause} (rest : List Char) (solid : isBlank c = false)
    (noClosing : c ≠ ')') (unknown : RecognizerKind.select c = .error cause) :
    levels.idle.read previous (c :: rest) = .error cause := by
  have refused : ((Recognizer.region (levels.current.frame levels.outer)).accept c
      (following previous)).verdict = .refused ⟨cause, .start⟩ := by
    simp [accept_region, Frame.dispatch, solid, noClosing, unknown]
    rfl
  exact read_enclose_refused levels.outer rest refused

theorem read_text_start {quote : Char} (mark : quote = '\'' ∨ quote = '"') (rest : List Char) :
    (levels.idle.read previous (quote :: rest)).toOption =
      resume (cutQuoted quote rest) "" levels.behindText := by
  have begun : levels.idle.read previous (quote :: rest) =
      (levels.over (.lexeme (.quoted ⟨some quote, "", false⟩))).read previous rest := by
    rcases mark with rfl | rfl <;>
      exact read_idle_begin rest (by decide) (by decide) rfl rfl
  rw [begun]
  exact (read_quoted quote rest "").1

theorem read_name_start {c : Char} (solid : isBlank c = false) (start : startsName c = true)
    (rest : List Char) :
    (levels.idle.read previous (c :: rest)).toOption =
      resume (cutName 0 rest) ("".push c) levels.behindName := by
  rw [startsName_eq] at start
  have noBracket : c ≠ '[' ∧ c ≠ ']' :=
    ⟨ne_of_isWordStart start (by decide), ne_of_isWordStart start (by decide)⟩
  have part : continuesName c = true := by
    rw [continuesName_eq]
    simp only [isWordStart, isWordPart, isAlphanumeric, Bool.or_eq_true] at start ⊢
    grind
  have begun : RecognizerKind.word.begin c (following previous) =
      ⟨.taken, .lexeme (.word ⟨"".push c, 0⟩), following previous⟩ := by
    have first : (Lexeme.word ⟨"", 0⟩).accept c (following previous) =
        .taken (.word ⟨"".push c, 0⟩) := by
      simp only [Lexeme.accept, Word.accept_outside, noBracket, part, ↓reduceIte, Reply.map]
    simp only [RecognizerKind.begin, Recognizer.fresh, Lexeme.answer, first]
  rw [read_idle_begin rest solid (ne_of_isWordStart start (by decide)) (select_word start) begun]
  exact read_name _ (by simp) 0 rest

theorem read_number_start {c : Char} (solid : isBlank c = false) (digit : c.isDigit = true)
    (rest : List Char) :
    (levels.idle.read previous (c :: rest)).toOption =
      resume (cutNumber (c :: rest)) "" levels.behindNumber := by
  have noClosing : c ≠ ')' := by
    rintro rfl
    simp at digit
  have begun : RecognizerKind.number.begin c (following previous) =
      ⟨.taken, .lexeme (.number ⟨"".push c, false⟩), following previous⟩ := rfl
  rw [read_idle_begin rest solid noClosing (select_digit digit) begun,
    read_number (.of_push _ digit), cutNumber_cons digit, resume_cons]

theorem read_minus (rest : List Char) :
    levels.idle.read previous ('-' :: rest) =
      (levels.over (.lexeme (.number ⟨"-", false⟩))).read previous rest :=
  read_idle_begin rest (by decide) (by decide) rfl rfl

theorem read_negative {d : Char} (digit : d.isDigit = true) (tail : List Char) :
    (levels.idle.read previous ('-' :: d :: tail)).toOption =
      resume (cutNumber (d :: tail)) "-" levels.behindNumber := by
  have step : (Lexeme.number ⟨"-", false⟩).accept d (following previous) =
      .taken (.number ⟨"-".push d, false⟩) := by
    simp [Lexeme.accept, Digits.accept, digit]
  rw [read_minus, read_lexeme_taken levels tail step, read_number (.of_push _ digit),
    cutNumber_cons digit, resume_cons]

theorem read_slash (rest : List Char) :
    levels.idle.read previous ('/' :: rest) =
      (levels.over (.lexeme (.comment { style := some (.opening '/') }))).read previous rest :=
  read_idle_begin rest (by decide) (by decide) rfl rfl

theorem read_lineComment_start {c : Char} (mark : c = '-' ∨ c = '/') (tail : List Char) :
    levels.idle.read previous (c :: c :: tail) =
      (levels.collect [tokenOf .comment (cutWhile (· != '\n') tail).taken]).idle.read previous
        (cutWhile (· != '\n') tail).rest := by
  have begun : levels.idle.read previous (c :: c :: tail) =
      (levels.over (.lexeme (.comment .toLineEnd))).read previous tail := by
    rcases mark with rfl | rfl
    · rw [read_minus]
      exact read_lexeme_taken levels tail rfl
    · rw [read_slash]
      exact read_lexeme_taken levels tail rfl
  rw [begun, read_lineComment]

theorem read_blockComment_start (tail : List Char) :
    levels.idle.read previous ('/' :: '*' :: tail) =
      levels.behindComment previous "" (cutBlockComment tail) := by
  have step : (Lexeme.comment { style := some (.opening '/') }).accept '*' (following previous) =
      .taken (.comment ⟨some .block, "", false, false⟩) := rfl
  rw [read_slash, read_lexeme_taken levels tail step]
  exact (read_blockComment tail "").1

theorem read_symbol_start {c : Char} (solid : isBlank c = false) (start : inSymbol c = true)
    (rest : List Char) :
    (levels.idle.read previous (c :: rest)).toOption =
      levels.behindSymbol ("".push c ++ String.ofList (cutWhile inSymbol rest).taken)
        (cutWhile inSymbol rest).rest := by
  rw [inSymbol_eq] at start
  have noClosing : c ≠ ')' := by
    rintro rfl
    simp [isSymbolPart] at start
  have begun : RecognizerKind.symbol.begin c (following previous) =
      ⟨.taken, .lexeme (.symbol ("".push c)), following previous⟩ := by
    simp [RecognizerKind.begin, Recognizer.fresh, Lexeme.answer, Lexeme.accept, start]
  rw [read_idle_begin rest solid noClosing (select_symbol start) begun, read_symbol]

theorem read_comma_start (free : previous ≠ some .comma) (rest : List Char) :
    levels.idle.read previous (',' :: rest) =
      (levels.collect [{ kind := .delimiter, content := "," }]).idle.read (some .comma) rest := by
  have begun : RecognizerKind.comma.begin ',' (following previous) =
      ⟨.taken, .lexeme (.comma true), following previous⟩ := by
    simp [RecognizerKind.begin, Recognizer.fresh, Lexeme.answer, Lexeme.accept, following, free]
  rw [read_idle_begin rest (by decide) (by decide) rfl begun,
    read_lexeme_done levels rest fun _ _ => rfl]
  rfl

theorem read_comma_blocked (rest : List Char) :
    levels.idle.read (some .comma) (',' :: rest) = .error .repeatedComma := by
  have refused : ((Recognizer.region (levels.current.frame levels.outer)).accept ','
      (following (some .comma))).verdict = .refused ⟨.repeatedComma, .start⟩ := rfl
  exact read_enclose_refused levels.outer rest refused

theorem read_opening (rest : List Char) :
    levels.idle.read previous ('(' :: rest) =
      (⟨{}, levels.current :: levels.outer⟩ : Levels).idle.read previous rest :=
  read_idle_begin rest (by decide) (by decide) rfl rfl

theorem read_closing {parent : Level} {outer : List Level} (shape : levels.outer = parent :: outer)
    (rest : List Char) :
    levels.idle.read previous (')' :: rest) =
      Frame.emit levels.current.tokens levels.current.commas >>= fun tokens =>
        (⟨parent.collect tokens, outer⟩ : Levels).idle.read (some .region) rest := by
  -- The region is only closed by its parenthesis. Its tokens are made when the next character, or
  -- the end of the text, finds it closed.
  let closed : Recognizer :=
    .region { levels.current.frame (parent :: outer) with closed := true }
  have taken : (Recognizer.region (levels.current.frame (parent :: outer))).accept ')'
      (following previous) = ⟨.taken, closed, following previous⟩ := rfl
  have drained : closed.drain (following previous) =
      ⟨(Frame.emit levels.current.tokens levels.current.commas).mapError
        (following previous).failure, .region .parenthesised, following previous⟩ := rfl
  have shut := read_over_done ⟨parent, outer⟩ rest (fun _ _ => rfl) drained
  rw [mapError_failure_cause] at shut
  rw [Levels.idle, shape, read_enclose_taken (parent :: outer) rest taken]
  exact shut

theorem read_unopened (outermost : levels.outer = []) (rest : List Char) :
    levels.idle.read previous (')' :: rest) = .error .unopenedParenthesis := by
  have refused : ((Recognizer.region (levels.current.frame [])).accept ')'
      (following previous)).verdict = .refused ⟨.unopenedParenthesis, .start⟩ := rfl
  rw [Levels.idle, outermost]
  exact read_enclose_refused [] rest refused

end Starts

section Agreement

variable {levels : Levels} {previous : Option RecognizerKind}

def Levels.readOn (levels : Levels) (last : Option RecognizerKind) (piece : Piece)
    (behind : List Char) : Option (List Token) :=
  (levels.meet piece).bind fun next => (next.idle.read last behind).toOption

theorem behind_eq_readOn (last : Option RecognizerKind) {token : Token}
    (plain : token.kind ≠ .delimiter) (rest : List Char) :
    levels.behind last token rest = levels.readOn last (.token token) rest := by
  have kept : levels.current.collect [token] = levels.current.append [token] :=
    Level.collect_plain _ (by simpa using plain)
  simp only [Levels.behind, Levels.collect, Levels.readOn, Levels.meet, kept, Option.bind_some]

/-- Only a comma leaves a comma behind, and only a comment leaves the one before it. -/
theorem last_not_comma {kind : RecognizerKind} (other : kind ≠ .comma) {token : Token}
    (counts : token.isComment = false) :
    ((some kind : Option RecognizerKind) == some .comma) =
      (previous == some .comma && token.isComment) := by
  simp [counts, other]

theorem nameToken_isComment (chars : List Char) : (nameToken chars).isComment = false := by
  unfold Token.isComment nameToken
  split <;> rfl

theorem read_piece_token {c : Char} {rest behind : List Char} {token : Token}
    (solid : isBlank c = false) (leads : Leads c rest (.token token) behind) :
    ∃ last, (last == some .comma) = (previous == some .comma && token.isComment) ∧
      (levels.idle.read previous (c :: rest)).toOption =
        levels.readOn last (.token token) behind := by
  have plain : token.kind ≠ .delimiter := leads.plain
  -- A comment is not what the next comma looks at, and every other token is.
  cases leads with
  | text mark found =>
      refine ⟨some .quoted, last_not_comma (by decide) rfl, ?_⟩
      rw [read_text_start mark, found, ← behind_eq_readOn _ plain]
      simp [resume, Levels.behindText, tokenOf]
  | name start found =>
      refine ⟨some .word, last_not_comma (by decide) (nameToken_isComment _), ?_⟩
      rw [read_name_start solid start, found, ← behind_eq_readOn _ plain]
      simp [resume, Levels.behindName, nameToken, Word.kind]
  | number digit found =>
      refine ⟨some .number, last_not_comma (by decide) rfl, ?_⟩
      rw [read_number_start solid digit, found, ← behind_eq_readOn _ plain]
      simp [resume, Levels.behindNumber, tokenOf]
  | negative digit found =>
      refine ⟨some .number, last_not_comma (by decide) rfl, ?_⟩
      rw [read_negative digit, found, ← behind_eq_readOn _ plain]
      simp [resume, Levels.behindNumber, tokenOf]
  | symbol rest start =>
      refine ⟨some .symbol, last_not_comma (by decide) rfl, ?_⟩
      rw [read_symbol_start solid start, ← behind_eq_readOn _ plain]
      simp [Levels.behindSymbol, tokenOf]
  | lineComment tail mark =>
      refine ⟨previous, by simp [Token.isComment, tokenOf], ?_⟩
      rw [read_lineComment_start mark, ← behind_eq_readOn _ plain]
      rfl
  | blockComment found =>
      refine ⟨previous, by simp [Token.isComment, tokenOf], ?_⟩
      rw [read_blockComment_start, found, ← behind_eq_readOn _ plain]
      simp [Levels.behindComment, Levels.behind, tokenOf]

theorem read_piece_closing (plain : levels.Plain) (rest : List Char) :
    (levels.idle.read previous (')' :: rest)).toOption =
      levels.readOn (some .region) .closing rest := by
  simp only [Levels.readOn, Levels.meet]
  cases shape : levels.outer with
  | nil =>
      rw [read_unopened shape]
      rfl
  | cons parent outer =>
      rw [read_closing shape, Level.close?_eq_emit]
      cases emitted : Frame.emit levels.current.tokens levels.current.commas with
      | error cause => rfl
      | ok tokens =>
          have closed : levels.current.close? = some tokens := by
            rw [Level.close?_eq_emit, emitted]
            rfl
          have kept := parent.collect_plain (Level.close?_plain plain.1 closed)
          simp only [ok_bind, kept]
          rfl

theorem read_piece_some (previous : Option RecognizerKind) (plain : levels.Plain) {c : Char}
    {rest behind : List Char} {piece : Piece}
    (solid : isBlank c = false) (leads : Leads c rest piece behind) :
    ∃ last, (last == some .comma) = piece.leavesComma (previous == some .comma) ∧
      (levels.idle.read previous (c :: rest)).toOption =
        if (previous == some .comma && piece == .comma) = true then none
        else levels.readOn last piece behind := by
  cases piece with
  | token held =>
      obtain ⟨last, comma, read⟩ := read_piece_token solid leads
      exact ⟨last, comma, by simpa using read⟩
  | comma =>
      cases leads
      refine ⟨some .comma, rfl, ?_⟩
      by_cases blocked : previous = some .comma
      · subst blocked
        rw [read_comma_blocked]
        rfl
      · rw [read_comma_start blocked]
        simp [blocked, Levels.readOn, Levels.meet, Levels.collect, Level.collect]
  | opening =>
      cases leads
      refine ⟨previous, rfl, ?_⟩
      rw [read_opening]
      simp [Levels.readOn, Levels.meet]
  | closing =>
      cases leads
      exact ⟨some .region, rfl, by simpa using read_piece_closing plain _⟩

theorem read_minus_alone {rest : List Char}
    (alone : ∀ d ∈ rest.head?, d ≠ '-' ∧ d.isDigit = false) :
    (levels.idle.read previous ('-' :: rest)).toOption = none := by
  rw [read_minus]
  cases rest with
  | nil =>
      rw [read_lexeme_done levels [] (by simp)]
      rfl
  | cons d tail =>
      obtain ⟨noMinus, noDigit⟩ := alone d rfl
      have refused : (Lexeme.number ⟨"-", false⟩).accept d (following previous) =
          .refused (.digitExpected (some d)) := by
        simp [Lexeme.accept, Digits.accept, noMinus, noDigit]
      rw [read_lexeme_refused levels tail refused]
      rfl

theorem read_slash_alone {rest : List Char} (alone : ∀ d ∈ rest.head?, d ≠ '/' ∧ d ≠ '*') :
    (levels.idle.read previous ('/' :: rest)).toOption = none := by
  rw [read_slash]
  cases rest with
  | nil =>
      rw [read_lexeme_done levels [] (by simp)]
      rfl
  | cons d tail =>
      obtain ⟨noSlash, noStar⟩ := alone d rfl
      have refused : (Lexeme.comment { style := some (.opening '/') }).accept d
          (following previous) = .refused (.commentExpected '/' d) := by
        simp [Lexeme.accept, Comment.accept, Reply.map, noSlash, noStar]
      rw [read_lexeme_refused levels tail refused]
      rfl

theorem read_piece_none {c : Char} {rest : List Char} (solid : isBlank c = false)
    (missing : cutPiece c rest = none) :
    (levels.idle.read previous (c :: rest)).toOption = none := by
  revert missing
  -- Where no piece is cut, either its recognizer starts and does not come to an end, or none
  -- starts.
  fun_cases cutPiece c rest
  case case1 | case2 | case3 | case7 | case9 | case12 => rintro ⟨⟩
  case case4 mark =>
    intro missing
    rw [read_text_start mark, Option.map_eq_none_iff.mp missing]
    rfl
  case case5 start =>
    intro missing
    rw [read_name_start solid start, Option.map_eq_none_iff.mp missing]
    rfl
  case case6 digit =>
    intro missing
    rw [read_number_start solid digit, Option.map_eq_none_iff.mp missing]
    rfl
  case case8 =>
    subst c
    exact fun _ => read_minus_alone (by simp)
  case case10 digit =>
    subst c
    intro missing
    rw [read_negative digit, Option.map_eq_none_iff.mp missing]
    rfl
  case case11 noMinus noDigit =>
    subst c
    refine fun _ => read_minus_alone ?_
    rintro d ⟨⟩
    exact ⟨noMinus, by simpa using noDigit⟩
  case case13 =>
    subst c
    intro missing
    rw [read_blockComment_start, Option.map_eq_none_iff.mp missing]
    rfl
  case case14 noSlash noStar =>
    subst c
    refine fun _ => read_slash_alone fun d first => ?_
    obtain ⟨tail, rfl⟩ := List.head?_eq_some_iff.mp first
    constructor
    · rintro rfl
      exact noSlash tail rfl
    · rintro rfl
      exact noStar tail rfl
  case case15 opening closing comma mark start digit symbol minus slash =>
    intro _
    rw [startsName_eq] at start
    rw [inSymbol_eq] at symbol
    have noMark : c ∉ marks := by
      simp [isSymbolPart] at symbol
      simp [marks, opening, comma, minus, slash, symbol]
      simpa using mark
    rw [read_idle_unknown rest solid closing
      (select_unknown (by simpa using start) (by simpa using digit) noMark)]
    rfl

theorem nest_filter_cons (levels : Levels) (afterComma : Bool) (piece : Piece)
    (found : Option (List Piece)) :
    ((found.map (piece :: ·)).filter (commasApart afterComma)).bind levels.nest? =
      if (afterComma && piece == .comma) = true then none
      else (levels.meet piece).bind fun next =>
        (found.filter (commasApart (piece.leavesComma afterComma))).bind next.nest? := by
  cases found with
  | none => simp
  | some pieces =>
      by_cases blocked : (afterComma && piece == .comma) = true
      · simp only [Option.map_some, Option.filter_some, commasApart, blocked, Bool.not_true,
          Bool.false_and, Bool.false_eq_true, ↓reduceIte, Option.bind_none]
      · by_cases apart : commasApart (piece.leavesComma afterComma) pieces = true
        · simp [Option.filter_some, commasApart, blocked, apart, Levels.nest?]
        · simp [Option.filter_some, commasApart, blocked, apart]

/-- Reading is cutting into pieces, keeping commas apart and nesting. -/
theorem read_pieces (plain : levels.Plain) (chars : List Char) :
    (levels.idle.read previous chars).toOption =
      ((pieces? chars).filter (commasApart (previous == some .comma))).bind levels.nest? := by
  fun_induction pieces? chars generalizing levels previous with
  | case1 =>
      rw [read_idle_nil]
      by_cases outermost : levels.outer = [] <;>
        simp [outermost, Option.filter_some, commasApart, Levels.nest?, Except.toOption]
  | case2 c rest blank ih =>
      rw [read_idle_blank rest blank]
      exact ih plain
  | case3 c rest solid missing =>
      rw [read_piece_none (by simpa using solid) missing]
      rfl
  | case4 c rest solid piece behind found ih =>
      have leads := cutPiece_leads found
      obtain ⟨last, comma, read⟩ := read_piece_some previous plain (by simpa using solid) leads
      rw [read, nest_filter_cons, ← comma]
      -- A comma behind a comma fails in both; anything else is given to the levels.
      split
      · rfl
      · unfold Levels.readOn
        cases met : levels.meet piece with
        | none => rfl
        | some next => exact ih (Levels.meet_plain plain leads.plain met)

end Agreement

theorem toOption_tokenise (text : String) :
    (tokenise text).toOption = twoPass? (characters text) := by
  have plain : ({} : Levels).Plain := ⟨by simp [Level.Plain], by simp⟩
  have read : (({} : Levels).idle.read none (characters text)).toOption =
      twoPass? (characters text) := read_pieces plain (characters text)
  apply Option.ext
  intro tokens
  rw [toOption_eq_some_iff, tokenise_eq_ok_iff_read, root_idle, ← read, toOption_eq_some_iff]

/-- Reading character by character, with a recognizer for each open region, finds the tokens that
two passes find: one that cuts the text into pieces and one that nests them. -/
theorem tokenise_eq_ok_iff_twoPass (text : String) (tokens : List Token) :
    tokenise text = .ok tokens ↔ twoPass? (characters text) = some tokens := by
  rw [← toOption_tokenise, toOption_eq_some_iff]

end DocQuery.Lexing
