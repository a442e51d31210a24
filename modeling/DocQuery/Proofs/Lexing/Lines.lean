import DocQuery.Proofs.Lexing.Writing

/-!
Texts that are complete stand beside each other. At a line end nothing of the first text is left
open: its pieces are cut as if it stood alone, its tokens are added to whatever region it stands in,
and only a comma at its end could be seen from behind (`tokenise_lines`).
-/

namespace DocQuery.Lexing

section Regions

def Levels.enclosing (base : Levels) : Level → List Level → List Level
  | level, [] => base.current.add level :: base.outer
  | level, parent :: outer => level :: base.enclosing parent outer

/-- Open regions in the middle of others. The outermost of the former goes on with the innermost of
the latter. -/
def Levels.within (base levels : Levels) : Levels :=
  match levels.outer with
  | [] => ⟨base.current.add levels.current, base.outer⟩
  | parent :: outer => ⟨levels.current, base.enclosing parent outer⟩

theorem add_append (level added : Level) (tokens : List Token) :
    (level.add added).append tokens = level.add (added.append tokens) := by
  simp [Level.add, Level.append]

theorem meet_within (base : Levels) {levels next : Levels} {piece : Piece}
    (met : levels.meet piece = some next) :
    (base.within levels).meet piece = some (base.within next) := by
  -- The step may close any region but the outermost one, which it does not know to be inside of
  -- another.
  obtain ⟨current, outer⟩ := levels
  cases piece with
  | token held =>
      cases met
      cases outer with
      | nil => simp [Levels.within, Levels.meet, add_append]
      | cons parent outer => rfl
  | comma =>
      cases met
      cases outer with
      | nil => simp [Levels.within, Levels.meet, Level.add, Nat.add_assoc]
      | cons parent outer => rfl
  | opening =>
      cases met
      cases outer with
      | nil => rfl
      | cons parent outer => rfl
  | closing =>
      cases outer with
      | nil => cases met
      | cons parent outer =>
          obtain ⟨tokens, closed, rfl⟩ := Option.map_eq_some_iff.mp met
          cases outer with
          | nil => simp [Levels.within, Levels.meet, Levels.enclosing, closed, add_append]
          | cons grandparent outer =>
              simp [Levels.within, Levels.meet, Levels.enclosing, closed]

theorem nest?_within (base : Levels) {levels : Levels} {pieces : List Piece} {tokens : List Token}
    (nested : levels.nest? pieces = some tokens) :
    ∃ commas, ∀ rest, (base.within levels).nest? (pieces ++ rest) =
      (⟨base.current.add ⟨tokens, commas⟩, base.outer⟩ : Levels).nest? rest := by
  induction pieces generalizing levels with
  | nil =>
      obtain ⟨current, outer⟩ := levels
      obtain ⟨rfl, rfl⟩ := Levels.nest?_nil nested
      exact ⟨current.commas, fun rest => rfl⟩
  | cons piece pieces ih =>
      obtain ⟨next, met, nested⟩ := Option.bind_eq_some_iff.mp nested
      obtain ⟨commas, adds⟩ := ih nested
      refine ⟨commas, fun rest => ?_⟩
      simp only [List.cons_append, Levels.nest?, meet_within base met, Option.bind_some]
      exact adds rest

theorem within_new (base : Levels) : base.within {} = base := by
  simp [Levels.within, Level.add]

theorem nest?_append {first second : List Piece} {tokens tokens' : List Token}
    (nested : ({} : Levels).nest? first = some tokens)
    (nested' : ({} : Levels).nest? second = some tokens') :
    ({} : Levels).nest? (first ++ second) = some (tokens ++ tokens') := by
  obtain ⟨commas, adds⟩ := nest?_within {} nested
  obtain ⟨commas', adds'⟩ := nest?_within ⟨⟨tokens, commas⟩, []⟩ nested'
  have both := (adds second).trans (by simpa [Level.add, within_new] using adds' [])
  simpa [within_new, Levels.nest?] using both

end Regions

section Ends

def lastPiece? (pieces : List Piece) : Option Piece :=
  (pieces.filter (!·.isComment)).getLast?

theorem lastPiece?_cons (piece : Piece) (rest : List Piece) :
    lastPiece? (piece :: rest) =
      if piece.isComment then lastPiece? rest else some ((lastPiece? rest).getD piece) := by
  unfold lastPiece?
  cases comment : piece.isComment with
  | true => simp [comment]
  | false => simp [comment, List.getLast?_cons]

theorem nest?_of_comments {levels : Levels} {pieces : List Piece} {tokens : List Token}
    (comments : lastPiece? pieces = none) (nested : levels.nest? pieces = some tokens) :
    levels.outer = [] := by
  induction pieces generalizing levels with
  | nil =>
      exact (Levels.nest?_nil nested).1
  | cons piece rest ih =>
      rw [lastPiece?_cons] at comments
      obtain ⟨next, met, nested⟩ := Option.bind_eq_some_iff.mp nested
      split at comments
      next comment =>
        have outermost : next.outer = [] := ih comments nested
        cases piece with
        | token held =>
            cases met
            exact outermost
        | comma | opening | closing => cases comment
      next => cases comments

/-- A comma that still counts behind complete pieces is the last of them, or was there before them.
-/
theorem lastPiece?_of_leavesComma {levels : Levels} {pieces : List Piece} {tokens : List Token}
    {afterComma : Bool} (nested : levels.nest? pieces = some tokens)
    (leaves : pieces.foldl Piece.leavesComma afterComma = true) :
    lastPiece? pieces = some .comma ∨ lastPiece? pieces = none ∧ afterComma = true := by
  -- An opening parenthesis leaves the comma before it in sight, but it is never the last piece of a
  -- complete text.
  induction pieces generalizing levels afterComma with
  | nil => exact .inr ⟨rfl, leaves⟩
  | cons piece rest ih =>
      obtain ⟨next, met, nested⟩ := Option.bind_eq_some_iff.mp nested
      rw [lastPiece?_cons]
      rcases ih nested leaves with comma | ⟨comments, still⟩
      · rw [comma]
        split
        · exact .inl rfl
        · exact .inl rfl
      · rw [comments]
        cases piece with
        | token held =>
            simp only [Piece.leavesComma, Bool.and_eq_true] at still
            exact .inr ⟨if_pos still.2, still.1⟩
        | comma => exact .inl rfl
        | opening =>
            cases met
            cases nest?_of_comments comments nested
        | closing => cases still

end Ends

/-- The last lexeme of a text that is not a comment. -/
def lastLexeme? (text : String) : Option Piece := (pieces? (characters text)).bind lastPiece?

/-- Texts on two lines have the tokens of both, unless a comma at the end of the first still waits
for something. -/
theorem tokenise_lines {first second : String} {tokens tokens' : List Token}
    (read : tokenise first = .ok tokens) (read' : tokenise second = .ok tokens')
    (noComma : lastLexeme? first ≠ some .comma) :
    tokenise (first ++ "\n" ++ second) = .ok (tokens ++ tokens') := by
  obtain ⟨pieces, found, apart, nested⟩ := pieces_of_tokenise read
  obtain ⟨pieces', found', apart', nested'⟩ := pieces_of_tokenise read'
  have joined : characters (first ++ "\n" ++ second) =
      characters first ++ '\n' :: characters second := by
    simp [characters]
  have foundBoth : pieces? (characters (first ++ "\n" ++ second)) = some (pieces ++ pieces') := by
    have endsLine : EndsLine ('\n' :: characters second) := by simp [EndsLine]
    rw [joined, pieces?_append (stops_cons (by decide) _) found fun _ _ _ => endsLine,
      pieces?_blank (by decide), found']
    rfl
  -- The first line is complete, so what it leaves behind is decided by its last lexeme.
  have settled : pieces.foldl Piece.leavesComma false = false := by
    rw [Bool.eq_false_iff]
    intro leaves
    rcases lastPiece?_of_leavesComma nested leaves with comma | ⟨_, impossible⟩
    · exact noComma (by simpa [lastLexeme?, found] using comma)
    · cases impossible
  have apartBoth : commasApart false (pieces ++ pieces') = true := by
    rw [commasApart_append, apart, settled, apart']
    rfl
  rw [← toOption_eq_some_iff, toOption_tokenise, twoPass?, flatten?, foundBoth]
  simp [Option.filter_some, apartBoth, nest?_append nested nested']

def commentedLine : String := "a[0], (1, 'x') -- , 'b"

theorem tokenise_commented_line :
    lastLexeme? commentedLine = some .closing ∧
      tokenise (commentedLine ++ "\n" ++ ", c = 'd'") =
        .ok [⟨.query, "a[0]", []⟩, .ofElements [⟨.number, "1", []⟩, ⟨.text, "x", []⟩],
          ⟨.comment, " , 'b", []⟩, ⟨.query, "c", []⟩, ⟨.operator, "=", []⟩, ⟨.text, "d", []⟩] := by
  have last : lastLexeme? commentedLine = some .closing := by decide +kernel
  have read : tokenise commentedLine = .ok [⟨.query, "a[0]", []⟩,
      .ofElements [⟨.number, "1", []⟩, ⟨.text, "x", []⟩], ⟨.comment, " , 'b", []⟩] := rfl
  have read' : tokenise ", c = 'd'" =
      .ok [⟨.query, "c", []⟩, ⟨.operator, "=", []⟩, ⟨.text, "d", []⟩] := rfl
  exact ⟨last, tokenise_lines read read' (by simp [last])⟩

end DocQuery.Lexing
