import DocQuery.Proofs.Lexing.Levels

/-!
The flat lexemes of a text, cut off its front one after the other by looking ahead. No lexeme
knows of the parentheses around it. Each `cut` function gives the characters that belong to a
lexeme and those behind it, and the `read_…` theorems say that the character-by-character machine
for that kind of lexeme, wherever it is active, finds the same cut.
-/

namespace DocQuery.Lexing

open DocQuery.Text

/-- A lexeme of the flat text: a token by itself, a comma, or a parenthesis. -/
inductive Piece where
  | token (token : Token)
  | comma
  | opening
  | closing
  deriving DecidableEq

structure Cut where
  taken : List Char
  rest : List Char

def Cut.cons (c : Char) (cut : Cut) : Cut := { cut with taken := c :: cut.taken }

def cutWhile (test : Char → Bool) (chars : List Char) : Cut :=
  ⟨chars.takeWhile test, chars.dropWhile test⟩

def startsName (c : Char) : Bool := isLetter c || "_*$@".toList.contains c

def continuesName (c : Char) : Bool := isAlphanumeric c || "_.*$@".toList.contains c

def inSymbol (c : Char) : Bool := "=<>!".toList.contains c

/-- The rest of a name inside the given number of brackets. A line ends only outside of brackets,
and every bracket is closed. -/
def cutName : Nat → List Char → Option Cut
  | 0, [] => some ⟨[], []⟩
  | _ + 1, [] => none
  | 0, c :: rest =>
      if c = '[' then (cutName 1 rest).map (.cons c)
      else if c = ']' then none
      else if continuesName c then (cutName 0 rest).map (.cons c)
      else some ⟨[], c :: rest⟩
  | depth + 1, c :: rest =>
      if c = '\n' then none
      else if c = '[' then (cutName (depth + 2) rest).map (.cons c)
      else if c = ']' then (cutName depth rest).map (.cons c)
      else (cutName (depth + 1) rest).map (.cons c)

/-- The rest of a quoted text. Two quotes are one quote of the text, a single one ends it. -/
def cutQuoted (quote : Char) : List Char → Option Cut
  | [] => none
  | [c] => if c = quote then some ⟨[], []⟩ else none
  | c :: d :: rest =>
      if c = quote then
        if d = quote then (cutQuoted quote rest).map (.cons quote) else some ⟨[], d :: rest⟩
      else if c = '\n' then none
      else (cutQuoted quote (d :: rest)).map (.cons c)

def cutNumber (chars : List Char) : Option Cut :=
  let whole := cutWhile Char.isDigit chars
  match whole.rest with
  | '.' :: behind =>
      let fraction := cutWhile Char.isDigit behind
      if fraction.rest.head? = some '.' then none
      else some ⟨whole.taken ++ '.' :: fraction.taken, fraction.rest⟩
  | rest => some ⟨whole.taken, rest⟩

def cutBlockComment : List Char → Option Cut
  | [] => none
  | '*' :: '/' :: rest => some ⟨[], rest⟩
  | c :: rest => (cutBlockComment rest).map (.cons c)

def nameToken (chars : List Char) : Token where
  kind := if String.ofList chars = "is" ∨ String.ofList chars = "not" then .operator else .query
  content := String.ofList chars

def tokenOf (kind : TokenKind) (chars : List Char) : Token where
  kind := kind
  content := String.ofList chars

def Cut.piece (cut : Cut) (token : List Char → Token) : Piece × List Char :=
  (.token (token cut.taken), cut.rest)

def cutPiece (c : Char) (rest : List Char) : Option (Piece × List Char) :=
  if c = '(' then some (.opening, rest)
  else if c = ')' then some (.closing, rest)
  else if c = ',' then some (.comma, rest)
  else if c = '\'' ∨ c = '"' then (cutQuoted c rest).map (·.piece (tokenOf .text))
  else if startsName c then (cutName 0 rest).map (·.piece fun taken => nameToken (c :: taken))
  else if c.isDigit then (cutNumber (c :: rest)).map (·.piece (tokenOf .number))
  else if inSymbol c then
    some ((cutWhile inSymbol rest).piece fun taken => tokenOf .operator (c :: taken))
  else if c = '-' then
    match rest with
    | [] => none
    | d :: tail =>
        if d = '-' then some ((cutWhile (· != '\n') tail).piece (tokenOf .comment))
        else if d.isDigit then
          (cutNumber rest).map (·.piece fun taken => tokenOf .number ('-' :: taken))
        else none
  else if c = '/' then
    match rest with
    | '/' :: tail => some ((cutWhile (· != '\n') tail).piece (tokenOf .comment))
    | '*' :: tail => (cutBlockComment tail).map (·.piece (tokenOf .comment))
    | _ => none
  else none

section Quotes

theorem cutQuoted_doubled (quote : Char) (rest : List Char) :
    cutQuoted quote (quote :: quote :: rest) = (cutQuoted quote rest).map (.cons quote) := by
  simp [cutQuoted]

theorem cutQuoted_closed {quote : Char} {rest : List Char} (ends : rest.head? ≠ some quote) :
    cutQuoted quote (quote :: rest) = some ⟨[], rest⟩ := by
  cases rest with
  | nil => simp [cutQuoted]
  | cons d tail =>
      have other : d ≠ quote := by simpa using ends
      simp [cutQuoted, other]

theorem cutQuoted_other {quote c : Char} (other : c ≠ quote) (rest : List Char) :
    cutQuoted quote (c :: rest) =
      if c = '\n' then none else (cutQuoted quote rest).map (.cons c) := by
  cases rest <;> simp [cutQuoted, other]

end Quotes

section Lengths

theorem cutWhile_append (test : Char → Bool) (chars : List Char) :
    (cutWhile test chars).taken ++ (cutWhile test chars).rest = chars :=
  List.takeWhile_append_dropWhile

theorem cutName_append {depth : Nat} {chars : List Char} {cut : Cut}
    (found : cutName depth chars = some cut) : cut.taken ++ cut.rest = chars := by
  fun_induction cutName depth chars generalizing cut with
  | case1 => cases found; rfl
  | case2 => cases found
  | case3 rest ih | case5 c rest _ _ _ ih | case8 depth rest _ ih | case9 depth rest _ _ ih
  | case10 depth c rest _ _ _ ih =>
      obtain ⟨inner, foundInner, rfl⟩ := Option.map_eq_some_iff.mp found
      simp [Cut.cons, ih foundInner]
  | case4 => cases found
  | case6 => cases found; rfl
  | case7 => cases found

theorem cutQuoted_suffix {quote : Char} {chars : List Char} {cut : Cut}
    (found : cutQuoted quote chars = some cut) : cut.rest <:+ chars := by
  fun_induction cutQuoted quote chars generalizing cut with
  | case1 => cases found
  | case2 => cases found; exact List.nil_suffix
  | case3 => cases found
  | case4 rest ih =>
      obtain ⟨inner, foundInner, rfl⟩ := Option.map_eq_some_iff.mp found
      exact ((ih foundInner).trans (List.suffix_cons _ _)).trans (List.suffix_cons _ _)
  | case5 => cases found; exact List.suffix_cons _ _
  | case6 => cases found
  | case7 c d rest _ _ ih =>
      obtain ⟨inner, foundInner, rfl⟩ := Option.map_eq_some_iff.mp found
      exact (ih foundInner).trans (List.suffix_cons _ _)

theorem cutNumber_append {chars : List Char} {cut : Cut} (found : cutNumber chars = some cut) :
    cut.taken ++ cut.rest = chars := by
  have whole := cutWhile_append Char.isDigit chars
  simp only [cutNumber] at found
  split at found
  next behind shape =>
    have fraction := cutWhile_append Char.isDigit behind
    split at found
    · cases found
    · cases found
      rw [shape] at whole
      simp only [List.append_assoc, List.cons_append, fraction, whole]
  next =>
    cases found
    exact whole

theorem cutNumber_cons {c : Char} (digit : c.isDigit = true) (rest : List Char) :
    cutNumber (c :: rest) = (cutNumber rest).map (.cons c) := by
  simp only [cutNumber, cutWhile, List.takeWhile_cons_of_pos digit,
    List.dropWhile_cons_of_pos digit]
  split
  next behind _ =>
    by_cases second : (behind.dropWhile Char.isDigit).head? = some '.'
    · simp only [second, ↓reduceIte, Option.map_none]
    · simp only [second, ↓reduceIte, Option.map_some, Cut.cons, List.cons_append]
  next => rfl

theorem cutNumber_digit {c : Char} {rest : List Char} {cut : Cut} (digit : c.isDigit = true)
    (found : cutNumber (c :: rest) = some cut) :
    ∃ more, cut.taken = c :: more ∧ more ++ cut.rest = rest := by
  rw [cutNumber_cons digit] at found
  obtain ⟨inner, foundInner, rfl⟩ := Option.map_eq_some_iff.mp found
  exact ⟨inner.taken, rfl, cutNumber_append foundInner⟩

theorem cutBlockComment_append {chars : List Char} {cut : Cut}
    (found : cutBlockComment chars = some cut) : cut.taken ++ '*' :: '/' :: cut.rest = chars := by
  fun_induction cutBlockComment chars generalizing cut with
  | case1 => cases found
  | case2 => cases found; rfl
  | case3 c rest _ ih =>
      obtain ⟨inner, foundInner, rfl⟩ := Option.map_eq_some_iff.mp found
      simp [Cut.cons, ih foundInner]

end Lengths

/-- What a piece at the front of a text can be, by its first character. -/
inductive Leads : Char → List Char → Piece → List Char → Prop where
  | opening (rest : List Char) : Leads '(' rest .opening rest
  | closing (rest : List Char) : Leads ')' rest .closing rest
  | comma (rest : List Char) : Leads ',' rest .comma rest
  | text {quote : Char} {rest : List Char} {cut : Cut} (mark : quote = '\'' ∨ quote = '"')
      (found : cutQuoted quote rest = some cut) :
      Leads quote rest (.token (tokenOf .text cut.taken)) cut.rest
  | name {c : Char} {rest : List Char} {cut : Cut} (start : startsName c = true)
      (found : cutName 0 rest = some cut) :
      Leads c rest (.token (nameToken (c :: cut.taken))) cut.rest
  | number {c : Char} {rest : List Char} {cut : Cut} (digit : c.isDigit = true)
      (found : cutNumber (c :: rest) = some cut) :
      Leads c rest (.token (tokenOf .number cut.taken)) cut.rest
  | negative {d : Char} {tail : List Char} {cut : Cut} (digit : d.isDigit = true)
      (found : cutNumber (d :: tail) = some cut) :
      Leads '-' (d :: tail) (.token (tokenOf .number ('-' :: cut.taken))) cut.rest
  | symbol {c : Char} (rest : List Char) (start : inSymbol c = true) :
      Leads c rest (.token (tokenOf .operator (c :: (cutWhile inSymbol rest).taken)))
        (cutWhile inSymbol rest).rest
  | lineComment {c : Char} (tail : List Char) (mark : c = '-' ∨ c = '/') :
      Leads c (c :: tail) (.token (tokenOf .comment (cutWhile (· != '\n') tail).taken))
        (cutWhile (· != '\n') tail).rest
  | blockComment {tail : List Char} {cut : Cut} (found : cutBlockComment tail = some cut) :
      Leads '/' ('*' :: tail) (.token (tokenOf .comment cut.taken)) cut.rest

theorem cutPiece_leads {c : Char} {rest behind : List Char} {piece : Piece}
    (found : cutPiece c rest = some (piece, behind)) : Leads c rest piece behind := by
  revert found
  fun_cases cutPiece c rest
  case case1 | case2 | case3 =>
    subst c
    rintro ⟨⟩
    constructor
  case case4 mark =>
    intro found
    obtain ⟨cut, foundCut, ⟨⟩⟩ := Option.map_eq_some_iff.mp found
    exact .text mark foundCut
  case case5 start =>
    intro found
    obtain ⟨cut, foundCut, ⟨⟩⟩ := Option.map_eq_some_iff.mp found
    exact .name start foundCut
  case case6 digit =>
    intro found
    obtain ⟨cut, foundCut, ⟨⟩⟩ := Option.map_eq_some_iff.mp found
    exact .number digit foundCut
  case case7 symbol =>
    rintro ⟨⟩
    exact .symbol rest symbol
  case case9 =>
    subst c
    rintro ⟨⟩
    exact .lineComment _ (.inl rfl)
  case case10 digit =>
    intro found
    obtain ⟨cut, foundCut, ⟨⟩⟩ := Option.map_eq_some_iff.mp found
    subst c
    exact .negative digit foundCut
  case case12 =>
    subst c
    rintro ⟨⟩
    exact .lineComment _ (.inr rfl)
  case case13 =>
    intro found
    obtain ⟨cut, foundCut, ⟨⟩⟩ := Option.map_eq_some_iff.mp found
    subst c
    exact .blockComment foundCut
  -- A minus alone, a slash alone, or a character that starts nothing.
  case case8 | case11 | case14 | case15 => rintro ⟨⟩

theorem Leads.suffix {c : Char} {rest behind : List Char} {piece : Piece}
    (leads : Leads c rest piece behind) : behind <:+ rest := by
  cases leads with
  | opening => exact List.suffix_rfl
  | closing => exact List.suffix_rfl
  | comma => exact List.suffix_rfl
  | text _ found => exact cutQuoted_suffix found
  | name _ found => exact ⟨_, cutName_append found⟩
  | number digit found =>
      obtain ⟨more, _, rest⟩ := cutNumber_digit digit found
      exact ⟨more, rest⟩
  | negative _ found => exact ⟨_, cutNumber_append found⟩
  | symbol => exact List.dropWhile_suffix _
  | lineComment => exact (List.dropWhile_suffix _).trans (List.suffix_cons _ _)
  | @blockComment tail cut found =>
      refine ⟨'*' :: (cut.taken ++ ['*', '/']), ?_⟩
      rw [← cutBlockComment_append found]
      simp

def pieces? : List Char → Option (List Piece)
  | [] => some []
  | c :: rest =>
      if isBlank c then pieces? rest
      else
        match _ : cutPiece c rest with
        | none => none
        | some (piece, behind) => (pieces? behind).map (piece :: ·)
termination_by chars => chars.length
decreasing_by
  · simp
  · exact Nat.lt_succ_of_le (cutPiece_leads ‹_›).suffix.length_le

end DocQuery.Lexing
