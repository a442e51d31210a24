import DocQuery.Proofs.Lexing.Pieces

/-!
Each kind of lexeme, wherever it is active, reads the cut of its kind: the machine takes the
characters one at a time and learns only from the next one that it is done, and yet it neither
loses a character at the border nor reads one twice.
-/

namespace DocQuery.Lexing

open DocQuery.Text

def Levels.behind (levels : Levels) (last : Option RecognizerKind) (token : Token)
    (rest : List Char) : Option (List Token) :=
  ((levels.collect [token]).idle.read last rest).toOption

/-- Goes on behind a cut, if there is one, with the content read before it and in it. -/
def resume (found : Option Cut) (content : String)
    (next : String → List Char → Option (List Token)) : Option (List Token) :=
  found.bind fun cut => next (content ++ String.ofList cut.taken) cut.rest

theorem resume_cons (found : Option Cut) (c : Char) (content : String)
    (next : String → List Char → Option (List Token)) :
    resume (found.map (Cut.cons c)) content next = resume found (content.push c) next := by
  cases found with
  | none => rfl
  | some cut => simp only [resume, Option.map_some, Option.bind_some, Cut.cons, push_append_ofList]

section Classes

theorem startsName_eq (c : Char) : startsName c = isWordStart c := by
  rw [Bool.eq_iff_iff]
  simp [startsName, isWordStart, or_assoc]

theorem continuesName_eq (c : Char) : continuesName c = isWordPart c := by
  rw [Bool.eq_iff_iff]
  simp [continuesName, isWordPart, or_assoc]

theorem inSymbol_eq (c : Char) : inSymbol c = isSymbolPart c := by
  rw [Bool.eq_iff_iff]
  simp [inSymbol, isSymbolPart, or_assoc, or_left_comm]

end Classes

variable {levels : Levels} {previous : Option RecognizerKind}

section Names

def Levels.behindName (levels : Levels) (content : String) : List Char → Option (List Token) :=
  levels.behind (some .word) { kind := Word.kind content, content }

theorem Word.accept_outside (content : String) (c : Char) :
    Word.accept ⟨content, 0⟩ c =
      if c = '[' then .taken ⟨content.push c, 1⟩
      else if c = ']' then .refused .unopenedBracket
      else if continuesName c then .taken ⟨content.push c, 0⟩
      else .done := by
  simp [Word.accept, continuesName_eq]

theorem Word.accept_inside (content : String) (depth : Nat) (c : Char) :
    Word.accept ⟨content, depth + 1⟩ c =
      if c = '\n' then .refused (.unclosedBracket content)
      else if c = '[' then .taken ⟨content.push c, depth + 2⟩
      else if c = ']' then .taken ⟨content.push c, depth⟩
      else .taken ⟨content.push c, depth + 1⟩ := by
  simp [Word.accept]

theorem read_name_taken (content : String) (depth depth' : Nat) (c : Char) (rest : List Char)
    (found : Option Cut)
    (taken : Word.accept ⟨content, depth⟩ c = .taken ⟨content.push c, depth'⟩)
    (later : ((levels.over (.lexeme (.word ⟨content.push c, depth'⟩))).read previous
      rest).toOption = resume found (content.push c) levels.behindName) :
    ((levels.over (.lexeme (.word ⟨content, depth⟩))).read previous (c :: rest)).toOption =
      resume (found.map (Cut.cons c)) content levels.behindName := by
  have step : (Lexeme.word ⟨content, depth⟩).accept c (following previous) =
      .taken (.word ⟨content.push c, depth'⟩) := by
    simp only [Lexeme.accept, taken, Reply.map]
  rw [read_lexeme_taken levels rest step, resume_cons, later]

theorem read_name (content : String) (nonempty : content ≠ "") (depth : Nat)
    (chars : List Char) :
    ((levels.over (.lexeme (.word ⟨content, depth⟩))).read previous chars).toOption =
      resume (cutName depth chars) content levels.behindName := by
  have pushed : ∀ c, content.push c ≠ "" := by simp
  -- The cut and the recognizer count the same brackets, so they leave the name at the same place.
  fun_induction cutName depth chars generalizing content with
  | case1 =>
      rw [read_lexeme_done levels [] (by simp)]
      simp [Lexeme.drain, Word.drain, nonempty, resume]
      rfl
  | case2 depth =>
      rw [read_lexeme_done levels [] (by simp)]
      rfl
  | case3 rest ih =>
      exact read_name_taken content 0 1 _ rest _ (by simp [Word.accept_outside])
        (ih _ (pushed _) (by simp))
  | case4 rest _ =>
      have step : (Lexeme.word ⟨content, 0⟩).accept ']' (following previous) =
          .refused .unopenedBracket := by
        simp [Lexeme.accept, Word.accept_outside, Reply.map]
      rw [read_lexeme_refused levels rest step]
      rfl
  | case5 c rest noOpening noClosing part ih =>
      exact read_name_taken content 0 0 _ rest _
        (by simp [Word.accept_outside, noOpening, noClosing, part]) (ih _ (pushed _) (by simp))
  | case6 c rest noOpening noClosing noPart =>
      have done : ∀ d ∈ (c :: rest).head?,
          (Lexeme.word ⟨content, 0⟩).accept d (following previous) = .done := by
        rintro d ⟨⟩
        simp [Lexeme.accept, Word.accept_outside, noOpening, noClosing, noPart, Reply.map]
      rw [read_lexeme_done levels _ done]
      simp [Lexeme.drain, Word.drain, nonempty, resume]
      rfl
  | case7 depth rest =>
      have step : (Lexeme.word ⟨content, depth + 1⟩).accept '\n' (following previous) =
          .refused (.unclosedBracket content) := by
        simp [Lexeme.accept, Word.accept_inside, Reply.map]
      rw [read_lexeme_refused levels rest step]
      rfl
  | case8 depth rest noEnd ih =>
      exact read_name_taken content (depth + 1) (depth + 2) _ rest _
        (by simp [Word.accept_inside]) (ih _ (pushed _) (by simp))
  | case9 depth rest noEnd noOpening ih =>
      exact read_name_taken content (depth + 1) depth _ rest _
        (by simp [Word.accept_inside]) (ih _ (pushed _) (by simp))
  | case10 depth c rest noEnd noOpening noClosing ih =>
      exact read_name_taken content (depth + 1) (depth + 1) _ rest _
        (by simp [Word.accept_inside, noEnd, noOpening, noClosing]) (ih _ (pushed _) (by simp))

end Names

section Texts

def Levels.behindText (levels : Levels) (content : String) : List Char → Option (List Token) :=
  levels.behind (some .quoted) { kind := .text, content }

theorem Quoted.accept_open (quote : Char) (content : String) (c : Char) :
    Quoted.accept ⟨some quote, content, false⟩ c =
      if c = quote then .taken ⟨some quote, content, true⟩
      else if c = '\n' then .refused .lineEndsInQuotes
      else .taken ⟨some quote, content.push c, false⟩ := by
  simp [Quoted.accept]

theorem Quoted.accept_closing (quote : Char) (content : String) (c : Char) :
    Quoted.accept ⟨some quote, content, true⟩ c =
      if c = quote then .taken ⟨some quote, content.push quote, false⟩ else .done := by
  simp [Quoted.accept]

theorem read_closed {quote : Char} {chars : List Char} (ends : chars.head? ≠ some quote)
    (content : String) :
    ((levels.over (.lexeme (.quoted ⟨some quote, content, true⟩))).read previous
        chars).toOption = resume (cutQuoted quote (quote :: chars)) content levels.behindText := by
  -- A text that has been closed, by the end of everything or by something that is not its quote.
  have done : ∀ c ∈ chars.head?,
      (Lexeme.quoted ⟨some quote, content, true⟩).accept c (following previous) = .done := by
    intro c first
    have other : c ≠ quote := fun same => ends (same ▸ first)
    simp [Lexeme.accept, Quoted.accept_closing, other, Reply.map]
  rw [read_lexeme_done levels _ done, cutQuoted_closed ends]
  simp [Lexeme.drain, Quoted.drain, resume]
  rfl

theorem read_quoted (quote : Char) (chars : List Char) :
    ∀ content,
      ((levels.over (.lexeme (.quoted ⟨some quote, content, false⟩))).read previous
          chars).toOption = resume (cutQuoted quote chars) content levels.behindText ∧
      ((levels.over (.lexeme (.quoted ⟨some quote, content, true⟩))).read previous
          chars).toOption =
        resume (cutQuoted quote (quote :: chars)) content levels.behindText := by
  -- Behind a quote the machine does not know yet whether the text goes on. It stands as if the
  -- quote were still in front of it.
  induction chars with
  | nil =>
      intro content
      refine ⟨?_, read_closed (by simp) content⟩
      rw [read_lexeme_done levels [] (by simp)]
      rfl
  | cons c rest ih =>
      intro content
      by_cases same : c = quote
      · subst same
        constructor
        · have step : (Lexeme.quoted ⟨some c, content, false⟩).accept c (following previous) =
              .taken (.quoted ⟨some c, content, true⟩) := by
            simp [Lexeme.accept, Quoted.accept_open, Reply.map]
          rw [read_lexeme_taken levels rest step]
          exact (ih content).2
        · have step : (Lexeme.quoted ⟨some c, content, true⟩).accept c (following previous) =
              .taken (.quoted ⟨some c, content.push c, false⟩) := by
            simp [Lexeme.accept, Quoted.accept_closing, Reply.map]
          rw [read_lexeme_taken levels rest step, cutQuoted_doubled, resume_cons]
          exact (ih (content.push c)).1
      · refine ⟨?_, read_closed (by simpa using same) content⟩
        rw [cutQuoted_other same]
        by_cases ends : c = '\n'
        · subst ends
          have step : (Lexeme.quoted ⟨some quote, content, false⟩).accept '\n'
              (following previous) = .refused .lineEndsInQuotes := by
            simp [Lexeme.accept, Quoted.accept_open, Reply.map, same]
          rw [read_lexeme_refused levels rest step, if_pos rfl]
          rfl
        · have step : (Lexeme.quoted ⟨some quote, content, false⟩).accept c
              (following previous) = .taken (.quoted ⟨some quote, content.push c, false⟩) := by
            simp [Lexeme.accept, Quoted.accept_open, Reply.map, same, ends]
          rw [read_lexeme_taken levels rest step, if_neg ends, resume_cons]
          exact (ih (content.push c)).1

end Texts

section Comments

theorem read_lineComment (chars : List Char) :
    (levels.over (.lexeme (.comment .toLineEnd))).read previous chars =
      (levels.collect [tokenOf .comment (cutWhile (· != '\n') chars).taken]).idle.read previous
        (cutWhile (· != '\n') chars).rest := by
  have gathers : ∀ content c, (c != '\n') = true →
      (Lexeme.comment { style := some .line, content }).accept c (following previous) =
        .taken (.comment { style := some .line, content := content.push c }) := by
    intro content c within
    have other : c ≠ '\n' := by simpa using within
    simp [Lexeme.accept, Comment.accept, Reply.map, other]
  have run := read_lexeme_while levels
    (fun content => .comment { style := some .line, content }) (· != '\n') gathers "" chars
  have done : ∀ c ∈ (chars.dropWhile (· != '\n')).head?, ∀ content,
      (Lexeme.comment { style := some .line, content }).accept c (following previous) = .done := by
    intro c first content
    have ends := List.head?_dropWhile_not (· != '\n') chars
    rw [first] at ends
    have same : c = '\n' := by simpa using ends
    simp [Lexeme.accept, Comment.accept, Reply.map, same]
  rw [Comment.toLineEnd, run, read_lexeme_done levels _ fun c first => done c first _]
  simp [Lexeme.drain, Comment.drain, cutWhile, tokenOf]
  rfl

/-- What is read behind the rest of a block comment, if the comment ends. What was collected before
it stays the last thing collected. -/
def Levels.behindComment (levels : Levels) (previous : Option RecognizerKind) (content : String) :
    Option Cut → Except Cause (List Token)
  | none => .error .unclosedComment
  | some cut =>
      (levels.collect [{ kind := .comment, content := content ++ String.ofList cut.taken }]).idle.read
        previous cut.rest

theorem behindComment_cons (found : Option Cut) (c : Char) (content : String) :
    levels.behindComment previous content (found.map (Cut.cons c)) =
      levels.behindComment previous (content.push c) found := by
  cases found with
  | none => rfl
  | some cut => simp only [Levels.behindComment, Option.map_some, Cut.cons, push_append_ofList]

theorem cutBlockComment_star (rest : List Char) (goesOn : rest.head? ≠ some '/') :
    cutBlockComment ('*' :: rest) = (cutBlockComment rest).map (.cons '*') := by
  cases rest with
  | nil => rfl
  | cons d tail =>
      rw [cutBlockComment.eq_3]
      rintro tail' - ⟨⟩
      simp at goesOn

theorem cutBlockComment_other {c : Char} (other : c ≠ '*') (rest : List Char) :
    cutBlockComment (c :: rest) = (cutBlockComment rest).map (.cons c) := by
  rw [cutBlockComment.eq_3]
  rintro tail same -
  exact other same

def inBlock (content : String) (star : Bool) : Lexeme :=
  .comment ⟨some .block, content, star, false⟩

theorem read_block (content : String) (c : Char) (rest : List Char) :
    (levels.over (.lexeme (inBlock content false))).read previous (c :: rest) =
      (levels.over (.lexeme
        (if c = '*' then inBlock content true else inBlock (content.push c) false))).read previous
          rest := by
  apply read_lexeme_taken
  by_cases star : c = '*' <;>
    simp [inBlock, Lexeme.accept, Comment.accept, Reply.map, star]

/-- A star is content unless a slash follows. -/
theorem read_block_star (content : String) {c : Char} (noSlash : c ≠ '/') (rest : List Char) :
    (levels.over (.lexeme (inBlock content true))).read previous (c :: rest) =
      (levels.over (.lexeme (inBlock (content.push '*') false))).read previous (c :: rest) := by
  rw [read_block]
  apply read_lexeme_taken
  by_cases star : c = '*' <;>
    simp [inBlock, Lexeme.accept, Comment.accept, Reply.map, star, noSlash]

theorem read_block_end (content : String) (rest : List Char) :
    (levels.over (.lexeme (inBlock content true))).read previous ('/' :: rest) =
      levels.behindComment previous content (some ⟨[], rest⟩) := by
  have step : (inBlock content true).accept '/' (following previous) =
      .taken (.comment ⟨some .block, content, true, true⟩) := by
    simp [inBlock, Lexeme.accept, Comment.accept, Reply.map]
  have done : ∀ c ∈ rest.head?, (Lexeme.comment ⟨some .block, content, true, true⟩).accept c
      (following previous) = .done := by
    intro c _
    simp [Lexeme.accept, Comment.accept, Reply.map]
  rw [read_lexeme_taken levels rest step, read_lexeme_done levels rest done]
  simp [Lexeme.drain, Comment.drain, Levels.behindComment]
  rfl

theorem read_blockComment (chars : List Char) :
    ∀ content,
      (levels.over (.lexeme (inBlock content false))).read previous chars =
        levels.behindComment previous content (cutBlockComment chars) ∧
      (levels.over (.lexeme (inBlock content true))).read previous chars =
        levels.behindComment previous content (cutBlockComment ('*' :: chars)) := by
  -- As with quotes: a star may be the first half of the mark that ends the comment.
  induction chars with
  | nil =>
      intro content
      constructor
      · rw [inBlock, read_lexeme_done levels [] (by simp)]
        rfl
      · rw [inBlock, read_lexeme_done levels [] (by simp)]
        rfl
  | cons c rest ih =>
      have opened : ∀ content,
          (levels.over (.lexeme (inBlock content false))).read previous (c :: rest) =
            levels.behindComment previous content (cutBlockComment (c :: rest)) := by
        intro content
        rw [read_block]
        split
        next star =>
          subst star
          exact (ih content).2
        next other =>
          rw [cutBlockComment_other other, behindComment_cons]
          exact (ih _).1
      intro content
      refine ⟨opened content, ?_⟩
      by_cases slash : c = '/'
      · subst slash
        exact read_block_end content rest
      · rw [read_block_star content slash, opened, cutBlockComment_star _ (by simpa using slash),
          behindComment_cons]

end Comments

section Numbers

def Levels.behindNumber (levels : Levels) (content : String) : List Char → Option (List Token) :=
  levels.behind (some .number) { kind := .number, content }

def HasDigit (content : String) : Prop := content ≠ "" ∧ content ≠ "-"

theorem Digits.accept_other {content : String} (started : HasDigit content) (point : Bool)
    {c : Char} (other : c.isDigit = false) :
    Digits.accept ⟨content, point⟩ c =
      if c = '.' then
        if point then .refused (.repeatedPoint content)
        else .taken (.number ⟨content.push c, true⟩)
      else .done := by
  simp [Digits.accept, started.1, started.2, other]

theorem read_digits (content : String) (point : Bool) (chars : List Char) :
    (levels.over (.lexeme (.number ⟨content, point⟩))).read previous chars =
      (levels.over (.lexeme (.number
        ⟨content ++ String.ofList (chars.takeWhile Char.isDigit), point⟩))).read previous
          (chars.dropWhile Char.isDigit) := by
  have gathers : ∀ content c, c.isDigit = true →
      (Lexeme.number ⟨content, point⟩).accept c (following previous) =
        .taken (.number ⟨content.push c, point⟩) := by
    intro content c digit
    simp [Lexeme.accept, Digits.accept, digit]
  exact read_lexeme_while levels (fun content => .number ⟨content, point⟩) Char.isDigit gathers
    content chars

theorem read_number_done {content : String} (started : HasDigit content) (point : Bool)
    (chars : List Char) (ends : ∀ c ∈ chars.head?, c.isDigit = false ∧ c ≠ '.') :
    ((levels.over (.lexeme (.number ⟨content, point⟩))).read previous chars).toOption =
      levels.behindNumber content chars := by
  have done : ∀ c ∈ chars.head?,
      (Lexeme.number ⟨content, point⟩).accept c (following previous) = .done := by
    intro c first
    obtain ⟨noDigit, noPoint⟩ := ends c first
    simp [Lexeme.accept, Digits.accept_other started point noDigit, noPoint]
  rw [read_lexeme_done levels chars done]
  simp [Lexeme.drain, Digits.drain, started.2]
  rfl

theorem HasDigit.append {content : String} (started : HasDigit content) (more : String) :
    HasDigit (content ++ more) := by
  obtain ⟨nonempty, noMinus⟩ := started
  constructor
  · simp [nonempty]
  · intro same
    have chars : content.toList ++ more.toList = ['-'] := by
      rw [← String.toList_append, same]
      rfl
    rcases List.append_eq_singleton_iff.mp chars with ⟨empty, _⟩ | ⟨minus, _⟩
    · exact nonempty (String.toList_eq_nil_iff.mp empty)
    · exact noMinus (String.toList_injective minus)

theorem HasDigit.of_push (content : String) {d : Char} (digit : d.isDigit = true) :
    HasDigit (content.push d) := by
  refine ⟨by simp, ?_⟩
  intro same
  have chars : content.toList ++ [d] = [] ++ ['-'] := by
    rw [← String.toList_push, same]
    rfl
  obtain ⟨_, last⟩ := List.append_inj' chars rfl
  cases last
  simp at digit

theorem head_dropWhile_isDigit {chars : List Char} {c : Char}
    (first : c ∈ (chars.dropWhile Char.isDigit).head?) : c.isDigit = false := by
  have ends := List.head?_dropWhile_not Char.isDigit chars
  rw [first] at ends
  simpa using ends

/-- Behind its point a number has only digits left, and another point is one too many. -/
theorem read_fraction {content : String} (started : HasDigit content) (chars : List Char) :
    ((levels.over (.lexeme (.number ⟨content, true⟩))).read previous chars).toOption =
      if (chars.dropWhile Char.isDigit).head? = some '.' then none
      else levels.behindNumber (content ++ String.ofList (chars.takeWhile Char.isDigit))
        (chars.dropWhile Char.isDigit) := by
  rw [read_digits]
  have startedFraction := started.append (String.ofList (chars.takeWhile Char.isDigit))
  by_cases second : (chars.dropWhile Char.isDigit).head? = some '.'
  · obtain ⟨rest, shape⟩ := List.head?_eq_some_iff.mp second
    have step : (Lexeme.number
        ⟨content ++ String.ofList (chars.takeWhile Char.isDigit), true⟩).accept '.'
          (following previous) = .refused (.repeatedPoint
            (content ++ String.ofList (chars.takeWhile Char.isDigit))) := by
      simp [Lexeme.accept, Digits.accept_other startedFraction]
    rw [if_pos second, shape, read_lexeme_refused levels rest step]
    rfl
  · rw [if_neg second, read_number_done startedFraction]
    intro c first
    refine ⟨head_dropWhile_isDigit first, ?_⟩
    rintro rfl
    exact second first

theorem read_number {content : String} (started : HasDigit content) (chars : List Char) :
    ((levels.over (.lexeme (.number ⟨content, false⟩))).read previous chars).toOption =
      resume (cutNumber chars) content levels.behindNumber := by
  rw [read_digits]
  have startedWhole := started.append (String.ofList (chars.takeWhile Char.isDigit))
  simp only [cutNumber, cutWhile]
  split
  next behind shape =>
    have step : (Lexeme.number
        ⟨content ++ String.ofList (chars.takeWhile Char.isDigit), false⟩).accept '.'
          (following previous) = .taken (.number
            ⟨(content ++ String.ofList (chars.takeWhile Char.isDigit)).push '.', true⟩) := by
      simp [Lexeme.accept, Digits.accept_other startedWhole]
    have startedPoint := startedWhole.append (String.ofList ['.'])
    rw [← push_append_ofList] at startedPoint
    rw [shape, read_lexeme_taken levels behind step, read_fraction (by simpa using startedPoint)]
    -- The digits behind the point are followed by another point, which neither of them admits, or
    -- end the number.
    by_cases second : (behind.dropWhile Char.isDigit).head? = some '.'
    · simp only [second, ↓reduceIte, resume, Option.bind_none]
    · simp only [second, ↓reduceIte, resume, Option.bind_some, push_append_ofList,
        String.append_assoc, ← String.ofList_append]
  next noPoint =>
    rw [read_number_done startedWhole]
    · rfl
    · intro c first
      refine ⟨head_dropWhile_isDigit first, ?_⟩
      rintro rfl
      obtain ⟨rest, shape⟩ := List.head?_eq_some_iff.mp first
      exact noPoint rest shape

end Numbers

section Symbols

def Levels.behindSymbol (levels : Levels) (content : String) : List Char → Option (List Token) :=
  levels.behind (some .symbol) { kind := .operator, content }

theorem read_symbol (content : String) (chars : List Char) :
    ((levels.over (.lexeme (.symbol content))).read previous chars).toOption =
      levels.behindSymbol (content ++ String.ofList (cutWhile inSymbol chars).taken)
        (cutWhile inSymbol chars).rest := by
  have gathers : ∀ content c, inSymbol c = true →
      (Lexeme.symbol content).accept c (following previous) =
        .taken (.symbol (content.push c)) := by
    intro content c within
    rw [inSymbol_eq] at within
    simp [Lexeme.accept, within]
  have done : ∀ c ∈ (chars.dropWhile inSymbol).head?, ∀ content,
      (Lexeme.symbol content).accept c (following previous) = .done := by
    intro c first content
    have ends := List.head?_dropWhile_not inSymbol chars
    rw [first] at ends
    have outside : isSymbolPart c = false := by simpa [inSymbol_eq] using ends
    simp [Lexeme.accept, outside]
  rw [read_lexeme_while levels Lexeme.symbol inSymbol gathers content chars,
    read_lexeme_done levels _ fun c first => done c first _]
  rfl

end Symbols

end DocQuery.Lexing
