import DocQuery.Proofs.Lexing.Failures
import DocQuery.Proofs.Lexing.TwoPass

/-!
The selection of a recognizer. A character starts recognizers of one kind at most, comments apart,
and the recognizer that it selects answers its first character. So of the failures for text that is
left out on purpose only one can occur, a value nested in an array literal
(`selection_unambiguous`). No state of a region has a part in this: every character is looked at,
and every recognizer whether a text leads to it or not.
-/

namespace DocQuery.Lexing

open DocQuery.Text

section Selecting

/-- What a character selects: the kind that it starts, a comment if it is a slash, or nothing. -/
inductive Selects (c : Char) : Except Cause RecognizerKind → Prop where
  | started {kind : RecognizerKind} (plain : kind ≠ .comment) (starts : kind.canStart c = true) :
      Selects c (.ok kind)
  | slash (isSlash : c = '/') : Selects c (.ok .comment)
  | nothing (unknown : ∀ kind : RecognizerKind, kind.canStart c = false) :
      Selects c (.error (.unexpectedCharacter c))

/-- A kind that starts with the character is the one that is selected, unless it is a comment. -/
theorem select_of_canStart {kind : RecognizerKind} {c : Char} (plain : kind ≠ .comment)
    (starts : kind.canStart c = true) : RecognizerKind.select c = .ok kind := by
  cases kind with
  | word => exact select_word starts
  | quoted =>
      have mark : c = '\'' ∨ c = '"' := by simpa [RecognizerKind.canStart] using starts
      rcases mark with rfl | rfl <;> rfl
  | number =>
      have digitOrMinus : c.isDigit = true ∨ c = '-' := by
        simpa [RecognizerKind.canStart] using starts
      rcases digitOrMinus with digit | rfl
      · exact select_digit digit
      · rfl
  | symbol => exact select_symbol starts
  | comment => exact absurd rfl plain
  | region =>
      obtain rfl : c = '(' := by simpa [RecognizerKind.canStart] using starts
      rfl
  | comma =>
      obtain rfl : c = ',' := by simpa [RecognizerKind.canStart] using starts
      rfl

theorem selects_select (c : Char) : Selects c (RecognizerKind.select c) := by
  -- A minus starts a comment as well, but it starts a number.
  by_cases started : ∃ kind : RecognizerKind, kind ≠ .comment ∧ kind.canStart c = true
  · obtain ⟨kind, plain, starts⟩ := started
    rw [select_of_canStart plain starts]
    exact .started plain starts
  by_cases isSlash : c = '/'
  · rw [isSlash]
    exact .slash rfl
  have others : ∀ kind : RecognizerKind, kind ≠ .comment → kind.canStart c = false := by
    intro kind plain
    rw [Bool.eq_false_iff]
    exact fun starts => started ⟨kind, plain, starts⟩
  have unknown : ∀ kind : RecognizerKind, kind.canStart c = false := by
    intro kind
    by_cases comment : kind = .comment
    · have noMinus : c ≠ '-' := by
        rintro rfl
        exact started ⟨.number, by decide, rfl⟩
      simp [comment, RecognizerKind.canStart, isSlash, noMinus]
    · exact others kind comment
  have nothing : RecognizerKind.select c = .error (.unexpectedCharacter c) := by
    simp [RecognizerKind.select, RecognizerKind.all, unknown]
  rw [nothing]
  exact .nothing unknown

theorem canStart_of_select {kind : RecognizerKind} {c : Char}
    (selected : RecognizerKind.select c = .ok kind) : kind.canStart c = true := by
  have selects := selects_select c
  rw [selected] at selects
  cases selects with
  | started plain starts => exact starts
  | slash isSlash =>
      rw [isSlash]
      rfl

theorem blank_starts_nothing {c : Char} (blank : isBlank c = true) (kind : RecognizerKind) :
    kind.canStart c = false := by
  -- Here the tables of letters and blanks have to be apart.
  have apart : ∀ range ∈ blankRanges, ∀ code ∈ List.range' range.1 (range.2 + 1 - range.1),
      ∀ kind ∈ RecognizerKind.all, kind.canStart (Char.ofNat code) = false := by decide +kernel
  obtain ⟨range, listed, within⟩ := List.any_eq_true.mp blank
  simp only [Bool.and_eq_true, decide_eq_true_eq] at within
  have code : c.toNat ∈ List.range' range.1 (range.2 + 1 - range.1) := by
    rw [List.mem_range'_1]
    omega
  have listedKind : kind ∈ RecognizerKind.all := by cases kind <;> decide
  simpa using apart range listed c.toNat code kind listedKind

theorem isWordPart_of_isWordStart {c : Char} (start : isWordStart c = true) :
    isWordPart c = true := by
  simp only [isWordStart, isWordPart, isAlphanumeric, Bool.or_eq_true] at start ⊢
  rcases start with (((letter | underscore) | star) | dollar) | at_sign <;> simp [*]

theorem begin_eq_accept (kind : RecognizerKind) (c : Char) (around : Surroundings) :
    kind.begin c around = (Recognizer.fresh kind).accept c around := by
  cases kind <;> rfl

theorem answer_not_done {state : Lexeme} {c : Char} {around : Surroundings}
    (answers : state.accept c around ≠ .done) : (state.answer c around).verdict ≠ .done := by
  unfold Lexeme.answer
  cases reply : state.accept c around with
  | taken next => simp
  | done => exact absurd reply answers
  | refused cause => simp

theorem fresh_answers {kind : RecognizerKind} {c : Char} (starts : kind.canStart c = true)
    (around : Surroundings) : ((Recognizer.fresh kind).accept c around).verdict ≠ .done := by
  cases kind with
  | word =>
      have inWord := isWordPart_of_isWordStart starts
      apply answer_not_done
      simp only [Lexeme.accept, Word.accept, Nat.lt_irrefl, inWord, ↓reduceIte]
      split
      · simp [Reply.map]
      · split <;> simp [Reply.map]
  | quoted => exact answer_not_done (by simp [Lexeme.accept, Quoted.accept, Reply.map])
  | number => exact answer_not_done (by simp [Lexeme.accept, Digits.accept])
  | symbol =>
      have inSymbol : isSymbolPart c = true := starts
      exact answer_not_done (by simp [Lexeme.accept, inSymbol])
  | comment => exact answer_not_done (by simp [Lexeme.accept, Comment.accept, Reply.map])
  | region => simp [Recognizer.fresh, Recognizer.accept, Frame.parenthesised]
  | comma =>
      apply answer_not_done
      simp only [Lexeme.accept]
      split <;> simp

/-- A region passes on what the selected recognizer says to its first character. -/
theorem dispatch_verdict {kind : RecognizerKind} {c : Char}
    (selected : RecognizerKind.select c = .ok kind) (frame : Frame) (around : Surroundings) :
    (frame.dispatch c around).verdict = ((Recognizer.fresh kind).accept c around).verdict := by
  have starts := canStart_of_select selected
  have answers := fresh_answers starts around
  have solid : isBlank c = false := by
    rw [Bool.eq_false_iff]
    intro blank
    rw [blank_starts_nothing blank kind] at starts
    cases starts
  have noClosing : c ≠ ')' := by
    rintro rfl
    cases selected
  simp only [Frame.dispatch, solid, noClosing, selected, begin_eq_accept, Bool.false_eq_true,
    ↓reduceIte]
  cases verdict : ((Recognizer.fresh kind).accept c around).verdict with
  | taken => rfl
  | done => exact absurd verdict answers
  | refused failure => rfl

end Selecting

section Causes

/-- Of the causes for text that is left out on purpose, a value nested in an array literal. -/
def Cause.Foreseen (cause : Cause) : Prop :=
  cause.kind = .unsupported → cause = .nestedValue .block ∨ cause = .nestedValue .array

theorem foreseen_of_malformed {cause : Cause} (malformed : cause.kind = .malformed) :
    cause.Foreseen := by
  intro unsupported
  rw [malformed] at unsupported
  cases unsupported

variable {c : Char} {around : Surroundings} {cause : Cause} {failure : Failure}

theorem Lexeme.accept_malformed {state : Lexeme}
    (refused : state.accept c around = .refused cause) : cause.kind = .malformed := by
  cases state with
  | word state =>
      simp only [Lexeme.accept, Word.accept] at refused
      repeat' split at refused
      all_goals simp [Reply.map] at refused
      all_goals rw [← refused]; rfl
  | quoted state =>
      simp only [Lexeme.accept, Quoted.accept] at refused
      repeat' split at refused
      all_goals simp [Reply.map] at refused
      all_goals rw [← refused]; rfl
  | number state =>
      simp only [Lexeme.accept, Digits.accept] at refused
      repeat' split at refused
      all_goals simp at refused
      all_goals rw [← refused]; rfl
  | symbol content =>
      simp only [Lexeme.accept] at refused
      split at refused <;> simp at refused
  | comment state =>
      simp only [Lexeme.accept, Comment.accept] at refused
      repeat' split at refused
      all_goals simp [Reply.map] at refused
      all_goals rw [← refused]; rfl
  | comma seen =>
      cases seen with
      | true => cases refused
      | false =>
          simp only [Lexeme.accept] at refused
          split at refused
          · cases refused
            rfl
          · cases refused

theorem Lexeme.drain_malformed {state : Lexeme} (fails : state.drain.1 = .error cause) :
    cause.kind = .malformed := by
  cases state with
  | word state =>
      have incomplete : state.drain.1 = .error cause := fails
      unfold Word.drain at incomplete
      repeat' split at incomplete
      all_goals cases incomplete
      rfl
  | quoted state =>
      have incomplete : state.drain.1 = .error cause := fails
      unfold Quoted.drain at incomplete
      split at incomplete <;> cases incomplete
      rfl
  | number state =>
      have incomplete : state.drain.1 = .error cause := fails
      unfold Digits.drain at incomplete
      split at incomplete <;> cases incomplete
      rfl
  | symbol content => cases fails
  | comment state =>
      obtain ⟨_ | (_ | _ | _), _, _, _ | _⟩ := state <;> cases fails
      all_goals rfl
  | comma seen => cases fails

theorem emit_foreseen {tokens : List Token} {commas : Nat}
    (fails : Frame.emit tokens commas = .error cause) : cause.Foreseen := by
  unfold Frame.emit at fails
  split at fails
  · simp only at fails
    split at fails
    next nested found =>
      cases fails
      have isNested := List.find?_some found
      simp only [Token.isNested, Bool.or_eq_true, beq_iff_eq] at isNested
      intro unsupported
      rcases isNested with block | array
      · exact .inl (by rw [block])
      · exact .inr (by rw [array])
    next =>
      split at fails
      · cases fails
        exact foreseen_of_malformed rfl
      · cases fails
  · split at fails <;> cases fails

theorem Frame.drain_foreseen {frame : Frame}
    (fails : (frame.drain around).result = .error failure) : failure.cause.Foreseen := by
  unfold Frame.drain at fails
  split at fails
  · cases fails
  split at fails
  · cases fails
    exact foreseen_of_malformed rfl
  · obtain ⟨cause, emitted, rfl⟩ := mapError_eq_error_iff.mp fails
    exact emit_foreseen emitted

theorem Recognizer.drain_foreseen {recognizer : Recognizer}
    (fails : (recognizer.drain around).result = .error failure) : failure.cause.Foreseen := by
  induction recognizer generalizing around with
  | lexeme state =>
      obtain ⟨cause, incomplete, rfl⟩ := mapError_eq_error_iff.mp fails
      exact foreseen_of_malformed (Lexeme.drain_malformed incomplete)
  | region frame => exact Frame.drain_foreseen fails
  | regionOver frame active ih =>
      simp only [Recognizer.drain] at fails
      split at fails
      next inner =>
        cases fails
        exact ih inner
      next => exact Frame.drain_foreseen fails

theorem answer_foreseen {state : Lexeme}
    (refused : (state.answer c around).verdict = .refused failure) : failure.cause.Foreseen := by
  unfold Lexeme.answer at refused
  split at refused <;> cases refused
  next reply => exact foreseen_of_malformed (Lexeme.accept_malformed reply)

theorem begin_foreseen {kind : RecognizerKind}
    (refused : (kind.begin c around).verdict = .refused failure) : failure.cause.Foreseen := by
  unfold RecognizerKind.begin at refused
  split at refused
  · exact answer_foreseen refused
  · cases refused
  · cases refused

theorem dispatch_foreseen {frame : Frame}
    (refused : (frame.dispatch c around).verdict = .refused failure) : failure.cause.Foreseen := by
  have selects := selects_select c
  simp only [Frame.dispatch] at refused
  split at refused
  · cases refused
  split at refused
  · split at refused <;> cases refused
    exact foreseen_of_malformed rfl
  split at refused
  next cause selected =>
    cases refused
    rw [selected] at selects
    cases selects
    exact foreseen_of_malformed rfl
  next kind selected =>
    split at refused
    · cases refused
    · cases refused
      exact foreseen_of_malformed rfl
    next met first =>
      cases refused
      exact begin_foreseen first

theorem Recognizer.accept_foreseen {recognizer : Recognizer}
    (refused : (recognizer.accept c around).verdict = .refused failure) :
    failure.cause.Foreseen := by
  induction recognizer generalizing around with
  | lexeme state => exact answer_foreseen refused
  | region frame =>
      simp only [Recognizer.accept] at refused
      split at refused
      · cases refused
      split at refused
      · cases refused
      · exact dispatch_foreseen refused
  | regionOver frame active ih =>
      have answers := accept_answers frame active c around
      generalize (Recognizer.regionOver frame active).accept c around = answer at answers refused
      cases answers with
      | behind | opening => cases refused
      | inside => exact ih refused
      | stuck _ fails =>
          cases refused
          exact Recognizer.drain_foreseen fails
      | onward => exact dispatch_foreseen refused

theorem tokenise_foreseen {text : String} (fails : tokenise text = .error failure) :
    failure.cause.Foreseen := by
  rcases (tokenise_eq_error_iff text failure).mp fails with ⟨k, refused⟩ | unfinished
  · obtain ⟨reader, c, -, -, refuses⟩ := refused
    exact Recognizer.accept_foreseen refuses
  · obtain ⟨reader, -, drains⟩ := unfinished
    exact Recognizer.drain_foreseen drains

end Causes

/-- No character starts lexemes of two kinds, comments apart, and the lexeme that is selected takes
the character. So nothing but nested values is ever left out on purpose. -/
theorem selection_unambiguous :
    (∀ (c : Char) (kind other : RecognizerKind), kind ≠ .comment → other ≠ .comment →
      kind.canStart c = true → other.canStart c = true → kind = other) ∧
    (∀ (c d : Char) (kinds : List RecognizerKind),
      RecognizerKind.select c ≠ .error (.ambiguousCharacter d kinds)) ∧
    (∀ (c : Char) (kind : RecognizerKind), RecognizerKind.select c = .ok kind →
      kind.canStart c = true ∧ (kind = .comment → c = '/') ∧
        ∀ (frame : Frame) (around : Surroundings),
          ((Recognizer.fresh kind).accept c around).verdict ≠ .done ∧
            (frame.dispatch c around).verdict =
              ((Recognizer.fresh kind).accept c around).verdict) ∧
    ∀ (text : String) (failure : Failure), tokenise text = .error failure →
      failure.cause.kind = .unsupported →
        failure.cause = .nestedValue .block ∨ failure.cause = .nestedValue .array := by
  refine ⟨?_, ?_, ?_, fun text failure fails => tokenise_foreseen fails⟩
  · intro c kind other plain otherPlain starts otherStarts
    have selected := select_of_canStart plain starts
    rw [select_of_canStart otherPlain otherStarts, Except.ok.injEq] at selected
    exact selected.symm
  -- What selects is one kind or none, whatever else the character could start.
  · intro c d kinds ambiguous
    have selects := selects_select c
    rw [ambiguous] at selects
    cases selects
  · intro c kind selected
    have starts := canStart_of_select selected
    refine ⟨starts, ?_, fun frame around =>
      ⟨fresh_answers starts around, dispatch_verdict selected frame around⟩⟩
    rintro rfl
    have selects := selects_select c
    rw [selected] at selects
    cases selects with
    | started plain _ => exact absurd rfl plain
    | slash isSlash => exact isSlash

theorem minus_selects_number :
    RecognizerKind.comment.canStart '-' = true ∧ RecognizerKind.select '-' = .ok .number ∧
      (Frame.parenthesised.dispatch '-' {}).verdict ≠ .done ∧
      tokenise "(1, (-2))" = .error ⟨.nestedValue .array, ⟨1, 10⟩⟩ ∧
      (Cause.nestedValue .array = .nestedValue .block ∨
        Cause.nestedValue .array = .nestedValue .array) := by
  -- A minus starts a comment as well, and a list in a list is left out on purpose.
  obtain ⟨-, -, selects, unsupported⟩ := selection_unambiguous
  have selected : RecognizerKind.select '-' = .ok .number := rfl
  obtain ⟨-, -, first⟩ := selects '-' .number selected
  obtain ⟨answers, passed⟩ := first .parenthesised {}
  have fails : tokenise "(1, (-2))" = .error ⟨.nestedValue .array, ⟨1, 10⟩⟩ := rfl
  exact ⟨rfl, selected, passed ▸ answers, fails, unsupported _ _ fails rfl⟩

end DocQuery.Lexing
