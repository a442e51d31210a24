import DocQuery.Proofs.Lexing.Levels

/-!
The machine at rest. A recognizer that is active in a region has taken its first character
(`Active`), and one that could be drained of its tokens wants no line end. So behind a complete text
and a line end the root region waits with nothing active (`read_line`), and it goes on as if it were
new, the tokens that it holds apart (`read_behind`). Unlike the account by pieces, this one also
holds where what follows cannot be read.
-/

namespace DocQuery.Lexing

open DocQuery.Text

section Activity

def Lexeme.Begun : Lexeme → Prop
  | .word _ | .symbol _ => True
  | .quoted state => ∃ quote, state.quote = some quote ∧ quote ≠ '\n'
  | .number state => state.content ≠ ""
  | .comment state => state.style ≠ none
  | .comma seen => seen = true

/-- A recognizer that is active in a region: a lexeme under way, or a region in parentheses that has
been opened and, if something is active in it, not closed. -/
def Recognizer.Active : Recognizer → Prop
  | .lexeme state => state.Begun
  | .region frame => frame.delimited = true ∧ frame.opened = true
  | .regionOver frame active =>
      frame.delimited = true ∧ frame.opened = true ∧ frame.closed = false ∧ active.Active

def Frame.IsRoot (frame : Frame) : Prop :=
  frame.delimited = false ∧ frame.opened = true ∧ frame.closed = false

def Recognizer.IsRoot : Recognizer → Prop
  | .lexeme _ => False
  | .region frame => frame.IsRoot
  | .regionOver frame active => frame.IsRoot ∧ active.Active

theorem root_isRoot : Recognizer.root.IsRoot := ⟨rfl, rfl, rfl⟩

theorem Lexeme.Begun.accept {state next : Lexeme} {c : Char} {around : Surroundings}
    (begun : state.Begun) (taken : state.accept c around = .taken next) : next.Begun := by
  cases state with
  | word state =>
      simp only [Lexeme.accept] at taken
      cases reply : state.accept c <;> simp [reply, Reply.map] at taken
      rw [← taken]
      trivial
  | quoted state =>
      obtain ⟨quote, opened, inLine⟩ := begun
      simp only [Lexeme.accept, Quoted.accept, opened] at taken
      repeat' split at taken
      all_goals simp [Reply.map] at taken
      all_goals rw [← taken]
      all_goals exact ⟨quote, by simp, inLine⟩
  | number state =>
      simp only [Lexeme.accept, Digits.accept] at taken
      repeat' split at taken
      all_goals simp at taken
      all_goals rw [← taken]
      all_goals simp [Lexeme.Begun, Comment.toLineEnd]
  | symbol content =>
      simp only [Lexeme.accept] at taken
      split at taken
      · simp at taken
        rw [← taken]
        trivial
      · simp at taken
  | comment state =>
      simp only [Lexeme.accept, Comment.accept] at taken
      repeat' split at taken
      all_goals simp [Reply.map] at taken
      all_goals rw [← taken]
      all_goals simp_all [Lexeme.Begun]
  | comma seen =>
      cases begun
      simp [Lexeme.accept] at taken

theorem answer_active {state : Lexeme} {c : Char} {around : Surroundings}
    (begins : ∀ next, state.accept c around = .taken next → next.Begun)
    (taken : (state.answer c around).verdict = .taken) :
    (state.answer c around).left.Active := by
  unfold Lexeme.answer at taken ⊢
  cases reply : state.accept c around with
  | taken next => exact begins next reply
  | done => simp [reply] at taken
  | refused cause => simp [reply] at taken

theorem begin_active {kind : RecognizerKind} {c : Char} {around : Surroundings}
    (solid : isBlank c = false) (taken : (kind.begin c around).verdict = .taken) :
    (kind.begin c around).left.Active := by
  -- The first character of a lexeme is no blank, so that no quote is a line end.
  have inLine : c ≠ '\n' := by
    rintro rfl
    cases solid
  cases kind with
  | word =>
      have begun : (Lexeme.word {}).Begun := trivial
      exact answer_active (fun next reply => begun.accept reply) taken
  | quoted => exact ⟨c, rfl, inLine⟩
  | number =>
      refine answer_active (fun next reply => ?_) taken
      simp only [Lexeme.accept, Digits.accept, true_or, ↓reduceIte, Reply.taken.injEq] at reply
      rw [← reply]
      simp [Lexeme.Begun]
  | symbol =>
      have begun : (Lexeme.symbol "").Begun := trivial
      exact answer_active (fun next reply => begun.accept reply) taken
  | comment =>
      refine answer_active (fun next reply => ?_) taken
      simp only [Lexeme.accept, Comment.accept, Reply.map, Reply.taken.injEq] at reply
      rw [← reply]
      simp [Lexeme.Begun]
  | region => exact ⟨rfl, rfl⟩
  | comma =>
      refine answer_active (fun next reply => ?_) taken
      simp only [Lexeme.accept] at reply
      split at reply
      · cases reply
      · cases reply
        rfl

variable {frame : Frame} {recognizer : Recognizer} {c : Char} {around : Surroundings}

/-- What a region does with a character when nothing is active in it, whatever kind of region it is.
-/
theorem dispatch_left (frame : Frame) (c : Char) (around : Surroundings) :
    (frame.dispatch c around).left = .region frame ∨
      frame.delimited = true ∧ (frame.dispatch c around).left = .region { frame with closed := true } ∨
      ∃ active : Recognizer, active.Active ∧
        (frame.dispatch c around).left = .regionOver frame active := by
  simp only [Frame.dispatch]
  split
  · exact .inl rfl
  next solid =>
  split
  · split
    next delimited => exact .inr (.inl ⟨delimited, rfl⟩)
    · exact .inl rfl
  split
  · exact .inl rfl
  next kind selected =>
    split
    next taken =>
      exact .inr (.inr ⟨_, begin_active (by simpa using solid) taken, rfl⟩)
    · exact .inl rfl
    · exact .inl rfl

theorem dispatch_active (delimited : frame.delimited = true) (opened : frame.opened = true)
    (unclosed : frame.closed = false) : (frame.dispatch c around).left.Active := by
  rcases dispatch_left frame c around with same | ⟨-, closed⟩ | ⟨active, isActive, inside⟩
  · rw [same]
    exact ⟨delimited, opened⟩
  · rw [closed]
    exact ⟨delimited, opened⟩
  · rw [inside]
    exact ⟨delimited, opened, unclosed, isActive⟩

theorem dispatch_isRoot (isRoot : frame.IsRoot) : (frame.dispatch c around).left.IsRoot := by
  rcases dispatch_left frame c around with same | ⟨delimited, -⟩ | ⟨active, isActive, inside⟩
  · rw [same]
    exact isRoot
  · simp [isRoot.1] at delimited
  · rw [inside]
    exact ⟨isRoot, isActive⟩

theorem Recognizer.Active.accept (active : recognizer.Active) :
    (recognizer.accept c around).left.Active := by
  induction recognizer generalizing around with
  | lexeme state =>
      simp only [Recognizer.accept, Lexeme.answer]
      cases reply : state.accept c around with
      | taken next => exact active.accept reply
      | done => exact active
      | refused cause => exact active
  | region frame =>
      obtain ⟨delimited, opened⟩ := active
      simp only [Recognizer.accept, opened]
      split
      · exact ⟨delimited, opened⟩
      next unclosed =>
        simpa using dispatch_active delimited opened (by simpa using unclosed)
  | regionOver frame inside ih =>
      obtain ⟨delimited, opened, unclosed, isActive⟩ := active
      have keeps : (inside.accept c around).left.Active := ih isActive
      have answers := accept_answers frame inside c around
      -- Either the inner recognizer stays, or its tokens are collected and the character is given
      -- out anew.
      generalize (Recognizer.regionOver frame inside).accept c around = answer at answers ⊢
      cases answers with
      | behind => exact ⟨delimited, opened, unclosed, isActive⟩
      | opening => exact ⟨delimited, rfl, unclosed, isActive⟩
      | inside => exact ⟨delimited, opened, unclosed, keeps⟩
      | stuck => exact ⟨delimited, opened⟩
      | onward => exact dispatch_active delimited opened unclosed

theorem Recognizer.IsRoot.accept (isRoot : recognizer.IsRoot) :
    (recognizer.accept c around).left.IsRoot := by
  cases recognizer with
  | lexeme state => cases isRoot
  | region frame =>
      obtain ⟨undelimited, opened, unclosed⟩ := isRoot
      simp only [Recognizer.accept, opened, unclosed]
      exact dispatch_isRoot ⟨undelimited, opened, unclosed⟩
  | regionOver frame inside =>
      obtain ⟨frameRoot, isActive⟩ := isRoot
      have keeps : (inside.accept c around).left.Active := isActive.accept
      have answers := accept_answers frame inside c around
      generalize (Recognizer.regionOver frame inside).accept c around = answer at answers ⊢
      cases answers with
      | behind => exact ⟨frameRoot, isActive⟩
      | opening => exact ⟨⟨frameRoot.1, rfl, frameRoot.2.2⟩, isActive⟩
      | inside => exact ⟨frameRoot, keeps⟩
      | stuck => exact frameRoot
      | onward => exact dispatch_isRoot frameRoot

end Activity

section LineEnds

theorem Lexeme.Begun.lineEnd {state : Lexeme} {tokens : List Token} (begun : state.Begun)
    (drains : state.drain.1 = .ok tokens) (around : Surroundings) :
    state.accept '\n' around = .done := by
  have outside : isWordPart '\n' = false := by decide
  -- What can be drained is complete, and nothing complete goes on with a line end.
  cases state with
  | word state =>
      simp only [Lexeme.drain, Word.drain] at drains
      split at drains
      · cases drains
      next closed => simp [Lexeme.accept, Word.accept, closed, outside, Reply.map]
  | quoted state =>
      obtain ⟨quote, opened, inLine⟩ := begun
      cases closing : state.closing with
      | false => simp [Lexeme.drain, Quoted.drain, opened, closing] at drains
      | true => simp [Lexeme.accept, Quoted.accept, opened, closing, inLine.symm, Reply.map]
  | number state =>
      simp only [Lexeme.drain, Digits.drain] at drains
      split at drains
      · cases drains
      next digits =>
        have nonempty : state.content ≠ "" := begun
        simp [Lexeme.accept, Digits.accept, nonempty, digits]
  | symbol content => simp [Lexeme.accept, isSymbolPart]
  | comment state =>
      obtain ⟨style, content, star, closed⟩ := state
      cases style with
      | none => exact absurd rfl begun
      | some style =>
          cases style with
          | opening first => simp [Lexeme.drain, Comment.drain] at drains
          | line => simp [Lexeme.accept, Comment.accept, Reply.map]
          | block =>
              cases closed with
              | false => simp [Lexeme.drain, Comment.drain] at drains
              | true => simp [Lexeme.accept, Comment.accept, Reply.map]
  | comma seen =>
      cases begun
      rfl

variable {frame : Frame} {recognizer : Recognizer} {around : Surroundings} {tokens : List Token}

theorem closed_of_drains (delimited : frame.delimited = true)
    (drains : (frame.drain around).result = .ok tokens) : frame.closed = true := by
  cases closed : frame.closed with
  | false => simp [Frame.drain, delimited, closed] at drains
  | true => rfl

/-- What can be drained does not take a line end. -/
theorem Recognizer.Active.lineEnd (active : recognizer.Active)
    (drains : (recognizer.drain around).result = .ok tokens) :
    recognizer.accept '\n' around = ⟨.done, recognizer, around⟩ := by
  -- Something is active only in an open region, and an open region cannot be drained.
  cases recognizer with
  | lexeme state =>
      have complete : state.drain.1 = .ok tokens := mapError_eq_ok_iff.mp drains
      have begun : state.Begun := active
      simp only [Recognizer.accept, Lexeme.answer, begun.lineEnd complete]
  | region frame =>
      have closed := closed_of_drains active.1 drains
      simp only [Recognizer.accept, closed, ↓reduceIte]
  | regionOver frame inside =>
      obtain ⟨delimited, -, unclosed, -⟩ := active
      simp only [Recognizer.drain] at drains
      split at drains
      · cases drains
      next collected _ =>
        have closed : (frame.collect collected).closed = true :=
          closed_of_drains delimited drains
        simp [Frame.collect, unclosed] at closed

theorem Frame.IsRoot.eq_root (isRoot : frame.IsRoot) :
    frame = (⟨frame.tokens, frame.commas⟩ : Level).frame [] := by
  obtain ⟨undelimited, opened, unclosed⟩ := isRoot
  cases frame
  simp_all [Level.frame]

theorem Frame.IsRoot.drain (isRoot : frame.IsRoot) :
    (frame.drain around).result = .ok frame.tokens := by
  simp [Frame.drain, isRoot.1]

theorem Frame.IsRoot.lineEnd (isRoot : frame.IsRoot) :
    frame.dispatch '\n' around =
      ⟨.taken, (⟨⟨frame.tokens, frame.commas⟩, []⟩ : Levels).idle, around⟩ := by
  have blank : isBlank '\n' = true := by decide
  simp only [Frame.dispatch, blank, ↓reduceIte, Levels.idle, enclose]
  rw [← isRoot.eq_root]

theorem Recognizer.IsRoot.lineEnd (isRoot : recognizer.IsRoot)
    (drains : (recognizer.drain around).result = .ok tokens) :
    ∃ commas last, recognizer.accept '\n' around =
      ⟨.taken, (⟨⟨tokens, commas⟩, []⟩ : Levels).idle, last⟩ := by
  cases recognizer with
  | lexeme state => cases isRoot
  | region frame =>
      obtain rfl : frame.tokens = tokens := by
        simpa [Recognizer.drain, Frame.IsRoot.drain isRoot] using drains
      refine ⟨frame.commas, around, ?_⟩
      rw [← Frame.IsRoot.lineEnd isRoot]
      simp [Recognizer.accept, isRoot.2.1, isRoot.2.2]
  | regionOver frame inside =>
      obtain ⟨frameRoot, active⟩ := isRoot
      simp only [Recognizer.drain] at drains
      split at drains
      · cases drains
      next collected complete =>
        have collects : (frame.collect collected).IsRoot := frameRoot
        rw [collects.drain] at drains
        cases drains
        -- The line end is not for the inner recognizer, so the root drains it and then skips a
        -- blank.
        refine ⟨(frame.collect collected).commas, (inside.drain around).around.after inside, ?_⟩
        simp only [Recognizer.accept, frameRoot.2.1, frameRoot.2.2, active.lineEnd complete,
          complete, Bool.not_true, Bool.false_eq_true, ↓reduceIte]
        exact collects.lineEnd

/-- A text that can be read leaves the root region at rest behind a line end, whatever follows. -/
theorem read_line (isRoot : recognizer.IsRoot) {previous : Option RecognizerKind}
    {chars : List Char} (read : recognizer.read previous chars = .ok tokens) :
    ∃ commas last, ∀ rest, recognizer.read previous (chars ++ '\n' :: rest) =
      (⟨⟨tokens, commas⟩, []⟩ : Levels).idle.read last rest := by
  induction chars generalizing recognizer previous with
  | nil =>
      have drains : (recognizer.drain (following previous)).result = .ok tokens :=
        mapError_eq_ok_iff.mp read
      obtain ⟨commas, last, answer⟩ := isRoot.lineEnd drains
      refine ⟨commas, last.previous, fun rest => ?_⟩
      simp only [List.nil_append, Recognizer.read, answer]
  | cons c chars ih =>
      have goesOn : (recognizer.accept c (following previous)).left.IsRoot := isRoot.accept
      simp only [List.cons_append, Recognizer.read] at read ⊢
      split at read
      · cases read
      · exact ih goesOn read
      · exact ih goesOn read

end LineEnds

section Behind

def Frame.behind (frame : Frame) (prior : List Token) : Frame :=
  { frame with tokens := prior ++ frame.tokens }

def Recognizer.behind (prior : List Token) : Recognizer → Recognizer
  | .lexeme state => .lexeme state
  | .region frame => .region (frame.behind prior)
  | .regionOver frame active => .regionOver (frame.behind prior) active

variable {frame : Frame} {recognizer : Recognizer}

def Accepted.behind (answer : Accepted) (prior : List Token) : Accepted :=
  { answer with left := answer.left.behind prior }

theorem dispatch_behind (frame : Frame) (prior : List Token) (c : Char) (around : Surroundings) :
    (frame.behind prior).dispatch c around = (frame.dispatch c around).behind prior := by
  have delimited : (frame.behind prior).delimited = frame.delimited := rfl
  simp only [Frame.dispatch, delimited]
  split
  · rfl
  · split
    · split <;> rfl
    · split
      · rfl
      · split <;> rfl

theorem collect_behind (frame : Frame) (prior tokens : List Token) :
    (frame.behind prior).collect tokens = (frame.collect tokens).behind prior := by
  simp [Frame.collect, Frame.behind]

/-- The tokens that the root has collected do not change what it makes of a character. -/
theorem Recognizer.accept_behind (isRoot : recognizer.IsRoot) (prior : List Token) (c : Char)
    (around : Surroundings) :
    (recognizer.behind prior).accept c around = (recognizer.accept c around).behind prior := by
  cases recognizer with
  | lexeme state => cases isRoot
  | region frame =>
      obtain ⟨-, opened, unclosed⟩ := isRoot
      have opened' : (frame.behind prior).opened = true := opened
      have unclosed' : (frame.behind prior).closed = false := unclosed
      simp only [Recognizer.behind, Recognizer.accept, opened, opened', unclosed, unclosed']
      exact dispatch_behind frame prior c around
  | regionOver frame inside =>
      obtain ⟨⟨-, opened, unclosed⟩, -⟩ := isRoot
      have opened' : (frame.behind prior).opened = true := opened
      have unclosed' : (frame.behind prior).closed = false := unclosed
      simp only [Recognizer.behind, Recognizer.accept, opened, opened', unclosed, unclosed',
        Bool.not_true, Bool.false_eq_true, ↓reduceIte]
      split
      · rfl
      · rfl
      · split
        · rfl
        · rw [collect_behind]
          exact dispatch_behind _ prior c _

theorem Recognizer.drain_behind (isRoot : recognizer.IsRoot) (prior : List Token)
    (around : Surroundings) :
    ((recognizer.behind prior).drain around).result =
      (recognizer.drain around).result.map (prior ++ ·) := by
  cases recognizer with
  | lexeme state => cases isRoot
  | region frame =>
      have behindRoot : (frame.behind prior).IsRoot := isRoot
      simp only [Recognizer.behind, Recognizer.drain, behindRoot.drain, Frame.IsRoot.drain isRoot]
      rfl
  | regionOver frame inside =>
      simp only [Recognizer.behind, Recognizer.drain]
      split
      · rfl
      next collected _ =>
        have collects : (frame.collect collected).IsRoot := isRoot.1
        have behindRoot : ((frame.collect collected).behind prior).IsRoot := collects
        rw [collect_behind, behindRoot.drain, collects.drain]
        rfl

/-- What the root region holds already does not change how it reads on. -/
theorem read_behind (isRoot : recognizer.IsRoot) (prior : List Token)
    (previous : Option RecognizerKind) (chars : List Char) :
    (recognizer.behind prior).read previous chars =
      (recognizer.read previous chars).map (prior ++ ·) := by
  induction chars generalizing recognizer previous with
  | nil =>
      simp only [Recognizer.read, Recognizer.drain_behind isRoot]
      cases (recognizer.drain (following previous)).result <;> rfl
  | cons c chars ih =>
      have goesOn : (recognizer.accept c (following previous)).left.IsRoot := isRoot.accept
      simp only [Recognizer.read, Recognizer.accept_behind isRoot, Accepted.behind]
      split
      · rfl
      · exact ih goesOn _
      · exact ih goesOn _

end Behind

end DocQuery.Lexing
