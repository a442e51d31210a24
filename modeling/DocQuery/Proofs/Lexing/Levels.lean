import DocQuery.Proofs.Lexing.Places

/-!
The open regions of a text as a stack. A recognizer in the middle of a text is a chain of open
regions, one inside the other, in which only the innermost meets the next character. `Levels` is
that chain turned inside out: the innermost region is at hand, and the others are untouched until
it is closed.
-/

namespace DocQuery.Lexing

structure Level where
  tokens : List Token := []
  commas : Nat := 0
  deriving DecidableEq

def Level.collect (level : Level) (tokens : List Token) : Level where
  tokens := level.tokens ++ tokens.filter (·.kind != .delimiter)
  commas := level.commas + (tokens.filter (·.kind == .delimiter)).length

def Level.frame (level : Level) (outer : List Level) : Frame where
  delimited := !outer.isEmpty
  opened := true
  tokens := level.tokens
  commas := level.commas

/-- The innermost open region and those around it, from the inside out. -/
structure Levels where
  current : Level := {}
  outer : List Level := []
  deriving DecidableEq

def Levels.collect (levels : Levels) (tokens : List Token) : Levels :=
  { levels with current := levels.current.collect tokens }

def enclose : List Level → Recognizer → Recognizer
  | [], inner => inner
  | level :: outer, inner => enclose outer (.regionOver (level.frame outer) inner)

def Levels.idle (levels : Levels) : Recognizer :=
  enclose levels.outer (.region (levels.current.frame levels.outer))

def Levels.over (levels : Levels) (active : Recognizer) : Recognizer :=
  enclose levels.outer (.regionOver (levels.current.frame levels.outer) active)

theorem root_idle : Recognizer.root = ({} : Levels).idle := rfl

theorem collect_frame (level : Level) (outer : List Level) (tokens : List Token) :
    (level.frame outer).collect tokens = (level.collect tokens).frame outer := rfl

section Answers

/-- What a region answers to a character if something is active in it and has given the inner
answer. Only when that one is done does the region meet the character itself. -/
inductive Frame.Answers (frame : Frame) (active : Recognizer) (inner : Accepted) (c : Char)
    (around : Surroundings) : Accepted → Prop where
  | behind (closed : frame.closed = true) :
      Answers frame active inner c around ⟨.done, .regionOver frame active, around⟩
  | opening (unopened : frame.opened = false) :
      Answers frame active inner c around
        ⟨.taken, .regionOver { frame with opened := true } active, around⟩
  | inside (busy : inner.verdict ≠ .done) :
      Answers frame active inner c around { inner with left := .regionOver frame inner.left }
  | stuck {failure : Failure} (done : inner.verdict = .done)
      (fails : (inner.left.drain inner.around).result = .error failure) :
      Answers frame active inner c around
        ⟨.refused failure, .region frame, (inner.left.drain inner.around).around⟩
  | onward {tokens : List Token} (done : inner.verdict = .done)
      (drains : (inner.left.drain inner.around).result = .ok tokens) :
      Answers frame active inner c around
        ((frame.collect tokens).dispatch c
          ((inner.left.drain inner.around).around.after inner.left))

theorem accept_answers (frame : Frame) (active : Recognizer) (c : Char) (around : Surroundings) :
    frame.Answers active (active.accept c around) c around
      ((Recognizer.regionOver frame active).accept c around) := by
  simp only [Recognizer.accept]
  generalize active.accept c around = inner
  split
  next closed => exact .behind closed
  split
  next unopened => exact .opening (by simpa using unopened)
  obtain ⟨verdict, left, around'⟩ := inner
  cases verdict with
  | taken => exact .inside (by simp)
  | refused failure => exact .inside (by simp)
  | done =>
      dsimp only
      split
      next fails => exact .stuck rfl fails
      next drains => exact .onward rfl drains

end Answers

section Accepting

theorem dispatch_not_done (frame : Frame) (c : Char) (around : Surroundings) :
    (frame.dispatch c around).verdict ≠ .done := by
  simp only [Frame.dispatch]
  split
  · simp
  · split
    · split <;> simp
    · split
      · simp
      · split <;> simp

theorem accept_region (level : Level) (outer : List Level) (c : Char) (around : Surroundings) :
    (Recognizer.region (level.frame outer)).accept c around =
      (level.frame outer).dispatch c around := by
  simp [Recognizer.accept, Level.frame]

/-- An open region passes on whatever the recognizer inside it says, unless that one is done. -/
theorem accept_enclose (outer : List Level) (inner : Recognizer) (c : Char)
    (around : Surroundings) (busy : (inner.accept c around).verdict ≠ .done) :
    (enclose outer inner).accept c around =
      ⟨(inner.accept c around).verdict, enclose outer (inner.accept c around).left,
        (inner.accept c around).around⟩ := by
  induction outer generalizing inner with
  | nil => rfl
  | cons level outer ih =>
      have step : (Recognizer.regionOver (level.frame outer) inner).accept c around =
          ⟨(inner.accept c around).verdict,
            .regionOver (level.frame outer) (inner.accept c around).left,
            (inner.accept c around).around⟩ := by
        cases verdict : (inner.accept c around).verdict with
        | taken => simp [Recognizer.accept, Level.frame, verdict]
        | refused failure => simp [Recognizer.accept, Level.frame, verdict]
        | done => exact absurd verdict busy
      simp only [enclose]
      rw [ih _ (by rw [step]; exact busy), step]

theorem read_enclose_taken (outer : List Level) {inner next : Recognizer} {c : Char}
    {previous : Option RecognizerKind} (rest : List Char)
    (taken : inner.accept c (following previous) = ⟨.taken, next, following previous⟩) :
    (enclose outer inner).read previous (c :: rest) =
      (enclose outer next).read previous rest := by
  have through := accept_enclose outer inner c (following previous) (by simp [taken])
  simp only [Recognizer.read, through, taken]
  rfl

theorem read_enclose_refused (outer : List Level) {inner : Recognizer} {c : Char}
    {previous : Option RecognizerKind} {failure : Failure} (rest : List Char)
    (refused : (inner.accept c (following previous)).verdict = .refused failure) :
    (enclose outer inner).read previous (c :: rest) = .error failure.cause := by
  have through := accept_enclose outer inner c (following previous) (by simp [refused])
  simp only [Recognizer.read, through, refused]

end Accepting

section Draining

/-- A region around two recognizers tells them apart only by what they give when drained. -/
theorem drain_enclose_congr (outer : List Level) {left right : Recognizer}
    {around around' : Surroundings} (same : left.drain around = right.drain around')
    (kind : left.kind = right.kind) :
    (enclose outer left).drain around = (enclose outer right).drain around' := by
  induction outer generalizing left right with
  | nil => exact same
  | cons level outer ih =>
      have after : ∀ around'' : Surroundings, around''.after left = around''.after right := by
        intro around''
        unfold Surroundings.after Recognizer.isComment
        rw [kind]
      apply ih
      · simp only [Recognizer.drain, same, after]
      · rfl

theorem drain_enclose_error (outer : List Level) {inner : Recognizer} {around : Surroundings}
    {failure : Failure} (fails : (inner.drain around).result = .error failure) :
    ((enclose outer inner).drain around).result = .error failure := by
  induction outer generalizing inner with
  | nil => exact fails
  | cons level outer ih =>
      apply ih
      simp only [Recognizer.drain, fails]

theorem read_idle_nil (levels : Levels) (previous : Option RecognizerKind) :
    levels.idle.read previous [] =
      if levels.outer = [] then .ok levels.current.tokens else .error .unclosedParenthesis := by
  unfold Levels.idle
  cases shape : levels.outer with
  | nil => rfl
  | cons level outer =>
      have fails : ((Recognizer.region (levels.current.frame (level :: outer))).drain
          (following previous)).result =
            .error ((following previous).failure .unclosedParenthesis) := rfl
      simp only [Recognizer.read, drain_enclose_error (level :: outer) fails]
      rfl

end Draining

def lastAfter (previous : Option RecognizerKind) (recognizer : Recognizer) :
    Option RecognizerKind :=
  if recognizer.isComment then previous else some recognizer.kind

theorem after_following (previous : Option RecognizerKind) (recognizer : Recognizer) :
    (following previous).after recognizer = following (lastAfter previous recognizer) := by
  unfold Surroundings.after lastAfter
  split <;> rfl

/-! A recognizer that is done gives its tokens to its region, which meets the same characters
anew. -/
section Handing

variable {active left : Recognizer} {previous : Option RecognizerKind}
  {result : Except Failure (List Token)}

theorem read_over_nil (levels : Levels)
    (drained : active.drain (following previous) = ⟨result, left, following previous⟩) :
    (levels.over active).read previous [] =
      result.mapError Failure.cause >>= fun tokens =>
        (levels.collect tokens).idle.read (lastAfter previous active) [] := by
  cases result with
  | error failure =>
      have fails : ((Recognizer.regionOver (levels.current.frame levels.outer) active).drain
          (following previous)).result = .error failure := by
        simp only [Recognizer.drain, drained]
      simp only [Recognizer.read, Levels.over, drain_enclose_error levels.outer fails]
      rfl
  | ok tokens =>
      have same : (Recognizer.regionOver (levels.current.frame levels.outer) active).drain
          (following previous) =
            (Recognizer.region ((levels.current.collect tokens).frame levels.outer)).drain
              (following (lastAfter previous active)) := by
        simp only [Recognizer.drain, drained, collect_frame, after_following]
      simp only [Recognizer.read, Levels.over, drain_enclose_congr levels.outer same rfl]
      rfl

theorem read_over_cons (levels : Levels) (c : Char) (rest : List Char)
    (done : active.accept c (following previous) = ⟨.done, active, following previous⟩)
    (drained : active.drain (following previous) = ⟨result, left, following previous⟩) :
    (levels.over active).read previous (c :: rest) =
      result.mapError Failure.cause >>= fun tokens =>
        (levels.collect tokens).idle.read (lastAfter previous active) (c :: rest) := by
  cases result with
  | error failure =>
      have refused : ((Recognizer.regionOver (levels.current.frame levels.outer) active).accept c
          (following previous)).verdict = .refused failure := by
        simp [Recognizer.accept, Level.frame, done, drained]
      simp only [Levels.over, read_enclose_refused levels.outer rest refused]
      rfl
  | ok tokens =>
      -- The region collects the tokens first and gives the character out as if nothing were active.
      have same : (Recognizer.regionOver (levels.current.frame levels.outer) active).accept c
          (following previous) =
            (Recognizer.region ((levels.current.collect tokens).frame levels.outer)).accept c
              (following (lastAfter previous active)) := by
        rw [accept_region, ← collect_frame, ← after_following]
        simp [Recognizer.accept, Level.frame, done, drained]
      have busy : ((Recognizer.region ((levels.current.collect tokens).frame levels.outer)).accept c
          (following (lastAfter previous active))).verdict ≠ .done := by
        rw [accept_region]
        exact dispatch_not_done _ _ _
      have left := accept_enclose levels.outer _ c (following previous) (same ▸ busy)
      have right := accept_enclose levels.outer _ c (following (lastAfter previous active)) busy
      rw [same, ← right] at left
      simp only [Levels.over, Recognizer.read, left]
      rfl

theorem read_over_done (levels : Levels) (chars : List Char)
    (done : ∀ c ∈ chars.head?,
      active.accept c (following previous) = ⟨.done, active, following previous⟩)
    (drained : active.drain (following previous) = ⟨result, left, following previous⟩) :
    (levels.over active).read previous chars =
      result.mapError Failure.cause >>= fun tokens =>
        (levels.collect tokens).idle.read (lastAfter previous active) chars := by
  -- The two cases in one: nothing follows, or what follows is not for the active recognizer.
  cases chars with
  | nil => exact read_over_nil levels drained
  | cons c rest => exact read_over_cons levels c rest (done c rfl) drained

end Handing

section Lexemes

variable {state next : Lexeme} {previous : Option RecognizerKind} {cause : Cause}

theorem read_lexeme_taken (levels : Levels) {c : Char} (rest : List Char)
    (taken : state.accept c (following previous) = .taken next) :
    (levels.over (.lexeme state)).read previous (c :: rest) =
      (levels.over (.lexeme next)).read previous rest := by
  apply read_enclose_taken (levels.current :: levels.outer)
  simp only [Recognizer.accept, Lexeme.answer, taken]

theorem read_lexeme_refused (levels : Levels) {c : Char} (rest : List Char)
    (refused : state.accept c (following previous) = .refused cause) :
    (levels.over (.lexeme state)).read previous (c :: rest) = .error cause := by
  have answer : ((Recognizer.lexeme state).accept c (following previous)).verdict =
      .refused ⟨cause, .start⟩ := by
    simp only [Recognizer.accept, Lexeme.answer, refused]
    rfl
  exact read_enclose_refused (levels.current :: levels.outer) rest answer

theorem read_lexeme_done (levels : Levels) (chars : List Char)
    (done : ∀ c ∈ chars.head?, state.accept c (following previous) = .done) :
    (levels.over (.lexeme state)).read previous chars =
      state.drain.1 >>= fun tokens =>
        (levels.collect tokens).idle.read (lastAfter previous (.lexeme state)) chars := by
  have drained : (Recognizer.lexeme state).drain (following previous) =
      ⟨state.drain.1.mapError (following previous).failure, .lexeme state.drain.2,
        following previous⟩ := rfl
  rw [read_over_done levels chars _ drained, mapError_failure_cause]
  intro c first
  simp only [Recognizer.accept, Lexeme.answer, done c first]

theorem push_append_ofList (content : String) (c : Char) (rest : List Char) :
    content.push c ++ String.ofList rest = content ++ String.ofList (c :: rest) := by
  apply String.toList_injective
  simp

/-- A lexeme that only gathers characters of one class runs to the end of their stretch. -/
theorem read_lexeme_while (levels : Levels) (gather : String → Lexeme) (test : Char → Bool)
    (gathers : ∀ content c, test c = true →
      (gather content).accept c (following previous) = .taken (gather (content.push c)))
    (content : String) (chars : List Char) :
    (levels.over (.lexeme (gather content))).read previous chars =
      (levels.over (.lexeme (gather (content ++ String.ofList (chars.takeWhile test))))).read
        previous (chars.dropWhile test) := by
  induction chars generalizing content with
  | nil => simp
  | cons c rest ih =>
      by_cases within : test c = true
      · rw [read_lexeme_taken levels rest (gathers content c within), ih]
        simp only [within, List.takeWhile_cons_of_pos, List.dropWhile_cons_of_pos,
          push_append_ofList]
      · simp [within]

end Lexemes

end DocQuery.Lexing
