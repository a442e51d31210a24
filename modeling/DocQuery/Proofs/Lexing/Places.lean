import DocQuery.Lexing.Tokenise
import DocQuery.Proofs.Outcomes

/-!
Places in the text take no part in reading it. A recognizer answers the same at every place, and
each failure carries the place at which the answer was asked for. So the reading of a text is,
places apart, a recursion over its characters that knows only the recognizer and the one that was
collected last.
-/

namespace DocQuery.Lexing

def Surroundings.relocate (around : Surroundings) (place : Position) : Surroundings :=
  { around with position := place }

def Verdict.relocate (place : Position) : Verdict → Verdict
  | .taken => .taken
  | .done => .done
  | .refused failure => .refused { failure with position := place }

def Accepted.relocate (answer : Accepted) (place : Position) : Accepted :=
  ⟨answer.verdict.relocate place, answer.left, answer.around.relocate place⟩

def Drained.relocate (drained : Drained) (place : Position) : Drained :=
  ⟨drained.result.mapError fun failure => { failure with position := place },
    drained.left, drained.around.relocate place⟩

theorem mapError_failure_cause {α : Type} (result : Except Cause α) (around : Surroundings) :
    (result.mapError around.failure).mapError Failure.cause = result := by
  cases result <;> rfl

theorem after_relocate (around : Surroundings) (recognizer : Recognizer) (place : Position) :
    (around.relocate place).after recognizer = (around.after recognizer).relocate place := by
  unfold Surroundings.after
  split <;> rfl

theorem mapError_failure_relocate {α : Type} (result : Except Cause α) (around : Surroundings)
    (place : Position) :
    result.mapError (around.relocate place).failure =
      (result.mapError around.failure).mapError fun failure =>
        { failure with position := place } := by
  cases result <;> rfl

theorem Frame.drain_relocate (frame : Frame) (around : Surroundings) (place : Position) :
    frame.drain (around.relocate place) = (frame.drain around).relocate place := by
  unfold Frame.drain
  split
  · rfl
  · split
    · rfl
    · simp only [Drained.relocate, mapError_failure_relocate]

theorem Recognizer.drain_relocate (recognizer : Recognizer) (around : Surroundings)
    (place : Position) :
    recognizer.drain (around.relocate place) = (recognizer.drain around).relocate place := by
  induction recognizer generalizing around with
  | lexeme state => simp only [Recognizer.drain, Drained.relocate, mapError_failure_relocate]
  | region frame => exact frame.drain_relocate around place
  | regionOver frame active ih =>
      simp only [Recognizer.drain, ih]
      cases inner : active.drain around with
      | mk result left around' =>
        cases result with
        | error failure => rfl
        | ok tokens =>
            simp only [Drained.relocate, mapError_ok, after_relocate]
            exact Frame.drain_relocate _ _ _

theorem Lexeme.answer_relocate (state : Lexeme) (c : Char) (around : Surroundings)
    (place : Position) :
    state.answer c (around.relocate place) = (state.answer c around).relocate place := by
  -- Of the surroundings a lexeme sees only what was collected last.
  have same : state.accept c (around.relocate place) = state.accept c around := by
    cases state <;> rfl
  unfold Lexeme.answer
  rw [same]
  split <;> rfl

theorem begin_relocate (kind : RecognizerKind) (c : Char) (around : Surroundings)
    (place : Position) :
    kind.begin c (around.relocate place) = (kind.begin c around).relocate place := by
  unfold RecognizerKind.begin
  split
  · exact Lexeme.answer_relocate _ _ _ _
  · rfl
  · rfl

theorem Frame.dispatch_relocate (frame : Frame) (c : Char) (around : Surroundings)
    (place : Position) :
    frame.dispatch c (around.relocate place) = (frame.dispatch c around).relocate place := by
  simp only [Frame.dispatch]
  split
  · rfl
  · split
    · split <;> rfl
    · split
      · rfl
      · rw [begin_relocate]
        generalize RecognizerKind.begin _ c around = first
        cases first with
        | mk verdict left around' => cases verdict <;> rfl

theorem Recognizer.accept_relocate (recognizer : Recognizer) (c : Char) (around : Surroundings)
    (place : Position) :
    recognizer.accept c (around.relocate place) = (recognizer.accept c around).relocate place := by
  induction recognizer generalizing around with
  | lexeme state => exact state.answer_relocate c around place
  | region frame =>
      simp only [Recognizer.accept]
      split
      · rfl
      · split
        · rfl
        · exact frame.dispatch_relocate c around place
  | regionOver frame active ih =>
      simp only [Recognizer.accept]
      split
      · rfl
      · split
        · rfl
        · rw [ih]
          generalize active.accept c around = inner
          cases inner with
          | mk verdict left around' =>
            -- Only a recognizer that is done goes on, by draining itself and giving the character
            -- out again.
            cases verdict with
            | taken => rfl
            | refused failure => rfl
            | done =>
                simp only [Accepted.relocate, Verdict.relocate, Recognizer.drain_relocate]
                generalize left.drain around' = flushed
                cases flushed with
                | mk result left around'' =>
                  cases result with
                  | error failure => rfl
                  | ok tokens =>
                      simp only [Drained.relocate, mapError_ok, after_relocate]
                      exact Frame.dispatch_relocate _ _ _ _

def following (previous : Option RecognizerKind) : Surroundings := { previous }

/-- The tokens that a recognizer makes of the characters in front of it, or the cause why it makes
none. -/
def Recognizer.read (recognizer : Recognizer) (previous : Option RecognizerKind) :
    List Char → Except Cause (List Token)
  | [] => (recognizer.drain (following previous)).result.mapError Failure.cause
  | c :: rest =>
      let answer := recognizer.accept c (following previous)
      match answer.verdict with
      | .refused failure => .error failure.cause
      | .taken | .done => answer.left.read answer.around.previous rest

theorem relocate_following (around : Surroundings) :
    (following around.previous).relocate around.position = around := rfl

theorem finish_read (reader : Reader) :
    reader.finish.mapError Failure.cause = reader.root.read reader.around.previous [] := by
  have placed := Recognizer.drain_relocate reader.root (following reader.around.previous)
    reader.around.position
  rw [relocate_following] at placed
  simp only [Reader.finish, Recognizer.read, placed, Drained.relocate]
  cases (reader.root.drain (following reader.around.previous)).result <;> rfl

theorem steps_read (chars : List Char) (reader : Reader) :
    (chars.foldlM Reader.step reader >>= Reader.finish).mapError Failure.cause =
      reader.root.read reader.around.previous chars := by
  induction chars generalizing reader with
  | nil => exact finish_read reader
  | cons c rest ih =>
      have placed := Recognizer.accept_relocate reader.root c (following reader.around.previous)
        reader.around.position
      rw [relocate_following] at placed
      simp only [List.foldlM_cons, Recognizer.read, Reader.step, placed]
      generalize reader.root.accept c (following reader.around.previous) = answer
      cases answer with
      | mk verdict left around =>
        cases verdict with
        | refused failure => rfl
        | taken => exact ih _
        | done => exact ih _

theorem tokenise_read (text : String) :
    (tokenise text).mapError Failure.cause = Recognizer.root.read none (characters text) :=
  steps_read (characters text) {}

theorem tokenise_eq_ok_iff_read (text : String) (tokens : List Token) :
    tokenise text = .ok tokens ↔ Recognizer.root.read none (characters text) = .ok tokens := by
  rw [← tokenise_read, mapError_eq_ok_iff]

end DocQuery.Lexing
