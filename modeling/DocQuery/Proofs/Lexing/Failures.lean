import Mathlib.Data.List.DropRight
import DocQuery.Proofs.Lexing.Places

/-!
The place of a failure. A text fails at the first character that the root region refuses, or at its
end. The failure carries that place, as the text in front of it tells it by its line ends
(`tokenise_failure_placed`). A refused character settles the failure, whatever stands behind it.
-/

namespace DocQuery.Lexing

/-- The place behind a text: its line ends make the lines, and the characters behind the last of
them make the columns. -/
def Position.behind (chars : List Char) : Position where
  line := 1 + chars.count '\n'
  column := 1 + (chars.rtakeWhile (· ≠ '\n')).length

/-- The root region takes the first `k` characters of a text and refuses the next one. -/
def RefusedAt (chars : List Char) (k : Nat) (failure : Failure) : Prop :=
  ∃ reader c, (chars.take k).foldlM Reader.step {} = .ok reader ∧ chars[k]? = some c ∧
    (reader.root.accept c reader.around).verdict = .refused failure

/-- The root region takes every character of a text and is incomplete in the end. -/
def Unfinished (chars : List Char) (failure : Failure) : Prop :=
  ∃ reader, chars.foldlM Reader.step {} = .ok reader ∧
    (reader.root.drain reader.around).result = .error failure

section Counting

theorem behind_concat (chars : List Char) (c : Char) :
    Position.behind (chars ++ [c]) = (Position.behind chars).advance c := by
  by_cases lineEnd : c = '\n'
  · rw [Position.advance, if_pos lineEnd, lineEnd]
    simp [Position.behind, Nat.add_assoc]
  · rw [Position.advance, if_neg lineEnd]
    simp [Position.behind, lineEnd, Nat.add_assoc]

theorem foldl_advance (chars : List Char) :
    chars.foldl Position.advance .start = Position.behind chars := by
  induction chars using List.reverseRecOn with
  | nil => rfl
  | append_singleton chars c ih =>
      rw [List.foldl_append, ih, behind_concat]
      rfl

end Counting

section Steps

variable {recognizer : Recognizer} {c : Char} {around : Surroundings} {failure : Failure}

/-- An answer at a place is an answer anywhere, moved to that place. So it knows no other place. -/
theorem accept_keeps_position (recognizer : Recognizer) (c : Char) (around : Surroundings) :
    (recognizer.accept c around).around.position = around.position := by
  have placed := recognizer.accept_relocate c around around.position
  exact congrArg (·.around.position) placed

theorem refused_position (refused : (recognizer.accept c around).verdict = .refused failure) :
    failure.position = around.position := by
  have placed := recognizer.accept_relocate c around around.position
  have same : (recognizer.accept c around).verdict =
      (recognizer.accept c around).verdict.relocate around.position :=
    congrArg Accepted.verdict placed
  rw [refused, Verdict.relocate, Verdict.refused.injEq] at same
  rw [same]

theorem drain_position (fails : (recognizer.drain around).result = .error failure) :
    failure.position = around.position := by
  have placed := recognizer.drain_relocate around around.position
  have same : (recognizer.drain around).result = (recognizer.drain around).result.mapError
      fun failure => { failure with position := around.position } :=
    congrArg Drained.result placed
  rw [fails, mapError_error, Except.error.injEq] at same
  rw [same]

theorem step_eq_error_iff (reader : Reader) :
    reader.step c = .error failure ↔
      (reader.root.accept c reader.around).verdict = .refused failure := by
  simp only [Reader.step]
  split
  next met refused => simp [refused]
  next taken => simp [taken]
  next done => simp [done]

theorem step_position {reader next : Reader} (step : reader.step c = .ok next) :
    next.around.position = reader.around.position.advance c := by
  have kept := accept_keeps_position reader.root c reader.around
  simp only [Reader.step] at step
  split at step
  · cases step
  all_goals
    cases step
    simp only [Surroundings.advance, kept]

end Steps

section Runs

variable {chars other : List Char} {failure : Failure} {reader last : Reader}

theorem steps_cons_ok_iff (c : Char) :
    (c :: chars).foldlM Reader.step reader = .ok last ↔
      ∃ next, reader.step c = .ok next ∧ chars.foldlM Reader.step next = .ok last := by
  rw [List.foldlM_cons, bind_eq_ok_iff]

theorem steps_cons_error_iff (c : Char) :
    (c :: chars).foldlM Reader.step reader = .error failure ↔
      reader.step c = .error failure ∨
        ∃ next, reader.step c = .ok next ∧ chars.foldlM Reader.step next = .error failure := by
  rw [List.foldlM_cons, bind_eq_error_iff]

theorem steps_position (steps : chars.foldlM Reader.step reader = .ok last) :
    last.around.position = chars.foldl Position.advance reader.around.position := by
  induction chars generalizing reader with
  | nil =>
      cases steps
      rfl
  | cons c rest ih =>
      obtain ⟨next, step, steps⟩ := (steps_cons_ok_iff c).mp steps
      rw [List.foldl_cons, ← step_position step]
      exact ih steps

theorem reads_position (reads : chars.foldlM Reader.step {} = .ok last) :
    last.around.position = .behind chars := by
  rw [steps_position reads]
  exact foldl_advance chars

/-- The steps end with the first one that fails. -/
theorem steps_eq_error_iff (chars : List Char) (reader : Reader) :
    chars.foldlM Reader.step reader = .error failure ↔
      ∃ k next c, (chars.take k).foldlM Reader.step reader = .ok next ∧ chars[k]? = some c ∧
        (next.root.accept c next.around).verdict = .refused failure := by
  induction chars generalizing reader with
  | nil =>
      constructor
      · intro fails
        cases fails
      · rintro ⟨k, next, c, -, present, -⟩
        cases present
  | cons c rest ih =>
      rw [steps_cons_error_iff]
      constructor
      · rintro (fails | ⟨middle, step, fails⟩)
        · exact ⟨0, reader, c, rfl, rfl, (step_eq_error_iff reader).mp fails⟩
        · obtain ⟨k, next, d, steps, present, refused⟩ := (ih middle).mp fails
          exact ⟨k + 1, next, d, (steps_cons_ok_iff c).mpr ⟨middle, step, steps⟩, present, refused⟩
      · rintro ⟨k, next, d, steps, present, refused⟩
        cases k with
        | zero =>
            cases steps
            cases present
            exact .inl ((step_eq_error_iff _).mpr refused)
        | succ k =>
            obtain ⟨middle, step, steps⟩ := (steps_cons_ok_iff c).mp steps
            exact .inr ⟨middle, step, (ih middle).mpr ⟨k, next, d, steps, present, refused⟩⟩

theorem tokenise_eq_error_iff (text : String) (failure : Failure) :
    tokenise text = .error failure ↔
      (∃ k, RefusedAt (characters text) k failure) ∨ Unfinished (characters text) failure := by
  have refuses : (characters text).foldlM Reader.step {} = .error failure ↔
      ∃ k, RefusedAt (characters text) k failure := steps_eq_error_iff _ _
  rw [← refuses]
  exact bind_eq_error_iff

theorem RefusedAt.position {k : Nat} (refused : RefusedAt chars k failure) :
    failure.position = .behind (chars.take k) := by
  obtain ⟨reader, c, reads, -, refuses⟩ := refused
  rw [refused_position refuses, reads_position reads]

theorem Unfinished.position (unfinished : Unfinished chars failure) :
    failure.position = .behind chars := by
  obtain ⟨reader, reads, fails⟩ := unfinished
  rw [drain_position fails, reads_position reads]

/-- Nothing behind the refused character has been looked at. -/
theorem RefusedAt.congr {k : Nat} (refused : RefusedAt chars k failure)
    (same : other.take (k + 1) = chars.take (k + 1)) : RefusedAt other k failure := by
  obtain ⟨reader, c, reads, present, refuses⟩ := refused
  have front : other.take k = chars.take k := by
    have shorter := congrArg (List.take k) same
    simpa only [List.take_take, Nat.min_eq_left (Nat.le_succ k)] using shorter
  have next : other[k]? = chars[k]? := by
    have at_k := congrArg (·[k]?) same
    simpa using at_k
  exact ⟨reader, c, front ▸ reads, next ▸ present, refuses⟩

end Runs

/-- A failure stands at the first character that is refused, and what follows that character has no
part in it. If none is refused, it stands behind the text. -/
theorem tokenise_failure_placed {text : String} {failure : Failure}
    (fails : tokenise text = .error failure) :
    (∃ k, RefusedAt (characters text) k failure ∧
      failure.position = .behind ((characters text).take k) ∧
      ∀ other : String, (characters other).take (k + 1) = (characters text).take (k + 1) →
        tokenise other = .error failure) ∨
    Unfinished (characters text) failure ∧ failure.position = .behind (characters text) := by
  rcases (tokenise_eq_error_iff text failure).mp fails with ⟨k, refused⟩ | unfinished
  · refine .inl ⟨k, refused, refused.position, fun other same => ?_⟩
    exact (tokenise_eq_error_iff other failure).mpr (.inl ⟨k, refused.congr same⟩)
  · exact .inr ⟨unfinished, unfinished.position⟩

def strayBracket : String := "a in (1,\r\n ('it''s' b]) -- no"

theorem strayBracket_placed :
    tokenise strayBracket = .error ⟨.unopenedBracket, ⟨2, 12⟩⟩ ∧
      ((∃ k, RefusedAt (characters strayBracket) k ⟨.unopenedBracket, ⟨2, 12⟩⟩ ∧
        (⟨2, 12⟩ : Position) = .behind ((characters strayBracket).take k) ∧
        ∀ other : String,
          (characters other).take (k + 1) = (characters strayBracket).take (k + 1) →
            tokenise other = .error ⟨.unopenedBracket, ⟨2, 12⟩⟩) ∨
      Unfinished (characters strayBracket) ⟨.unopenedBracket, ⟨2, 12⟩⟩ ∧
        (⟨2, 12⟩ : Position) = .behind (characters strayBracket)) := by
  have fails : tokenise strayBracket = .error ⟨.unopenedBracket, ⟨2, 12⟩⟩ := rfl
  exact ⟨fails, tokenise_failure_placed fails⟩

end DocQuery.Lexing
