import DocQuery.Proofs.Lexing.Resting

/-!
Recognizers are used again. Whatever a recognizer has met, characters that it refused and drains
that failed included, it is as new once it gives its tokens (`drained_as_new`). So nothing of one
token gets into the next. Only a drain that fails may leave something behind.
-/

namespace DocQuery.Lexing

/-- What a recognizer may become by characters and drains in any order and at any places, those that
fail included. -/
inductive Recognizer.Becomes (first : Recognizer) : Recognizer → Prop where
  | unused : first.Becomes first
  | accept {recognizer : Recognizer} (before : first.Becomes recognizer) (c : Char)
      (around : Surroundings) : first.Becomes (recognizer.accept c around).left
  | drain {recognizer : Recognizer} (before : first.Becomes recognizer) (around : Surroundings) :
      first.Becomes (recognizer.drain around).left

theorem Recognizer.Becomes.keeps {first recognizer : Recognizer} {Kept : Recognizer → Prop}
    (becomes : first.Becomes recognizer) (new : Kept first)
    (accept : ∀ {before : Recognizer} {c : Char} {around : Surroundings}, Kept before →
      Kept (before.accept c around).left)
    (drain : ∀ {before : Recognizer} {around : Surroundings}, Kept before →
      Kept (before.drain around).left) : Kept recognizer := by
  induction becomes with
  | unused => exact new
  | accept before c around ih => exact accept ih
  | drain before around ih => exact drain ih

section Lexemes

variable {state next : Lexeme} {kind : RecognizerKind} {c : Char} {around : Surroundings}
  {tokens : List Token}

theorem map_eq_taken {α β : Type} {f : α → β} {reply : Reply α} {result : β}
    (taken : reply.map f = .taken result) : ∃ inner, reply = .taken inner ∧ f inner = result := by
  cases reply with
  | taken inner =>
      cases taken
      exact ⟨inner, rfl, rfl⟩
  | done => cases taken
  | refused cause => cases taken

/-- Only a number gives way to another lexeme. -/
theorem accept_kind (taken : state.accept c around = .taken next) :
    next.kind = state.kind ∨ state.kind = .number ∧ next.kind = .comment := by
  cases state with
  | word state =>
      obtain ⟨inner, -, rfl⟩ := map_eq_taken taken
      exact .inl rfl
  | quoted state =>
      obtain ⟨inner, -, rfl⟩ := map_eq_taken taken
      exact .inl rfl
  | number state =>
      simp only [Lexeme.accept, Digits.accept] at taken
      repeat' split at taken
      all_goals cases taken
      · exact .inl rfl
      -- A second minus turns the number into a comment.
      · exact .inr ⟨rfl, rfl⟩
      · exact .inl rfl
  | symbol content =>
      simp only [Lexeme.accept] at taken
      split at taken
      · cases taken
        exact .inl rfl
      · cases taken
  | comment state =>
      obtain ⟨inner, -, rfl⟩ := map_eq_taken taken
      exact .inl rfl
  | comma seen =>
      cases seen with
      | true => cases taken
      | false =>
          simp only [Lexeme.accept] at taken
          split at taken
          · cases taken
          · cases taken
            exact .inl rfl

/-- A text that has no quote yet does not wait for a second one. -/
def Quoted.Tidy (quoted : Quoted) : Prop := quoted.quote = none → quoted.closing = false

theorem Quoted.accept_tidy {quoted next : Quoted} (taken : quoted.accept c = .taken next) :
    next.Tidy := by
  -- The first character is the quote.
  unfold Quoted.accept at taken
  split at taken
  · cases taken
    simp [Quoted.Tidy]
  next opened =>
    repeat' split at taken
    all_goals cases taken
    all_goals simp [Quoted.Tidy, opened]

theorem Quoted.Tidy.drain {quoted : Quoted} (tidy : quoted.Tidy) : quoted.drain.2.Tidy := by
  obtain ⟨quote, content, closing⟩ := quoted
  cases quote with
  | none => exact tidy
  | some quote => cases closing <;> exact fun _ => rfl

theorem Quoted.Tidy.drain_left {quoted : Quoted} (tidy : quoted.Tidy)
    (drains : quoted.drain.1 = .ok tokens) : quoted.drain.2 = {} := by
  obtain ⟨quote, content, closing⟩ := quoted
  cases quote with
  | none =>
      have unquoted : closing = false := tidy rfl
      rw [unquoted]
      rfl
  | some quote =>
      cases closing with
      | true => rfl
      | false => cases drains

def Lexeme.Within (kind : RecognizerKind) (state : Lexeme) : Prop :=
  (state.kind = kind ∨ kind = .number ∧ state.kind = .comment) ∧
    ∀ quoted, state = .quoted quoted → quoted.Tidy

theorem Lexeme.Within.accept (within : state.Within kind)
    (taken : state.accept c around = .taken next) : next.Within kind := by
  obtain ⟨ofKind, -⟩ := within
  constructor
  · rcases accept_kind taken with same | ⟨number, comment⟩
    · rw [same]
      exact ofKind
    · rcases ofKind with rfl | ⟨-, other⟩
      · exact .inr ⟨number, comment⟩
      · rw [number] at other
        cases other
  · rintro quoted rfl
    cases state with
    | quoted before =>
        obtain ⟨inner, reply, same⟩ := map_eq_taken taken
        cases same
        exact Quoted.accept_tidy reply
    | word before | comment before =>
        obtain ⟨inner, reply, same⟩ := map_eq_taken taken
        cases same
    | number before | symbol before | comma before =>
        rcases accept_kind taken with same | ⟨-, other⟩
        · cases same
        · cases other

theorem Lexeme.Within.drain (within : state.Within kind) : state.drain.2.Within kind := by
  obtain ⟨ofKind, tidy⟩ := within
  cases state with
  | quoted state =>
      refine ⟨ofKind, ?_⟩
      rintro quoted ⟨⟩
      exact (tidy state rfl).drain
  | word state | number state | symbol content | comment state | comma seen =>
      refine ⟨ofKind, ?_⟩
      rintro quoted ⟨⟩

theorem Lexeme.Within.drain_left (within : state.Within kind)
    (drains : state.drain.1 = .ok tokens) :
    Recognizer.lexeme state.drain.2 = .fresh state.kind := by
  cases state with
  | word state =>
      have renewed : state.drain.2 = {} := by
        have gives : state.drain.1 = .ok tokens := drains
        unfold Word.drain at gives ⊢
        repeat' split at gives
        · cases gives
        all_goals simp [*]
      simp only [Lexeme.drain, renewed]
      rfl
  | quoted state =>
      have renewed := (within.2 state rfl).drain_left drains
      simp only [Lexeme.drain, renewed]
      rfl
  | number state =>
      have renewed : state.drain.2 = {} := by
        unfold Digits.drain
        split <;> rfl
      simp only [Lexeme.drain, renewed]
      rfl
  | symbol content => rfl
  | comment state =>
      have renewed : state.drain.2 = {} := by
        -- A comment forgets all it holds, even when it cannot be drained.
        obtain ⟨_ | (_ | _ | _), _, _, _ | _⟩ := state <;> rfl
      simp only [Lexeme.drain, renewed]
      rfl
  | comma seen => rfl

end Lexemes

section Regions

variable {recognizer : Recognizer} {frame : Frame} {kind : RecognizerKind} {c : Char}
  {around : Surroundings} {tokens : List Token}

def Recognizer.Within (kind : RecognizerKind) : Recognizer → Prop
  | .lexeme state => state.Within kind
  | .region frame | .regionOver frame _ => kind = .region ∧ frame.delimited = true

theorem within_fresh (kind : RecognizerKind) : (Recognizer.fresh kind).Within kind := by
  cases kind with
  | quoted =>
      refine ⟨.inl rfl, ?_⟩
      rintro quoted ⟨⟩
      exact fun _ => rfl
  | region => exact ⟨rfl, rfl⟩
  | word | number | symbol | comment | comma =>
      refine ⟨.inl rfl, ?_⟩
      rintro quoted ⟨⟩

theorem dispatch_within (delimited : frame.delimited = true) :
    (frame.dispatch c around).left.Within .region := by
  rcases dispatch_left frame c around with same | ⟨-, closed⟩ | ⟨active, -, inside⟩
  · rw [same]
    exact ⟨rfl, delimited⟩
  · rw [closed]
    exact ⟨rfl, delimited⟩
  · rw [inside]
    exact ⟨rfl, delimited⟩

theorem drain_within (delimited : frame.delimited = true) :
    (frame.drain around).left.Within .region := by
  unfold Frame.drain
  repeat' split
  all_goals exact ⟨rfl, delimited⟩

theorem Recognizer.Within.accept (within : recognizer.Within kind) :
    (recognizer.accept c around).left.Within kind := by
  cases recognizer with
  | lexeme state =>
      simp only [Recognizer.accept, Lexeme.answer]
      cases reply : state.accept c around with
      | taken next => exact Lexeme.Within.accept within reply
      | done => exact within
      | refused cause => exact within
  | region frame =>
      obtain ⟨rfl, delimited⟩ := within
      simp only [Recognizer.accept]
      split
      · exact ⟨rfl, delimited⟩
      split
      · exact ⟨rfl, delimited⟩
      · exact dispatch_within delimited
  | regionOver frame active =>
      obtain ⟨rfl, delimited⟩ := within
      have answers := accept_answers frame active c around
      generalize (Recognizer.regionOver frame active).accept c around = answer at answers ⊢
      cases answers with
      | behind | opening | inside | stuck => exact ⟨rfl, delimited⟩
      | onward => exact dispatch_within delimited

theorem Recognizer.Within.drain (within : recognizer.Within kind) :
    (recognizer.drain around).left.Within kind := by
  cases recognizer with
  | lexeme state => exact Lexeme.Within.drain within
  | region frame =>
      obtain ⟨rfl, delimited⟩ := within
      exact drain_within delimited
  | regionOver frame active =>
      obtain ⟨rfl, delimited⟩ := within
      simp only [Recognizer.drain]
      split
      · exact ⟨rfl, delimited⟩
      · exact drain_within delimited

theorem Recognizer.Within.kind_eq (within : recognizer.Within kind) :
    recognizer.kind = kind ∨ kind = .number ∧ recognizer.kind = .comment := by
  cases recognizer with
  | lexeme state => exact within.1
  | region frame | regionOver frame active => exact .inl within.1.symm

/-- A region in parentheses gives its tokens only when it is closed. -/
theorem drain_left_parenthesised (delimited : frame.delimited = true)
    (drains : (frame.drain around).result = .ok tokens) :
    (frame.drain around).left = .fresh .region := by
  have closed := closed_of_drains delimited drains
  simp [Frame.drain, delimited, closed, Recognizer.fresh, Frame.parenthesised]

theorem Recognizer.Within.drain_left (within : recognizer.Within kind)
    (drains : (recognizer.drain around).result = .ok tokens) :
    (recognizer.drain around).left = .fresh recognizer.kind := by
  cases recognizer with
  | lexeme state => exact Lexeme.Within.drain_left within (mapError_eq_ok_iff.mp drains)
  | region frame => exact drain_left_parenthesised within.2 drains
  | regionOver frame active =>
      simp only [Recognizer.drain] at drains ⊢
      split at drains
      · cases drains
      · exact drain_left_parenthesised within.2 drains

end Regions

section Roots

variable {recognizer : Recognizer} {frame : Frame} {around : Surroundings} {tokens : List Token}

theorem drain_left_root (isRoot : frame.IsRoot) : (frame.drain around).left = .root := by
  obtain ⟨undelimited, opened, unclosed⟩ := isRoot
  simp [Frame.drain, undelimited, opened, unclosed, Recognizer.root, Frame.root]

theorem Recognizer.IsRoot.drained (isRoot : recognizer.IsRoot) :
    (recognizer.drain around).left.IsRoot := by
  cases recognizer with
  | lexeme state => cases isRoot
  | region frame =>
      simp only [Recognizer.drain, drain_left_root isRoot]
      exact root_isRoot
  | regionOver frame active =>
      simp only [Recognizer.drain]
      split
      · exact isRoot.1
      next collected _ =>
        have collects : (frame.collect collected).IsRoot := isRoot.1
        rw [drain_left_root collects]
        exact root_isRoot

theorem Recognizer.IsRoot.drain_left (isRoot : recognizer.IsRoot)
    (drains : (recognizer.drain around).result = .ok tokens) :
    (recognizer.drain around).left = .root := by
  cases recognizer with
  | lexeme state => cases isRoot
  | region frame => exact drain_left_root isRoot
  | regionOver frame active =>
      simp only [Recognizer.drain] at drains ⊢
      split at drains
      · cases drains
      next collected _ =>
        have collects : (frame.collect collected).IsRoot := isRoot.1
        exact drain_left_root collects

end Roots

/-- A recognizer that gives its tokens is as new behind them. A number that gives way to a comment
is a comment from then on. -/
theorem drained_as_new {recognizer : Recognizer} {around : Surroundings} {tokens : List Token}
    (drains : (recognizer.drain around).result = .ok tokens) :
    (∀ kind, (Recognizer.fresh kind).Becomes recognizer →
      (recognizer.drain around).left = .fresh recognizer.kind ∧
        (recognizer.kind = kind ∨ kind = .number ∧ recognizer.kind = .comment)) ∧
    ((Recognizer.lexeme (.comment .toLineEnd)).Becomes recognizer →
      (recognizer.drain around).left = .fresh .comment) ∧
    (Recognizer.root.Becomes recognizer → (recognizer.drain around).left = .root) := by
  refine ⟨fun kind becomes => ?_, fun becomes => ?_, fun becomes => ?_⟩
  · have within := becomes.keeps (within_fresh kind) (·.accept) (·.drain)
    exact ⟨within.drain_left drains, within.kind_eq⟩
  · have lineComment : (Recognizer.lexeme (.comment .toLineEnd)).Within .comment := by
      refine ⟨.inl rfl, ?_⟩
      rintro quoted ⟨⟩
    have within := becomes.keeps lineComment (·.accept) (·.drain)
    rcases within.kind_eq with same | ⟨other, -⟩
    · rw [within.drain_left drains, same]
    · cases other
  · have isRoot := becomes.keeps root_isRoot (·.accept) (·.drained)
    exact isRoot.drain_left drains

def interrupted : Recognizer :=
  let unclosed := (((Recognizer.fresh .quoted).accept '\'' {}).left.accept 'a' {}).left
  let reopened := ((unclosed.drain {}).left.accept '"' {}).left
  (reopened.accept '"' {}).left

theorem interrupted_as_new :
    (Recognizer.fresh .quoted).Becomes interrupted ∧
      (interrupted.drain {}).result = .ok [⟨.text, "a", []⟩] ∧
      (interrupted.drain {}).left = .fresh .quoted := by
  have unclosed : (Recognizer.fresh .quoted).Becomes _ :=
    (Recognizer.Becomes.unused.accept '\'' {}).accept 'a' {}
  have becomes : (Recognizer.fresh .quoted).Becomes interrupted :=
    ((unclosed.drain {}).accept '"' {}).accept '"' {}
  have drains : (interrupted.drain {}).result = .ok [⟨.text, "a", []⟩] := rfl
  exact ⟨becomes, drains, ((drained_as_new drains).1 .quoted becomes).1⟩

end DocQuery.Lexing
