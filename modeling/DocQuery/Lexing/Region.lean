import DocQuery.Lexing.Lexeme

/-!
Regions of the query text: the whole of it, and each stretch in parentheses. A region hands each
character to the recognizer that is active in it, and selects a new one when that one is done.
When a region in parentheses is drained, its tokens become an array literal or a block.
-/

namespace DocQuery.Lexing

open DocQuery.Text

/-- What a region holds besides its active recognizer. The root region is not delimited by
parentheses and is open from the start. -/
structure Frame where
  delimited : Bool
  opened : Bool
  closed : Bool := false
  tokens : List Token := []
  commas : Nat := 0
  deriving DecidableEq

namespace Frame

def root : Frame := { delimited := false, opened := true }

def parenthesised : Frame := { delimited := true, opened := false }

end Frame

inductive Recognizer where
  | lexeme (state : Lexeme)
  | region (frame : Frame)
  | regionOver (frame : Frame) (active : Recognizer)
  deriving DecidableEq

namespace RecognizerKind

def canStart (kind : RecognizerKind) (c : Char) : Bool :=
  match kind with
  | .word => isWordStart c
  | .quoted => c == '\'' || c == '"'
  | .number => c.isDigit || c == '-'
  | .symbol => isSymbolPart c
  | .comment => c == '/' || c == '-'
  | .region => c == '('
  | .comma => c == ','

/-- The kind that a character starts. Comments give way to every other kind. -/
def select (c : Char) : Except Cause RecognizerKind :=
  let candidates := all.filter (·.canStart c)
  let candidates := if 1 < candidates.length then candidates.filter (· != .comment) else candidates
  match candidates with
  | [] => .error (.unexpectedCharacter c)
  | [kind] => .ok kind
  | kinds => .error (.ambiguousCharacter c kinds)

end RecognizerKind

namespace Recognizer

def fresh : RecognizerKind → Recognizer
  | .word => .lexeme (.word {})
  | .quoted => .lexeme (.quoted {})
  | .number => .lexeme (.number {})
  | .symbol => .lexeme (.symbol "")
  | .comment => .lexeme (.comment {})
  | .region => .region .parenthesised
  | .comma => .lexeme (.comma false)

def root : Recognizer := .region .root

def kind : Recognizer → RecognizerKind
  | .lexeme state => state.kind
  | .region _ | .regionOver _ _ => .region

def isComment (recognizer : Recognizer) : Bool := recognizer.kind == .comment

end Recognizer

structure Drained where
  result : Except Failure (List Token)
  left : Recognizer
  around : Surroundings

namespace Frame

def collect (frame : Frame) (tokens : List Token) : Frame :=
  { frame with
    tokens := frame.tokens ++ tokens.filter (·.kind != .delimiter)
    commas := frame.commas + (tokens.filter (·.kind == .delimiter)).length }

/-- The tokens of a region in parentheses with the given tokens and commas directly inside. With a
comma, or with nothing but literals, it is an array literal, whose values are not nested and as
many as its commas ask for. Otherwise it is a block, and an empty block has no end. -/
def emit (tokens : List Token) (commas : Nat) : Except Cause (List Token) :=
  if 0 < commas ∨ tokens ≠ [] ∧ tokens.all Token.isLiteral then
    let values := tokens.filter (!·.isComment)
    match values.find? Token.isNested with
    | some nested => .error (.nestedValue nested.kind)
    | none =>
        if values.length ≠ commas + 1 ∧ 0 < commas then .error .emptyItem
        else .ok [Token.ofElements values]
  else if tokens = [] then .ok [Token.blockStart]
  else .ok (Token.blockStart :: tokens ++ [Token.blockEnd])

def drain (frame : Frame) (around : Surroundings) : Drained :=
  if !frame.delimited then
    ⟨.ok frame.tokens, .region { frame with tokens := [], commas := 0 }, around⟩
  else if !frame.closed then
    ⟨.error (around.failure .unclosedParenthesis), .region frame, around⟩
  else
    ⟨(emit frame.tokens frame.commas).mapError around.failure,
      .region { frame with opened := false, closed := false, tokens := [], commas := 0 }, around⟩

end Frame

def Surroundings.after (around : Surroundings) (recognizer : Recognizer) : Surroundings :=
  if recognizer.isComment then around else { around with previous := some recognizer.kind }

/-- Drains a recognizer of its tokens. A region loses its active recognizer even if that one fails. -/
def Recognizer.drain (around : Surroundings) : Recognizer → Drained
  | .lexeme state =>
      ⟨state.drain.1.mapError around.failure, .lexeme state.drain.2, around⟩
  | .region frame => frame.drain around
  | .regionOver frame active =>
      let inner := active.drain around
      match inner.result with
      | .error failure => ⟨.error failure, .region frame, inner.around⟩
      | .ok tokens => (frame.collect tokens).drain (inner.around.after active)

inductive Verdict where
  | taken
  | done
  | refused (failure : Failure)

structure Accepted where
  verdict : Verdict
  left : Recognizer
  around : Surroundings

namespace Lexeme

def answer (state : Lexeme) (c : Char) (around : Surroundings) : Accepted :=
  match state.accept c around with
  | .taken next => ⟨.taken, .lexeme next, around⟩
  | .done => ⟨.done, .lexeme state, around⟩
  | .refused cause => ⟨.refused (around.failure cause), .lexeme state, around⟩

end Lexeme

def RecognizerKind.begin (kind : RecognizerKind) (c : Char) (around : Surroundings) : Accepted :=
  match Recognizer.fresh kind with
  | .lexeme state => state.answer c around
  | .region frame => ⟨.taken, .region { frame with opened := true }, around⟩
  | other => ⟨.taken, other, around⟩

/-- A region with nothing active meets a character: blanks are skipped, a parenthesis closes the
region, and any other character selects the recognizer that becomes active. -/
def Frame.dispatch (frame : Frame) (c : Char) (around : Surroundings) : Accepted :=
  let refuse (cause : Cause) : Accepted :=
    ⟨.refused (around.failure cause), .region frame, around⟩
  if isBlank c then ⟨.taken, .region frame, around⟩
  else if c = ')' then
    if frame.delimited then ⟨.taken, .region { frame with closed := true }, around⟩
    else refuse .unopenedParenthesis
  else
    match RecognizerKind.select c with
    | .error cause => refuse cause
    | .ok kind =>
        let first := kind.begin c around
        match first.verdict with
        | .taken => ⟨.taken, .regionOver frame first.left, first.around⟩
        | .done => refuse (.unexpectedCharacter c)
        | .refused failure => ⟨.refused failure, .region frame, first.around⟩

/-- Gives a character to a recognizer. The first character of a region in parentheses is the
parenthesis that opens it. -/
def Recognizer.accept (c : Char) (around : Surroundings) : Recognizer → Accepted
  | .lexeme state => state.answer c around
  | .region frame =>
      if frame.closed then ⟨.done, .region frame, around⟩
      else if !frame.opened then ⟨.taken, .region { frame with opened := true }, around⟩
      else frame.dispatch c around
  | .regionOver frame active =>
      if frame.closed then ⟨.done, .regionOver frame active, around⟩
      else if !frame.opened then ⟨.taken, .regionOver { frame with opened := true } active, around⟩
      else
        let inner := active.accept c around
        match inner.verdict with
        | .taken => ⟨.taken, .regionOver frame inner.left, inner.around⟩
        | .refused failure => ⟨.refused failure, .regionOver frame inner.left, inner.around⟩
        | .done =>
            let flushed := inner.left.drain inner.around
            match flushed.result with
            | .error failure => ⟨.refused failure, .region frame, flushed.around⟩
            | .ok tokens => (frame.collect tokens).dispatch c (flushed.around.after inner.left)

end DocQuery.Lexing
