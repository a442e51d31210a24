import DocQuery.Lexing.Failure
import DocQuery.Text.Blank
import DocQuery.Text.Numeral

/-!
Lexemes under way. Each kind of lexeme is a small machine that takes characters one at a time
and is drained of its token in the end. A lexeme answers a character by taking it, by being done
without taking it, or by refusing it; in the last two cases it is left as it was.
-/

namespace DocQuery.Lexing

open DocQuery.Text

/-- Where a recognizer stands: the place of the character under way, and the recognizer whose
tokens were collected last, comments apart. -/
structure Surroundings where
  position : Position := .start
  previous : Option RecognizerKind := none
  deriving DecidableEq

namespace Surroundings

def advance (around : Surroundings) (c : Char) : Surroundings :=
  { around with position := around.position.advance c }

def failure (around : Surroundings) (cause : Cause) : Failure := ⟨cause, around.position⟩

end Surroundings

inductive Reply (α : Type) where
  | taken (next : α)
  | done
  | refused (cause : Cause)

def isWordStart (c : Char) : Bool := isLetter c || c == '_' || c == '*' || c == '$' || c == '@'

def isWordPart (c : Char) : Bool :=
  isAlphanumeric c || c == '_' || c == '.' || c == '*' || c == '$' || c == '@'

def isSymbolPart (c : Char) : Bool := c == '=' || c == '>' || c == '<' || c == '!'

/-- A keyword or name. Square brackets belong to it, and inside them so does every character of
the line. -/
structure Word where
  content : String := ""
  openBrackets : Nat := 0
  deriving DecidableEq

def Word.accept (word : Word) (c : Char) : Reply Word :=
  if 0 < word.openBrackets then
    if c = '\n' then .refused (.unclosedBracket word.content)
    else if c = '[' then .taken ⟨word.content.push c, word.openBrackets + 1⟩
    else if c = ']' then .taken ⟨word.content.push c, word.openBrackets - 1⟩
    else .taken ⟨word.content.push c, word.openBrackets⟩
  else if c = '[' then .taken ⟨word.content.push c, 1⟩
  else if c = ']' then .refused .unopenedBracket
  else if isWordPart c then .taken ⟨word.content.push c, 0⟩
  else .done

def Word.kind (content : String) : TokenKind :=
  if content = "is" ∨ content = "not" then .operator else .query

def Word.drain (word : Word) : Except Cause (List Token) × Word :=
  if 0 < word.openBrackets then (.error (.unclosedBracket word.content), word)
  else if word.content = "" then (.ok [], {})
  else (.ok [{ kind := Word.kind word.content, content := word.content }], {})

/-- A text in quotes. While `closing` the last character was a quote, which ends the text unless
another one follows. -/
structure Quoted where
  quote : Option Char := none
  content : String := ""
  closing : Bool := false
  deriving DecidableEq

def Quoted.accept (quoted : Quoted) (c : Char) : Reply Quoted :=
  match quoted.quote with
  | none => .taken { quoted with quote := some c }
  | some quote =>
      if quoted.closing then
        if c = quote then .taken ⟨some quote, quoted.content.push quote, false⟩ else .done
      else if c = quote then .taken { quoted with closing := true }
      else if c = '\n' then .refused .lineEndsInQuotes
      else .taken { quoted with content := quoted.content.push c }

/-- A text whose quote is still open gives no token; its content stays behind without the quote. -/
def Quoted.drain (quoted : Quoted) : Except Cause (List Token) × Quoted :=
  match quoted.quote, quoted.closing with
  | some _, false => (.error .textEndsInQuotes, { quoted with quote := none })
  | some _, true => (.ok [{ kind := .text, content := quoted.content }], {})
  | none, closing => (.ok [{ kind := .text, content := quoted.content }], { closing })

inductive CommentStyle where
  | opening (first : Char)
  | line
  | block
  deriving DecidableEq

/-- While `star` the last character of a block comment was a star, which is content unless a slash
follows. -/
structure Comment where
  style : Option CommentStyle := none
  content : String := ""
  star : Bool := false
  closed : Bool := false
  deriving DecidableEq

def Comment.toLineEnd : Comment := { style := some .line }

def Comment.accept (comment : Comment) (c : Char) : Reply Comment :=
  match comment.style with
  | none => .taken { comment with style := some (.opening c) }
  | some (.opening first) =>
      if first = '-' ∧ c = '-' ∨ first = '/' ∧ c = '/' then
        .taken { comment with style := some .line }
      else if first = '/' ∧ c = '*' then .taken { comment with style := some .block }
      else .refused (.commentExpected first c)
  | some .line =>
      if c = '\n' then .done else .taken { comment with content := comment.content.push c }
  | some .block =>
      if comment.closed then .done
      else if comment.star ∧ c = '/' then .taken { comment with closed := true }
      else
        let content := if comment.star then comment.content.push '*' else comment.content
        if c = '*' then .taken { comment with content, star := true }
        else .taken { comment with content := content.push c, star := false }

def Comment.drain (comment : Comment) : Except Cause (List Token) × Comment :=
  match comment.style, comment.closed with
  | some (.opening first), _ => (.error (.loneCommentMark first), {})
  | some .block, false => (.error .unclosedComment, {})
  | _, _ => (.ok [{ kind := .comment, content := comment.content }], {})

structure Digits where
  content : String := ""
  point : Bool := false
  deriving DecidableEq

def Digits.drain (digits : Digits) : Except Cause (List Token) × Digits :=
  if digits.content = "-" then (.error (.digitExpected none), {})
  else (.ok [{ kind := .number, content := digits.content }], {})

inductive Lexeme where
  | word (state : Word)
  | quoted (state : Quoted)
  | number (state : Digits)
  | symbol (content : String)
  | comment (state : Comment)
  | comma (seen : Bool)
  deriving DecidableEq

/-- Two minus signs are the mark of a comment: the number gives way to it. -/
def Digits.accept (digits : Digits) (c : Char) : Reply Lexeme :=
  if digits.content = "" ∨ c.isDigit then
    .taken (.number { digits with content := digits.content.push c })
  else if digits.content = "-" then
    if c = '-' then .taken (.comment .toLineEnd) else .refused (.digitExpected (some c))
  else if c = '.' then
    if digits.point then .refused (.repeatedPoint digits.content)
    else .taken (.number ⟨digits.content.push c, true⟩)
  else .done

def Reply.map {α β : Type} (f : α → β) : Reply α → Reply β
  | .taken next => .taken (f next)
  | .done => .done
  | .refused cause => .refused cause

namespace Lexeme

def kind : Lexeme → RecognizerKind
  | .word _ => .word
  | .quoted _ => .quoted
  | .number _ => .number
  | .symbol _ => .symbol
  | .comment _ => .comment
  | .comma _ => .comma

def accept (lexeme : Lexeme) (c : Char) (around : Surroundings) : Reply Lexeme :=
  match lexeme with
  | .word state => (state.accept c).map .word
  | .quoted state => (state.accept c).map .quoted
  | .number state => state.accept c
  | .symbol content => if isSymbolPart c then .taken (.symbol (content.push c)) else .done
  | .comment state => (state.accept c).map .comment
  | .comma true => .done
  | .comma false => if around.previous = some .comma then .refused .repeatedComma else .taken (.comma true)

def drain : Lexeme → Except Cause (List Token) × Lexeme
  | .word state => (state.drain.1, .word state.drain.2)
  | .quoted state => (state.drain.1, .quoted state.drain.2)
  | .number state => (state.drain.1, .number state.drain.2)
  | .symbol content => (.ok [{ kind := .operator, content }], .symbol "")
  | .comment state => (state.drain.1, .comment state.drain.2)
  | .comma _ => (.ok [{ kind := .delimiter, content := "," }], .comma false)

end Lexeme

end DocQuery.Lexing
