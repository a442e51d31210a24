import DocQuery.Token

/-!
Places in a query text and the ways in which its characters fail to make tokens.
-/

namespace DocQuery

/-- What a failure is about: text outside the grammar, a part of the grammar in the wrong state,
or a feature that is left out on purpose. -/
inductive FaultKind where
  | malformed
  | misplaced
  | unsupported
  deriving DecidableEq

def FaultKind.label : FaultKind → String
  | .malformed => "Syntax error"
  | .misplaced => "State error"
  | .unsupported => "Not supported"

namespace Lexing

structure Position where
  line : Nat
  column : Nat
  deriving DecidableEq

namespace Position

def start : Position := ⟨1, 1⟩

def advance (position : Position) (c : Char) : Position :=
  if c = '\n' then ⟨position.line + 1, 1⟩ else ⟨position.line, position.column + 1⟩

def render (position : Position) : String :=
  position.line.repr ++ ":" ++ position.column.repr

end Position

/-- The kinds of recognizer, in the order in which they are asked for a character. -/
inductive RecognizerKind where
  | word
  | quoted
  | number
  | symbol
  | comment
  | region
  | comma
  deriving DecidableEq

namespace RecognizerKind

def all : List RecognizerKind := [.word, .quoted, .number, .symbol, .comment, .region, .comma]

def name : RecognizerKind → String
  | .word => "QueryTokenBuilder"
  | .quoted => "TextTokenBuilder"
  | .number => "NumberTokenBuilder"
  | .symbol => "OperatorTokenBuilder"
  | .comment => "CommentTokenBuilder"
  | .region => "BlockTokenBuilder"
  | .comma => "ArrayItemDelimiterTokenBuilder"

end RecognizerKind

inductive Cause where
  | unexpectedCharacter (c : Char)
  | ambiguousCharacter (c : Char) (kinds : List RecognizerKind)
  | unopenedParenthesis
  | unclosedParenthesis
  | nestedValue (kind : TokenKind)
  | emptyItem
  | repeatedComma
  | unclosedBracket (content : String)
  | unopenedBracket
  | lineEndsInQuotes
  | textEndsInQuotes
  | digitExpected (found : Option Char)
  | repeatedPoint (content : String)
  | commentExpected (first found : Char)
  | loneCommentMark (first : Char)
  | unclosedComment
  deriving DecidableEq

namespace Cause

def kind : Cause → FaultKind
  | .ambiguousCharacter _ _ | .nestedValue _ => .unsupported
  | _ => .malformed

def text : Cause → String
  | .unexpectedCharacter c => s!"Unexpected character '{c}'"
  | .ambiguousCharacter c kinds =>
      let names := ", ".intercalate (kinds.map RecognizerKind.name)
      s!"Character '{c}' is ambiguous between {names}"
  | .unopenedParenthesis => "Unexpected ')' without matching '('"
  | .unclosedParenthesis => "Unclosed '(' at end of input"
  | .nestedValue kind => "Nested " ++ kind.name ++ " inside an array literal"
  | .emptyItem => "Array literal has an empty item"
  | .repeatedComma => "Expected a value between ',' delimiters"
  | .unclosedBracket content => s!"Unclosed '[' in '{content}'"
  | .unopenedBracket => "Unexpected ']'"
  | .lineEndsInQuotes => "Unterminated string literal before end of line"
  | .textEndsInQuotes => "Unterminated string literal at end of input"
  | .digitExpected none => "Expected a digit after '-'"
  | .digitExpected (some found) => s!"Expected a digit after '-', found '{found}'"
  | .repeatedPoint content => s!"Number '{content}.' has more than one decimal point"
  | .commentExpected first found => s!"Expected a comment after '{first}', found '{found}'"
  | .loneCommentMark first => s!"Unexpected '{first}'"
  | .unclosedComment => "Unterminated block comment"

end Cause

structure Failure where
  cause : Cause
  position : Position
  deriving DecidableEq

def Failure.message (failure : Failure) : String :=
  failure.cause.kind.label ++ " at " ++ failure.position.render ++ ": " ++ failure.cause.text

end Lexing

end DocQuery
