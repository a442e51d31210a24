/-!
Tokens of the query text and their written form. `Token.source` is query text for a token:
quotes, parentheses and comment marks, which the content leaves out, are put back.
-/

namespace DocQuery

/-- What a token is. Commas are tokens of their own kind only while an array is being read. -/
inductive TokenKind where
  | query
  | text
  | number
  | operator
  | block
  | comment
  | array
  | delimiter
  deriving DecidableEq

def TokenKind.name : TokenKind → String
  | .query => "Query"
  | .text => "Text"
  | .number => "Number"
  | .operator => "Operator"
  | .block => "Block"
  | .comment => "Comment"
  | .array => "Array"
  | .delimiter => "ArrayDelimiter"

/-- A classified unit of query text. Keywords and names are `query` tokens; the elements are the
values of an `array` token in source order, and no other token has any. -/
structure Token where
  kind : TokenKind
  content : String
  elements : List Token := []

namespace Token

mutual

protected def decEq : (a b : Token) → Decidable (a = b)
  | ⟨kind, content, elements⟩, ⟨kind', content', elements'⟩ =>
      match decEq kind kind', decEq content content', Token.decEqList elements elements' with
      | isTrue sameKind, isTrue sameContent, isTrue sameElements =>
          isTrue (by rw [sameKind, sameContent, sameElements])
      | isFalse differ, _, _ => isFalse fun same => differ (by injection same)
      | _, isFalse differ, _ => isFalse fun same => differ (by injection same)
      | _, _, isFalse differ => isFalse fun same => differ (by injection same)

protected def decEqList : (as bs : List Token) → Decidable (as = bs)
  | [], [] => isTrue rfl
  | [], _ :: _ => isFalse nofun
  | _ :: _, [] => isFalse nofun
  | a :: as, b :: bs =>
      match Token.decEq a b, Token.decEqList as bs with
      | isTrue sameHead, isTrue sameTail => isTrue (by rw [sameHead, sameTail])
      | isFalse differ, _ => isFalse fun same => differ (by injection same)
      | _, isFalse differ => isFalse fun same => differ (by injection same)

end

instance : DecidableEq Token := Token.decEq

def blockStart : Token := { kind := .block, content := "start" }

def blockEnd : Token := { kind := .block, content := "end" }

def isComment (token : Token) : Bool := token.kind == .comment

def isLiteral (token : Token) : Bool := token.kind == .text || token.kind == .number

def isNested (token : Token) : Bool := token.kind == .block || token.kind == .array

def doubleQuotes (chars : List Char) : List Char :=
  chars.flatMap fun c => if c = '\'' then ['\'', '\''] else [c]

def source (token : Token) : String :=
  match token.kind with
  | .text => String.ofList ('\'' :: (doubleQuotes token.content.toList ++ ['\'']))
  | .array => "(" ++ token.content ++ ")"
  | .comment => "/*" ++ token.content ++ "*/"
  | .block => if token.content = "start" then "(" else ")"
  | .query | .number | .operator | .delimiter => token.content

/-- The array of the given values. Its content is their source with commas between. -/
def ofElements (elements : List Token) : Token where
  kind := .array
  content := ", ".intercalate (elements.map source)
  elements := elements

def line (token : Token) : String := token.kind.name ++ " " ++ token.content

end Token

end DocQuery
