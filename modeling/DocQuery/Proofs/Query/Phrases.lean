import DocQuery.Query.Draft

/-!
The grammar of queries as data. A phrase holds the tokens of one part of a query together with the
evidence that they stand where the grammar has a place for them, so that every phrase is one that
can be read. Each phrase knows its tokens in order and what they mean.
-/

namespace DocQuery.Grammar

def IsWord (token : Token) (word : String) : Prop := token.kind = .query ∧ token.content = word
  deriving Decidable

def word (content : String) : Token := { kind := .query, content }

theorem word_isWord (content : String) : IsWord (word content) content := ⟨rfl, rfl⟩

def OpensClause (token : Token) : Prop :=
  IsWord token "select" ∨ IsWord token "from" ∨ IsWord token "where"
  deriving Decidable

def IsName (token : Token) : Prop := token.kind = .query ∧ ¬ OpensClause token
  deriving Decidable

def IsColumn (token : Token) : Prop :=
  IsName token ∧ token.content ≠ "and" ∧ token.content ≠ "or"
  deriving Decidable

def IsValue (token : Token) : Prop :=
  token.kind = .text ∨ token.kind = .number ∨ token.kind = .array ∨
    IsWord token "true" ∨ IsWord token "false" ∨ IsWord token "null"
  deriving Decidable

def operatorNames : List (String × Operator) :=
  [("=", .equalTo), ("is", .equalTo), ("in", .isIn), ("<>", .negation .equalTo),
    ("!=", .negation .equalTo), (">", .greaterThan), (">=", .greaterThanOrEqualTo),
    ("<", .lessThan), ("<=", .lessThanOrEqualTo)]

/-- A column, an operator and a value. Behind the operator `is`, and only there, `not` may stand. -/
structure FilterPhrase where
  column : Token
  operator : Token
  negation : Option Token
  value : Token
  meaning : Operator
  isColumn : IsColumn column
  isOperator : operator.kind = .operator ∨ IsWord operator "in"
  isKnown : (operator.content, meaning) ∈ operatorNames
  isNegation : ∀ token ∈ negation, operator.kind = .operator ∧ operator.content = "is" ∧
    token.kind = .operator ∧ token.content = "not"
  isValue : IsValue value

def FilterPhrase.tokens (phrase : FilterPhrase) : List Token :=
  phrase.column :: phrase.operator :: phrase.negation.toList ++ [phrase.value]

def FilterPhrase.filter (phrase : FilterPhrase) : Filter where
  column := .ofText phrase.column.content
  operator := if phrase.negation.isSome then .negation phrase.meaning else phrase.meaning
  value := phrase.value

structure Joint where
  token : Token
  connective : Connective
  isWord : IsWord token connective.word

inductive Chain where
  | last (phrase : FilterPhrase)
  | link (phrase : FilterPhrase) (joint : Joint) (rest : Chain)

namespace Chain

def tokens : Chain → List Token
  | .last phrase => phrase.tokens
  | .link phrase joint rest => phrase.tokens ++ joint.token :: rest.tokens

def phrases : Chain → List FilterPhrase
  | .last phrase => [phrase]
  | .link phrase _ rest => phrase :: rest.phrases

def filters (chain : Chain) : List Filter := chain.phrases.map FilterPhrase.filter

def connectives : Chain → List Connective
  | .last _ => []
  | .link _ joint rest => joint.connective :: rest.connectives

/-- The connective under which each filter is filed: the one behind it, for the last filter the
last one there is, and `and` for a single filter. -/
def filing (chain : Chain) : List Connective :=
  chain.connectives ++ [chain.connectives.getLast?.getD .and]

def filedUnder (chain : Chain) (connective : Connective) : List Filter :=
  ((chain.filters.zip chain.filing).filter (·.2 = connective)).map Prod.fst

def group (chain : Chain) : FilterGroup :=
  { and := chain.filedUnder .and, or := chain.filedUnder .or }

end Chain

structure Condition where
  word : Token
  chain : Chain
  isWord : IsWord word "where"

def Condition.tokens (condition : Condition) : List Token :=
  condition.word :: condition.chain.tokens

structure QueryPhrase where
  selectWord : Token
  columns : List Token
  fromWord : Token
  table : Token
  aliasName : Option Token
  condition : Option Condition
  isSelect : IsWord selectWord "select"
  someColumn : columns ≠ []
  areColumns : ∀ token ∈ columns, ¬ OpensClause token
  isFrom : IsWord fromWord "from"
  isTable : IsName table
  isAlias : ∀ token ∈ aliasName, IsName token

namespace QueryPhrase

def tokens (phrase : QueryPhrase) : List Token :=
  phrase.selectWord :: phrase.columns ++ phrase.fromWord :: phrase.table ::
    phrase.aliasName.toList ++ (phrase.condition.map Condition.tokens).getD []

def query (phrase : QueryPhrase) : Query where
  columns := phrase.columns.map Token.content
  table := ⟨phrase.table.content, phrase.aliasName.map Token.content⟩
  groups := phrase.condition.map fun condition => [condition.chain.group]

end QueryPhrase

end DocQuery.Grammar
