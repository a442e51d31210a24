import DocQuery.Proofs.Lexing.Resting
import DocQuery.Proofs.Lexing.Rewriting
import DocQuery.Query.Draft

/-!
Layout between two lines of a query. Blanks and comments behind a line end leave the machine where it
was, but for tokens of comments, and a query is read as if these were not there. So any layout can be
put in place of the line end, whatever follows it (`parse_layout`).
-/

namespace DocQuery.Grammar

open DocQuery.Text DocQuery.Lexing

section Items

/-- One item of a layout: a blank, a comment between marks, or a comment with its line end. -/
inductive LayoutItem where
  | blank (c : Char) (blank : isBlank c = true) (plain : c ≠ '\r')
  | block (body : List Char) (unmarked : ¬ ['*', '/'] <:+: body) (plain : '\r' ∉ body)
  | line (mark : Char) (isMark : mark = '-' ∨ mark = '/') (body : List Char) (inLine : '\n' ∉ body)
      (plain : '\r' ∉ body)

namespace LayoutItem

def chars : LayoutItem → List Char
  | .blank c _ _ => [c]
  | .block body _ _ => '/' :: '*' :: body ++ ['*', '/']
  | .line mark _ body _ _ => mark :: mark :: body ++ ['\n']

def tokens : LayoutItem → List Token
  | .blank _ _ _ => []
  | .block body _ _ | .line _ _ body _ _ => [tokenOf .comment body]

theorem chars_plain (item : LayoutItem) : '\r' ∉ item.chars := by
  cases item with
  | blank c blank plain => simpa [chars] using plain.symm
  | block body unmarked plain => simp [chars, plain]
  | line mark isMark body inLine plain =>
      rcases isMark with rfl | rfl <;> simp [chars, plain]

theorem tokens_comments (item : LayoutItem) : ∀ token ∈ item.tokens, token.kind = .comment := by
  cases item <;> simp [tokens, tokenOf]

end LayoutItem

theorem layout_comments (items : List LayoutItem) :
    ∀ token ∈ items.flatMap LayoutItem.tokens, token.kind = .comment := by
  intro token member
  obtain ⟨item, -, inside⟩ := List.mem_flatMap.mp member
  exact item.tokens_comments token inside

def layout (items : List LayoutItem) : String :=
  String.ofList ('\n' :: items.flatMap LayoutItem.chars)

theorem cutWhile_line {body : List Char} (inLine : '\n' ∉ body) (rest : List Char) :
    cutWhile (· != '\n') (body ++ '\n' :: rest) = ⟨body, '\n' :: rest⟩ := by
  have within : ∀ c ∈ body, (c != '\n') = true := by
    rintro c member
    simp only [bne_iff_ne]
    rintro rfl
    exact inLine member
  exact cutWhile_exact within (by simp)

variable {levels : Levels} {previous : Option RecognizerKind}

theorem read_layoutItem (item : LayoutItem) (rest : List Char) :
    levels.idle.read previous (item.chars ++ rest) =
      (levels.collect item.tokens).idle.read previous rest := by
  cases item with
  | blank c blank plain =>
      simpa [LayoutItem.chars, LayoutItem.tokens, Levels.collect, Level.collect] using
        read_idle_blank rest blank
  | block body unmarked plain =>
      have chars : '/' :: '*' :: body ++ ['*', '/'] ++ rest =
          '/' :: '*' :: (body ++ '*' :: '/' :: rest) := by simp
      rw [LayoutItem.chars, chars, read_blockComment_start, cutBlockComment_content unmarked]
      simp [Levels.behindComment, LayoutItem.tokens, tokenOf]
  | line mark isMark body inLine plain =>
      have chars : mark :: mark :: body ++ ['\n'] ++ rest =
          mark :: mark :: (body ++ '\n' :: rest) := by simp
      rw [LayoutItem.chars, chars, read_lineComment_start isMark, cutWhile_line inLine]
      exact read_idle_blank rest (by decide)

theorem collect_append (levels : Levels) (first second : List Token) :
    (levels.collect first).collect second = levels.collect (first ++ second) := by
  simp [Levels.collect, Level.collect, Nat.add_assoc]

theorem read_layoutItems (items : List LayoutItem) (rest : List Char) :
    levels.idle.read previous (items.flatMap LayoutItem.chars ++ rest) =
      (levels.collect (items.flatMap LayoutItem.tokens)).idle.read previous rest := by
  induction items generalizing levels with
  | nil => simp [Levels.collect, Level.collect]
  | cons item items ih =>
      rw [List.flatMap_cons, List.append_assoc, read_layoutItem, ih, collect_append,
        List.flatMap_cons]

end Items

section Texts

theorem idle_behind (tokens more : List Token) (commas : Nat)
    (comments : ∀ token ∈ more, token.kind = .comment) :
    ((⟨⟨tokens, commas⟩, []⟩ : Levels).collect more).idle =
      (⟨⟨[], commas⟩, []⟩ : Levels).idle.behind (tokens ++ more) := by
  have kept : more.filter (·.kind != .delimiter) = more := by
    rw [List.filter_eq_self]
    intro token member
    simp [comments token member]
  have uncounted : more.filter (·.kind == .delimiter) = [] := by
    rw [List.filter_eq_nil_iff]
    intro token member
    simp [comments token member]
  simp [Levels.collect, Level.collect, kept, uncounted, Levels.idle, enclose, Recognizer.behind,
    Frame.behind, Level.frame]

theorem characters_append (first second : String) :
    characters (first ++ second) = characters first ++ characters second := by
  simp [characters]

theorem characters_layout (items : List LayoutItem) :
    characters (layout items) = '\n' :: items.flatMap LayoutItem.chars := by
  have plain : ∀ c ∈ '\n' :: items.flatMap LayoutItem.chars, (c != '\r') = true := by
    intro c member
    simp only [bne_iff_ne]
    rintro rfl
    simp only [List.mem_cons, List.mem_flatMap] at member
    rcases member with lineEnd | ⟨item, -, inside⟩
    · exact absurd lineEnd (by decide)
    · exact item.chars_plain inside
  rw [characters, layout, String.toList_ofList, List.filter_eq_self.mpr plain]

/-- Behind a text that can be read, all layouts give the same but for their comments. -/
theorem tokenise_layout {first : String} {tokens : List Token}
    (read : tokenise first = .ok tokens) (second : String) :
    ∃ result : Except Cause (List Token), ∀ items,
      (tokenise (first ++ layout items ++ second)).mapError Failure.cause =
        result.map (tokens ++ items.flatMap LayoutItem.tokens ++ ·) := by
  rw [tokenise_eq_ok_iff_read] at read
  obtain ⟨commas, last, atRest⟩ := read_line root_isRoot read
  refine ⟨(⟨⟨[], commas⟩, []⟩ : Levels).idle.read last (characters second), fun items => ?_⟩
  rw [tokenise_read, characters_append, characters_append, characters_layout, List.append_assoc,
    List.cons_append, atRest, read_layoutItems, idle_behind _ _ _ (layout_comments items)]
  have isRoot : (⟨⟨[], commas⟩, []⟩ : Levels).idle.IsRoot := ⟨rfl, rfl, rfl⟩
  exact read_behind isRoot _ last (characters second)

end Texts

section Queries

theorem feedAll_comments (draft : QueryDraft) (tokens : List Token) :
    draft.feedAll tokens = draft.feedAll (tokens.filter (!·.isComment)) := by
  induction tokens generalizing draft with
  | nil => rfl
  | cons token rest ih =>
      by_cases comment : token.isComment = true
      · simp [QueryDraft.feedAll, QueryDraft.feed, comment, ih]
      · simp only [comment, Bool.not_false, List.filter_cons_of_pos, QueryDraft.feedAll, ih]

theorem ofTokens_behind_comments (tokens comments rest : List Token)
    (areComments : ∀ token ∈ comments, token.kind = .comment) :
    Query.ofTokens (tokens ++ comments ++ rest) = Query.ofTokens (tokens ++ rest) := by
  have skipped : comments.filter (!·.isComment) = [] := by
    rw [List.filter_eq_nil_iff]
    intro token member
    simp [Token.isComment, areComments token member]
  unfold Query.ofTokens
  rw [feedAll_comments, feedAll_comments _ (tokens ++ rest)]
  simp only [List.filter_append, skipped, List.append_nil]

/-- The fault without the place at which a lexeme failed. -/
def unplaced : ParseFault → ParseFault
  | .lexing failure => .lexing { failure with position := .start }
  | fault => fault

/-- Up to places the result depends on the tokens or the cause why there are none. -/
theorem parse_of_causes (text : String) :
    (Query.parse text).mapError unplaced =
      match (tokenise text).mapError Failure.cause with
      | .error cause => .error (.lexing ⟨cause, .start⟩)
      | .ok tokens => (Query.ofTokens tokens).mapError unplaced := by
  unfold Query.parse
  cases tokenise text with
  | error failure => rfl
  | ok tokens => rfl

theorem parse_unplaced {left right : String} {result : Except Cause (List Token)}
    {inLeft inRight : List Token → List Token}
    (leftRead : (tokenise left).mapError Failure.cause = result.map inLeft)
    (rightRead : (tokenise right).mapError Failure.cause = result.map inRight)
    (same : ∀ tokens, Query.ofTokens (inLeft tokens) = Query.ofTokens (inRight tokens)) :
    (Query.parse left).mapError unplaced = (Query.parse right).mapError unplaced := by
  rw [parse_of_causes, parse_of_causes, leftRead, rightRead]
  cases result with
  | error cause => rfl
  | ok tokens => simp only [Except.map, same]

/-- Whatever stands in front of it and behind it, and whether or not the whole is a query, a layout
is read as a line end is. -/
theorem parse_layout {first : String} {tokens : List Token} (read : tokenise first = .ok tokens)
    (items : List LayoutItem) (second : String) :
    (Query.parse (first ++ layout items ++ second)).mapError unplaced =
      (Query.parse (first ++ "\n" ++ second)).mapError unplaced := by
  obtain ⟨result, readOn⟩ := tokenise_layout read second
  have lineEnd : layout [] = "\n" := rfl
  rw [← lineEnd]
  refine parse_unplaced (readOn items) (readOn []) fun more => ?_
  rw [ofTokens_behind_comments tokens _ more (layout_comments items), List.flatMap_nil,
    List.append_nil]

def remarks : List LayoutItem :=
  [.blank ' ' rfl (by decide), .block " , (* ".toList (by decide) (by decide),
    .line '-' (.inl rfl) " it's".toList (by decide) (by decide),
    .line '/' (.inr rfl) [] (by decide) (by decide)]

/-- The second comma follows the first one, for all that stands between them. -/
theorem parse_layout_between_commas :
    tokenise "select a," = .ok [{ kind := .query, content := "select" },
      { kind := .query, content := "a" }] ∧
    (Query.parse ("select a," ++ layout remarks ++ ", b from t")).mapError unplaced =
      .error (.lexing ⟨.repeatedComma, .start⟩) :=
  ⟨rfl, (parse_layout rfl remarks ", b from t").trans rfl⟩

end Queries

end DocQuery.Grammar
