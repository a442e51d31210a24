import DocQuery.Proofs.Lexing.Nesting
import DocQuery.Query.Draft

/-!
Comments inside of parentheses. Whether a region is an array literal or a block is decided while its
comments are still among its tokens. With a comma, or with a token that is neither a comment nor a
literal, they make no difference; a comment beside nothing but literals makes a block of what would
be an array literal, and a comment alone gives an end to the block that would have none
(`emit_withoutComments_iff`).
-/

namespace DocQuery.Lexing

def withoutComments (tokens : List Token) : List Token := tokens.filter (!·.isComment)

theorem withoutComments_of_plain {tokens : List Token}
    (plain : ∀ token ∈ tokens, token.isComment = false) : withoutComments tokens = tokens := by
  rw [withoutComments, List.filter_eq_self]
  intro token member
  simp [plain token member]

theorem withoutComments_block (tokens : List Token) :
    withoutComments (.blockStart :: tokens ++ [.blockEnd]) =
      .blockStart :: withoutComments tokens ++ [.blockEnd] := by
  simp [withoutComments, Token.blockStart, Token.blockEnd, Token.isComment]

theorem literal_not_comment {token : Token} (literal : token.isLiteral = true) :
    token.isComment = false := by
  simp only [Token.isLiteral, Bool.or_eq_true, beq_iff_eq] at literal
  rcases literal with kind | kind <;> simp [Token.isComment, kind]

section Regions

variable {tokens : List Token}

theorem emit_withoutComments_commas {commas : Nat} (someComma : 0 < commas) :
    (Frame.emit tokens commas).map withoutComments =
      Frame.emit (withoutComments tokens) commas := by
  -- With a comma the values are taken without the comments, whatever they are.
  have twice : (withoutComments tokens).filter (!·.isComment) = withoutComments tokens :=
    withoutComments_of_plain (by simp [withoutComments])
  have values : tokens.filter (!·.isComment) = withoutComments tokens := rfl
  simp only [Frame.emit, someComma, true_or, ↓reduceIte, values, twice]
  cases (withoutComments tokens).find? Token.isNested with
  | some nested => rfl
  | none =>
      simp only
      split
      · rfl
      · rfl

theorem emit_literals (someToken : tokens ≠ [])
    (literals : ∀ token ∈ tokens, token.isLiteral = true) :
    Frame.emit tokens 0 = .ok [.ofElements tokens] := by
  have all : tokens.all Token.isLiteral = true := List.all_eq_true.mpr literals
  obtain ⟨same, unnested⟩ := literals_unnested all
  simp [Frame.emit, someToken, all, same, unnested]

theorem emit_block (mixed : ∃ token ∈ tokens, token.isLiteral = false) :
    Frame.emit tokens 0 = .ok (.blockStart :: tokens ++ [.blockEnd]) := by
  obtain ⟨token, member, other⟩ := mixed
  have someToken : tokens ≠ [] := List.ne_nil_of_mem member
  have notAll : tokens.all Token.isLiteral = false := by
    rw [List.all_eq_false]
    exact ⟨token, member, by simp [other]⟩
  simp [Frame.emit, someToken, notAll]

theorem emit_withoutComments_block
    (mixed : ∃ token ∈ tokens, token.isComment = false ∧ token.isLiteral = false) :
    (Frame.emit tokens 0).map withoutComments = Frame.emit (withoutComments tokens) 0 := by
  -- Without commas, a token that is neither comment nor literal makes a block of the region with
  -- and without the comments.
  obtain ⟨token, member, counts, other⟩ := mixed
  have kept : token ∈ withoutComments tokens := List.mem_filter.mpr ⟨member, by simp [counts]⟩
  rw [emit_block ⟨token, member, other⟩, emit_block ⟨token, kept, other⟩, Except.map,
    withoutComments_block]

theorem emit_withoutComments_plain (plain : ∀ token ∈ tokens, token.isComment = false) :
    (Frame.emit tokens 0).map withoutComments = Frame.emit (withoutComments tokens) 0 := by
  rw [withoutComments_of_plain plain]
  by_cases literals : ∀ token ∈ tokens, token.isLiteral = true
  · by_cases empty : tokens = []
    · rw [empty]
      rfl
    · rw [emit_literals empty literals]
      rfl
  · have mixed : ∃ token ∈ tokens, token.isLiteral = false := by simpa using literals
    rw [emit_block mixed, Except.map, withoutComments_block, withoutComments_of_plain plain]

theorem emit_withoutComments_differs (comment : ∃ token ∈ tokens, token.isComment = true)
    (literals : ∀ token ∈ tokens, token.isComment = false → token.isLiteral = true) :
    (Frame.emit tokens 0).map withoutComments ≠ Frame.emit (withoutComments tokens) 0 := by
  -- The comment is no literal, so that the region is a block; without it the block is gone, or has
  -- lost its end.
  obtain ⟨token, member, isComment⟩ := comment
  have other : token.isLiteral = false := by
    rw [Bool.eq_false_iff]
    intro literal
    simp [literal_not_comment literal] at isComment
  rw [emit_block ⟨token, member, other⟩, Except.map, withoutComments_block]
  by_cases empty : withoutComments tokens = []
  · rw [empty]
    simp [Frame.emit]
  · have values : ∀ value ∈ withoutComments tokens, value.isLiteral = true := by
      intro value kept
      obtain ⟨inside, counts⟩ := List.mem_filter.mp kept
      exact literals value inside (by simpa using counts)
    rw [emit_literals empty values]
    simp

end Regions

/-- Comments make a difference to a region exactly if it has no comma and there is nothing but
literals beside them. -/
theorem emit_withoutComments_iff (tokens : List Token) (commas : Nat) :
    (Frame.emit tokens commas).map withoutComments = Frame.emit (withoutComments tokens) commas ↔
      0 < commas ∨ (∀ token ∈ tokens, token.isComment = false) ∨
        ∃ token ∈ tokens, token.isComment = false ∧ token.isLiteral = false := by
  rcases Nat.eq_zero_or_pos commas with rfl | someComma
  · constructor
    · intro same
      by_cases plain : ∀ token ∈ tokens, token.isComment = false
      · exact .inr (.inl plain)
      by_cases mixed : ∃ token ∈ tokens, token.isComment = false ∧ token.isLiteral = false
      · exact .inr (.inr mixed)
      · have comment : ∃ token ∈ tokens, token.isComment = true := by simpa using plain
        have literals : ∀ token ∈ tokens, token.isComment = false → token.isLiteral = true := by
          simpa using mixed
        exact absurd same (emit_withoutComments_differs comment literals)
    · rintro (impossible | plain | mixed)
      · cases impossible
      · exact emit_withoutComments_plain plain
      · exact emit_withoutComments_block mixed
  · exact iff_of_true (emit_withoutComments_commas someComma) (.inl someComma)

/-- With the comment the parentheses are a block, which is no value. -/
theorem comment_beside_literal_refused :
    Query.parse "select * from t where a in (1 /* one */)" = .error .parenthesisedGroup ∧
      Query.parse "select * from t where a in (1)" = .ok {
        columns := ["*"], table := { name := "t" },
        groups := some [{
          and := [⟨⟨"a", none⟩, .isIn, .ofElements [⟨.number, "1", []⟩]⟩] }] } :=
  ⟨rfl, rfl⟩

end DocQuery.Lexing
