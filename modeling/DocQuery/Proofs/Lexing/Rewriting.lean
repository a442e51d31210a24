import DocQuery.Proofs.Lexing.Shapes

/-!
The tokens of a text, written one behind the other with a blank between them, are read as the same
tokens (`tokenise_sources`). Commas, the choice of quotes and the style of comments are gone from
the tokens, and the nesting is left only in the marks of blocks; an empty block has no mark for its
end, so that it must not occur.
-/

namespace DocQuery.Lexing

open DocQuery.Text

def spaced (tokens : List Token) : List Char :=
  tokens.flatMap fun token => ' ' :: token.source.toList

theorem spaced_append (first second : List Token) :
    spaced (first ++ second) = spaced first ++ spaced second := by
  simp [spaced]

theorem stops_spaced (tokens : List Token) : Stops (spaced tokens) := by
  cases tokens with
  | nil => simp [spaced, Stops]
  | cons token rest => exact stops_cons (by decide) _

theorem toList_intercalate (first : Token) (rest : List Token) :
    spaced (first :: rest) = ' ' :: (" ".intercalate ((first :: rest).map Token.source)).toList := by
  rw [List.map_cons, intercalate_cons, List.map_map, String.toList_append]
  induction rest with
  | nil => simp [spaced]
  | cons token rest ih => simp [spaced] at ih ⊢; exact ih

section Comments

/-- A comment that has the mark of its end inside is a comment of the other style. -/
def Closable (token : Token) : Prop :=
  token.kind = .comment → ¬ ['*', '/'] <:+: token.content.toList

theorem cutBlockComment_content {content : List Char} (unmarked : ¬ ['*', '/'] <:+: content)
    (tail : List Char) :
    cutBlockComment (content ++ '*' :: '/' :: tail) = some ⟨content, tail⟩ := by
  induction content with
  | nil => rfl
  | cons c rest ih =>
      have later : ¬ ['*', '/'] <:+: rest :=
        fun marked => unmarked (marked.trans (List.suffix_cons c rest).isInfix)
      have noMark : ∀ more, c = '*' → rest ++ '*' :: '/' :: tail = '/' :: more → False := by
        rintro more rfl slash
        cases rest with
        | nil => cases slash
        | cons d rest =>
            cases slash
            exact unmarked ⟨[], rest, rfl⟩
      rw [List.cons_append, cutBlockComment.eq_3 _ _ noMark, ih later]
      rfl

theorem source_comment (content : String) :
    (Token.source { kind := .comment, content }).toList =
      '/' :: '*' :: (content.toList ++ ['*', '/']) := by
  simp [Token.source]

theorem adds_comment {content : String} (plain : '\r' ∉ content.toList)
    (unmarked : ¬ ['*', '/'] <:+: content.toList) :
    Adds (Token.source { kind := .comment, content }).toList
      ⟨[{ kind := .comment, content }], 0⟩ := by
  rw [source_comment]
  refine ⟨by simp [plain], [.token { kind := .comment, content }], ?_, makes_token _⟩
  intro tail _
  have cut : cutPiece '/' ('*' :: (content.toList ++ '*' :: '/' :: tail)) =
      some (.token (tokenOf .comment content.toList), tail) :=
    (Leads.blockComment (cutBlockComment_content unmarked tail)).cut
  rw [show '/' :: '*' :: (content.toList ++ ['*', '/']) ++ tail =
    '/' :: ('*' :: (content.toList ++ '*' :: '/' :: tail)) by simp, pieces?_solid (by decide) cut]
  simp [tokenOf]

end Comments

section Lists

/-- A list of tokens with at most as many ends of blocks as starts is read from its sources if it
has as many. -/
structure Rewritable (tokens : List Token) : Prop where
  ends : tokens.count .blockEnd ≤ tokens.count .blockStart
  adds : tokens.count .blockEnd = tokens.count .blockStart →
    (∀ token ∈ tokens, Closable token) → Adds (spaced tokens) ⟨tokens, 0⟩

theorem rewritable_nil : Rewritable [] :=
  ⟨Nat.le_refl _, fun _ _ => adds_nothing⟩

theorem Rewritable.append {first second : List Token} (rewritable : Rewritable first)
    (rewritable' : Rewritable second) : Rewritable (first ++ second) := by
  obtain ⟨ends, adds⟩ := rewritable
  obtain ⟨ends', adds'⟩ := rewritable'
  constructor
  · simp only [List.count_append]
    omega
  · intro balanced closable
    simp only [List.count_append] at balanced
    rw [List.forall_mem_append] at closable
    have left := adds (by omega) closable.1
    have right := adds' (by omega) closable.2
    rw [spaced_append]
    exact left.append right (stops_spaced second)

theorem Shaped.adds {token : Token} (shaped : Shaped token) (noMark : token.kind ≠ .block)
    (closable : Closable token) : Adds token.source.toList ⟨[token], 0⟩ := by
  cases shaped with
  | single spells => exact spells.writes.toAdds
  | comment plain => exact adds_comment plain (closable rfl)
  | blockStart | blockEnd => exact absurd rfl noMark
  | array nonempty spelled alone => exact (writes_array nonempty spelled alone).toAdds

theorem Shaped.rewritable {token : Token} (shaped : Shaped token) (noMark : token.kind ≠ .block) :
    Rewritable [token] := by
  have noEnd : token ≠ .blockEnd := by
    rintro rfl
    exact noMark rfl
  have noStart : token ≠ .blockStart := by
    rintro rfl
    exact noMark rfl
  constructor
  · simp [noEnd]
  · intro _ closable
    have adds := adds_blank_cons.mpr (shaped.adds noMark (closable token List.mem_cons_self))
    simpa [spaced] using adds

theorem rewritable_start : Rewritable [.blockStart] := by
  constructor
  · decide
  · intro balanced
    exact absurd balanced (by decide)

theorem rewritable_block {tokens : List Token} (nonempty : tokens ≠ [])
    (mixed : ¬ tokens.all Token.isLiteral = true) (rewritable : Rewritable tokens) :
    Rewritable (.blockStart :: tokens ++ [.blockEnd]) := by
  obtain ⟨ends, adds⟩ := rewritable
  have different : Token.blockStart ≠ .blockEnd := by decide
  have countEnds : (Token.blockStart :: tokens ++ [Token.blockEnd]).count Token.blockEnd =
      tokens.count .blockEnd + 1 := by
    simp [different]
  have countStarts : (Token.blockStart :: tokens ++ [Token.blockEnd]).count Token.blockStart =
      tokens.count .blockStart + 1 := by
    simp [different.symm]
  constructor
  · omega
  · intro balanced closable
    have inside : ∀ token ∈ tokens, Closable token :=
      fun token member => closable token (by simp [member])
    have closed : Level.close? ⟨tokens, 0⟩ = some (.blockStart :: tokens ++ [.blockEnd]) :=
      Level.close?_eq_some_iff.mpr (.block rfl nonempty mixed)
    have blank : Adds [' '] {} := adds_blank_cons.mpr adds_nothing
    have padded : Adds (spaced tokens ++ [' ']) ⟨tokens, 0⟩ := by
      simpa [Level.add] using (adds (by omega) inside).append blank (stops_cons (by decide) [])
    have block := adds_blank_cons.mpr (padded.enclosed closed)
    simpa [spaced, Token.source, Token.blockStart, Token.blockEnd] using block

theorem close?_rewritable {level : Level} {tokens : List Token}
    (closed : level.close? = some tokens) (shaped : ∀ token ∈ level.tokens, Shaped token)
    (rewritable : Rewritable level.tokens) : Rewritable tokens := by
  have shapedTokens := close?_shaped closed shaped
  have array : ∀ elements, tokens = [.ofElements elements] → Rewritable tokens := by
    rintro elements rfl
    exact (shapedTokens _ List.mem_cons_self).rewritable (by simp [Token.ofElements])
  cases Level.close?_eq_some_iff.mp closed with
  | empty => exact rewritable_start
  | literals | values => exact array _ rfl
  | block _ nonempty mixed => exact rewritable_block nonempty mixed rewritable

end Lists

theorem tokenise_rewritable {text : String} {tokens : List Token}
    (read : tokenise text = .ok tokens) : Rewritable tokens := by
  obtain ⟨pieces, found, -, nested⟩ := pieces_of_tokenise read
  have shapes := kept_shaped found
  have kept : Kept (fun tokens => (∀ token ∈ tokens, Shaped token) ∧ Rewritable tokens) pieces := by
    constructor
    · exact ⟨shapes.empty, rewritable_nil⟩
    · rintro tokens token member ⟨shaped, rewritable⟩
      obtain ⟨shapedToken, unnested⟩ := piece_shaped found member
      have noMark : token.kind ≠ .block := by
        intro block
        simp [Token.isNested, block] at unnested
      exact ⟨shapes.token member shaped, rewritable.append (shapedToken.rewritable noMark)⟩
    · rintro level tokens parent closed ⟨shaped, rewritable⟩ ⟨shapedParent, rewritableParent⟩
      exact ⟨shapes.closing closed shaped shapedParent,
        rewritableParent.append (close?_rewritable closed shaped rewritable)⟩
  exact (kept.nest? nested).2

/-- Tokens are read again from their sources with blanks between, if every block that is opened is
closed and no comment holds the mark that ends one. -/
theorem tokenise_sources {text : String} {tokens : List Token} (read : tokenise text = .ok tokens)
    (balanced : tokens.count .blockEnd = tokens.count .blockStart)
    (unmarked : ∀ token ∈ tokens, token.kind = .comment → ¬ ['*', '/'] <:+: token.content.toList) :
    tokenise (" ".intercalate (tokens.map Token.source)) = .ok tokens := by
  have adds := (tokenise_rewritable read).adds balanced unmarked
  cases tokens with
  | nil => rfl
  | cons first rest =>
      rw [toList_intercalate, adds_blank_cons] at adds
      exact adds.tokenise_eq

def tangled : String := "(a ((1 -2.)) /* ** */ (\"b\", c)) -- **\n'it''s'"

def tangledTokens : List Token :=
  [.blockStart, ⟨.query, "a", []⟩, .blockStart,
    .ofElements [⟨.number, "1", []⟩, ⟨.number, "-2.", []⟩], .blockEnd, ⟨.comment, " ** ", []⟩,
    .ofElements [⟨.text, "b", []⟩, ⟨.query, "c", []⟩], .blockEnd, ⟨.comment, " **", []⟩,
    ⟨.text, "it's", []⟩]

theorem tokenise_tangled_sources :
    tokenise tangled = .ok tangledTokens ∧
      tokenise "( a ( (1, -2.) ) /* ** */ ('b', c) ) /* ***/ 'it''s'" = .ok tangledTokens := by
  have read : tokenise tangled = .ok tangledTokens := rfl
  have written : " ".intercalate (tangledTokens.map Token.source) =
      "( a ( (1, -2.) ) /* ** */ ('b', c) ) /* ***/ 'it''s'" := by decide +kernel
  have again := tokenise_sources read (by decide) (by decide)
  rw [written] at again
  exact ⟨read, again⟩

end DocQuery.Lexing
