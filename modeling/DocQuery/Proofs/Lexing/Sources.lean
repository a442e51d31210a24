import DocQuery.Proofs.Lexing.Resting
import DocQuery.Proofs.Lexing.Rewriting

/-!
The source of a single token. Read by itself it gives the token back, unless the token is a comment
that holds the mark at which a block comment ends (`tokenise_source_iff`). A comment up to the end of
its line may hold that mark, and the source writes every comment as a block comment.
-/

namespace DocQuery.Lexing

section Comments

theorem cutBlockComment_marked {chars : List Char} (marked : ['*', '/'] <:+: chars) :
    ∃ cut, cutBlockComment chars = some cut := by
  fun_induction cutBlockComment chars with
  | case1 => simp at marked
  | case2 rest => exact ⟨_, rfl⟩
  | case3 c rest goesOn ih =>
      rcases List.infix_cons_iff.mp marked with ⟨tail, front⟩ | later
      · cases front
        exact absurd rfl (goesOn tail rfl)
      · obtain ⟨cut, found⟩ := ih later
        exact ⟨cut.cons c, by simp [found]⟩

theorem marked_comment_cut {content : String} {tokens : List Token}
    (plain : '\r' ∉ content.toList) (marked : ['*', '/'] <:+: content.toList)
    (read : tokenise (Token.source { kind := .comment, content }) = .ok tokens) :
    ∃ front more, front.length < content.toList.length ∧
      tokens = tokenOf .comment front :: more := by
  -- A mark of the end inside the content ends the comment there, so that less than the content is
  -- read as the first token.
  obtain ⟨cut, found⟩ := cutBlockComment_marked marked
  have shorter : cut.taken.length < content.toList.length := by
    rw [← cutBlockComment_append found]
    simp
  have written := source_comment content
  have plainSource : '\r' ∉ (Token.source { kind := .comment, content }).toList := by
    simp [written, plain]
  rw [tokenise_eq_ok_iff_read, characters_plain plainSource, written, root_idle,
    read_blockComment_start, cutBlockComment_before found] at read
  have held : (({} : Levels).collect [tokenOf .comment cut.taken]).idle =
      Recognizer.root.behind [tokenOf .comment cut.taken] := rfl
  have rest : (Recognizer.root.behind [tokenOf .comment cut.taken]).read none
      (cut.rest ++ ['*', '/']) = .ok tokens := by
    rw [← held]
    simpa [Levels.behindComment, tokenOf] using read
  rw [read_behind root_isRoot] at rest
  cases result : Recognizer.root.read none (cut.rest ++ ['*', '/']) with
  | error cause => simp [result, Except.map] at rest
  | ok more =>
      rw [result] at rest
      exact ⟨cut.taken, more, shorter, by simpa [Except.map, eq_comm] using rest⟩

theorem marked_comment_not_reread {content : String} (plain : '\r' ∉ content.toList)
    (marked : ['*', '/'] <:+: content.toList) :
    tokenise (Token.source { kind := .comment, content }) ≠ .ok [{ kind := .comment, content }] := by
  intro read
  obtain ⟨front, more, shorter, same⟩ := marked_comment_cut plain marked read
  have whole : content = String.ofList front := congrArg Token.content (List.cons.inj same).1
  rw [whole, String.toList_ofList] at shorter
  exact Nat.lt_irrefl _ shorter

end Comments

theorem Shaped.comment_plain {token : Token} (shaped : Shaped token)
    (comment : token.kind = .comment) :
    ∃ content, token = { kind := .comment, content } ∧ '\r' ∉ content.toList := by
  cases shaped with
  | single spells =>
      have counts := spells.counts
      simp [Token.isComment, comment] at counts
  | comment plain => exact ⟨_, rfl, plain⟩
  | blockStart | blockEnd | array => cases comment

/-- A token is read again from its own source, unless it is a comment that holds the mark by which
comments end. -/
theorem tokenise_source_iff {text : String} {tokens : List Token} {token : Token}
    (read : tokenise text = .ok tokens) (member : token ∈ tokens) (noMark : token.kind ≠ .block) :
    tokenise token.source = .ok [token] ↔
      (token.kind = .comment → ¬ ['*', '/'] <:+: token.content.toList) := by
  have shaped := tokenise_shaped read token member
  constructor
  · intro again comment marked
    obtain ⟨content, rfl, plain⟩ := shaped.comment_plain comment
    exact marked_comment_not_reread plain marked again
  · intro closable
    exact (shaped.adds noMark closable).tokenise_eq

theorem tokenise_starred_comment :
    tokenise tangled = .ok tangledTokens ∧ tokenise "/* ***/" = .ok [⟨.comment, " **", []⟩] := by
  have read : tokenise tangled = .ok tangledTokens := rfl
  have member : (⟨.comment, " **", []⟩ : Token) ∈ tangledTokens := by decide
  have written : Token.source ⟨.comment, " **", []⟩ = "/* ***/" := by decide +kernel
  have again := (tokenise_source_iff read member (by decide)).mpr (by decide)
  rw [written] at again
  exact ⟨read, again⟩

/-- As a comment to the end of its line it may hold the mark, but it is written as the other kind.
-/
theorem marked_comment_refused :
    tokenise "-- */" = .ok [⟨.comment, " */", []⟩] ∧
      Token.source ⟨.comment, " */", []⟩ = "/* */*/" ∧
      tokenise "/* */*/" = .error ⟨.loneCommentMark '/', ⟨1, 8⟩⟩ :=
  ⟨rfl, by decide +kernel, rfl⟩

end DocQuery.Lexing
