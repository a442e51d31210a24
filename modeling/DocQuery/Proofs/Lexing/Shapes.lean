import DocQuery.Proofs.Lexing.Writing

/-!
The tokens that a text can make. What holds of the tokens of every open region, and is kept when
one of them is closed, holds of the tokens of the whole text (`Kept.nest?`). So each token of a text
is one that its own source spells, a comment, a mark of a block, or an array of such tokens
(`tokenise_shaped`).
-/

namespace DocQuery.Lexing

open DocQuery.Text

section Regions

variable {P : List Token → Prop} {pieces : List Piece}

/-- A property of the tokens of a region that no step of the second pass breaks. -/
structure Kept (P : List Token → Prop) (pieces : List Piece) : Prop where
  empty : P []
  token : ∀ {tokens token}, .token token ∈ pieces → P tokens → P (tokens ++ [token])
  closing : ∀ {level : Level} {tokens parent}, level.close? = some tokens → P level.tokens → P parent →
    P (parent ++ tokens)

def Levels.Each (levels : Levels) (P : List Token → Prop) : Prop :=
  P levels.current.tokens ∧ ∀ level ∈ levels.outer, P level.tokens

theorem Kept.meet (kept : Kept P pieces) {levels next : Levels} {piece : Piece}
    (member : piece ∈ pieces) (each : levels.Each P) (met : levels.meet piece = some next) :
    next.Each P := by
  obtain ⟨current, outer⟩ := each
  cases piece with
  | token held =>
      cases met
      exact ⟨kept.token member current, outer⟩
  | comma =>
      cases met
      exact ⟨current, outer⟩
  | opening =>
      cases met
      refine ⟨kept.empty, ?_⟩
      intro level inside
      rcases List.mem_cons.mp inside with rfl | inside
      · exact current
      · exact outer level inside
  | closing =>
      obtain ⟨parent, rest, tokens, shape, closed, rfl⟩ := Levels.meet_closing met
      rw [shape] at outer
      refine ⟨?_, fun level inside => outer level (List.mem_cons_of_mem _ inside)⟩
      exact kept.closing closed current (outer parent List.mem_cons_self)

theorem Kept.run (kept : Kept P pieces) {levels : Levels} {rest : List Piece}
    {tokens : List Token} (among : ∀ piece ∈ rest, piece ∈ pieces) (each : levels.Each P)
    (nested : levels.nest? rest = some tokens) : P tokens := by
  induction rest generalizing levels with
  | nil =>
      obtain ⟨-, rfl⟩ := Levels.nest?_nil nested
      exact each.1
  | cons piece rest ih =>
      obtain ⟨next, met, nested⟩ := Option.bind_eq_some_iff.mp nested
      have keeps := kept.meet (among piece List.mem_cons_self) each met
      exact ih (fun piece inside => among piece (List.mem_cons_of_mem _ inside)) keeps nested

/-- What no step breaks holds of the tokens of every text. -/
theorem Kept.nest? (kept : Kept P pieces) {tokens : List Token}
    (nested : ({} : Levels).nest? pieces = some tokens) : P tokens := by
  apply kept.run (fun piece member => member) _ nested
  exact ⟨kept.empty, by simp⟩

end Regions

section Cuts

theorem cutName_alone {depth : Nat} {chars : List Char} {cut : Cut}
    (found : cutName depth chars = some cut) :
    cutName depth cut.taken = some ⟨cut.taken, []⟩ := by
  fun_induction cutName depth chars generalizing cut with
  | case1 => cases found; rfl
  | case2 => cases found
  | case3 rest ih | case5 c rest _ _ _ ih | case8 depth rest _ ih | case9 depth rest _ _ ih
  | case10 depth c rest _ _ _ ih =>
      obtain ⟨inner, foundInner, rfl⟩ := Option.map_eq_some_iff.mp found
      simp_all [cutName, Cut.cons]
  | case4 => cases found
  | case6 => cases found; rfl
  | case7 => cases found

theorem cutWhile_all {test : Char → Bool} {chars : List Char} (all : ∀ c ∈ chars, test c = true)
    (rest : List Char) :
    cutWhile test (chars ++ rest) =
      ⟨chars ++ (cutWhile test rest).taken, (cutWhile test rest).rest⟩ := by
  simp [cutWhile, List.takeWhile_append_of_pos all, List.dropWhile_append_of_pos all]

theorem cutWhile_exact {test : Char → Bool} {chars rest : List Char}
    (all : ∀ c ∈ chars, test c = true) (outside : ∀ c ∈ rest.head?, test c = false) :
    cutWhile test (chars ++ rest) = ⟨chars, rest⟩ := by
  have alone := cutWhile_all all []
  rw [List.append_nil] at alone
  rw [cutWhile_stops outside, alone]
  simp [cutWhile]

theorem cutWhile_taken (test : Char → Bool) (chars : List Char) :
    ∀ c ∈ (cutWhile test chars).taken, test c = true :=
  List.all_eq_true.mp List.all_takeWhile

theorem cutWhile_alone (test : Char → Bool) (chars : List Char) :
    cutWhile test (cutWhile test chars).taken = ⟨(cutWhile test chars).taken, []⟩ := by
  have whole := cutWhile_all (cutWhile_taken test chars) []
  simpa [cutWhile] using whole

theorem cutNumber_alone {chars : List Char} {cut : Cut} (found : cutNumber chars = some cut) :
    cutNumber cut.taken = some ⟨cut.taken, []⟩ := by
  simp only [cutNumber] at found
  split at found
  next behind shape =>
    split at found
    · cases found
    · cases found
      have point : ∀ fraction, cutWhile Char.isDigit ('.' :: fraction) = ⟨[], '.' :: fraction⟩ :=
        fun fraction => rfl
      simp [cutNumber, cutWhile_all (cutWhile_taken Char.isDigit chars), point, cutWhile_alone]
  next =>
    cases found
    simp [cutNumber, cutWhile_alone]

theorem spells_digits {digits : List Char} (nonempty : digits ≠ [])
    (isDigits : ∀ c ∈ digits, c.isDigit = true) :
    Spells digits { kind := .number, content := .ofList digits } := by
  obtain ⟨first, rest, rfl⟩ := List.exists_cons_of_ne_nil nonempty
  have digit := isDigits first List.mem_cons_self
  have solid : isBlank first = false :=
    all_outside (by decide) first (mem_digits_of_isDigit digit)
  have taken : cutWhile Char.isDigit (first :: rest) = ⟨first :: rest, []⟩ := by
    simpa [cutWhile] using cutWhile_all isDigits []
  have whole : cutNumber (first :: rest) = some ⟨first :: rest, []⟩ := by
    simp only [cutNumber, taken]
  refine ⟨fun member => absurd (isDigits _ member) (by decide), ?_, rfl⟩
  rw [pieces?_solid solid (Leads.number digit whole).cut]
  simp [pieces?, tokenOf]

theorem cutQuoted_mem {quote : Char} {chars : List Char} {cut : Cut}
    (found : cutQuoted quote chars = some cut) {c : Char} (member : c ∈ cut.taken) :
    c ∈ chars ∧ (c = quote ∨ c ≠ '\n') := by
  fun_induction cutQuoted quote chars generalizing cut with
  | case1 => cases found
  | case2 => cases found; cases member
  | case3 => cases found
  | case4 rest ih =>
      obtain ⟨inner, foundInner, rfl⟩ := Option.map_eq_some_iff.mp found
      rcases List.mem_cons.mp member with rfl | member
      · exact ⟨List.mem_cons_self, .inl rfl⟩
      · have inside := ih foundInner member
        exact ⟨List.mem_cons_of_mem _ (List.mem_cons_of_mem _ inside.1), inside.2⟩
  | case5 => cases found; cases member
  | case6 => cases found
  | case7 d e rest other inLine ih =>
      obtain ⟨inner, foundInner, rfl⟩ := Option.map_eq_some_iff.mp found
      rcases List.mem_cons.mp member with rfl | member
      · exact ⟨List.mem_cons_self, .inr inLine⟩
      · have inside := ih foundInner member
        exact ⟨List.mem_cons_of_mem _ inside.1, inside.2⟩

end Cuts

section Shapes

/-- What a token of a text can be. A token of one lexeme is spelled by its source. -/
inductive Shaped : Token → Prop where
  | single {token : Token} (spells : Spells token.source.toList token) : Shaped token
  | comment {content : String} (plain : '\r' ∉ content.toList) :
      Shaped { kind := .comment, content }
  | blockStart : Shaped .blockStart
  | blockEnd : Shaped .blockEnd
  | array {elements : List Token} (nonempty : elements ≠ [])
      (spelled : ∀ element ∈ elements, Spells element.source.toList element)
      (alone : elements.length = 1 → ∀ element ∈ elements, element.isLiteral = true) :
      Shaped (.ofElements elements)

theorem Shaped.spells {token : Token} (shaped : Shaped token) (unnested : token.isNested = false)
    (counts : token.isComment = false) : Spells token.source.toList token := by
  cases shaped with
  | single spells => exact spells
  | comment => cases counts
  | blockStart | blockEnd | array => cases unnested

/-- A lexeme ends where its characters end, with or without others behind it. -/
theorem Leads.alone {c : Char} {rest behind : List Char} {token : Token}
    (leads : Leads c rest (.token token) behind) (bare : isBare token.kind = true) :
    ∃ more, token.content.toList = c :: more ∧ Leads c more (.token token) [] := by
  cases leads with
  | text | lineComment | blockComment => cases bare
  | name start found => exact ⟨_, by simp [nameToken], .name start (cutName_alone found)⟩
  | number digit found =>
      obtain ⟨more, shape, -⟩ := cutNumber_digit digit found
      have alone := cutNumber_alone found
      rw [shape] at alone
      exact ⟨more, by simp [tokenOf, shape], by simpa [shape] using Leads.number digit alone⟩
  | @negative d tail cut digit found =>
      obtain ⟨more, shape, -⟩ := cutNumber_digit digit found
      have alone := cutNumber_alone found
      rw [shape] at alone
      exact ⟨d :: more, by simp [tokenOf, shape], by simpa [shape] using Leads.negative digit alone⟩
  | symbol rest start =>
      have leads := Leads.symbol (cutWhile inSymbol rest).taken start
      rw [cutWhile_alone] at leads
      exact ⟨_, by simp [tokenOf], leads⟩

theorem nameToken_isBare (chars : List Char) : isBare (nameToken chars).kind = true := by
  unfold nameToken
  split <;> rfl

theorem Leads.mem_of_content {c d : Char} {rest behind : List Char} {token : Token}
    (leads : Leads c rest (.token token) behind) (member : d ∈ token.content.toList) :
    d ∈ c :: rest := by
  have bareMember : isBare token.kind = true → d ∈ c :: rest := by
    intro bare
    rw [← leads.written bare]
    exact List.mem_append_left _ member
  cases leads with
  | text mark found =>
      have inside := cutQuoted_mem found (by simpa [tokenOf] using member)
      exact List.mem_cons_of_mem _ inside.1
  | name => exact bareMember (nameToken_isBare _)
  | number | negative | symbol => exact bareMember rfl
  | lineComment tail mark =>
      have inside : d ∈ tail :=
        (List.takeWhile_sublist _).subset (by simpa [tokenOf, cutWhile] using member)
      exact List.mem_cons_of_mem _ (List.mem_cons_of_mem _ inside)
  | @blockComment tail cut found =>
      have inside : d ∈ tail := by
        rw [← cutBlockComment_append found]
        exact List.mem_append_left _ (by simpa [tokenOf] using member)
      exact List.mem_cons_of_mem _ (List.mem_cons_of_mem _ inside)

theorem Leads.line_of_text {c : Char} {rest behind : List Char} {token : Token}
    (leads : Leads c rest (.token token) behind) (text : token.kind = .text) :
    '\n' ∉ token.content.toList := by
  cases leads with
  | text mark found =>
      intro member
      rcases (cutQuoted_mem found (by simpa [tokenOf] using member)).2 with same | other
      · rcases mark with rfl | rfl <;> cases same
      · exact other rfl
  | name =>
      simp only [nameToken] at text
      split at text <;> cases text
  | number | negative | symbol | lineComment | blockComment => cases text

/-- The token that a text leads with has the shape of its kind. -/
theorem Leads.shaped {c : Char} {rest behind : List Char} {token : Token}
    (leads : Leads c rest (.token token) behind) (solid : isBlank c = false)
    (plain : '\r' ∉ c :: rest) : Shaped token := by
  have plainContent : '\r' ∉ token.content.toList :=
    fun member => plain (leads.mem_of_content member)
  by_cases bare : isBare token.kind = true
  · obtain ⟨more, shape, alone⟩ := leads.alone bare
    refine .single ⟨?_, ?_, ?_⟩
    · rw [source_bare bare]
      exact plainContent
    · rw [source_bare bare, shape, pieces?_solid solid alone.cut]
      simp [pieces?]
    · cases kind : token.kind <;> simp_all [isBare, Token.isComment]
  · have line := leads.line_of_text
    cases leads with
    | text => exact .single (spells_text (line rfl) plainContent)
    | name => exact absurd (nameToken_isBare _) bare
    | number | negative | symbol => exact absurd rfl bare
    | lineComment | blockComment => exact .comment plainContent

theorem values_spelled {tokens : List Token} (shaped : ∀ token ∈ tokens, Shaped token)
    (unnested : ∀ token ∈ tokens, token.isNested = false) :
    ∀ value ∈ tokens.filter (!·.isComment), Spells value.source.toList value := by
  intro value member
  obtain ⟨inside, counts⟩ := List.mem_filter.mp member
  exact (shaped value inside).spells (unnested value inside) (by simpa using counts)

theorem close?_shaped {level : Level} {tokens : List Token} (closed : level.close? = some tokens)
    (shaped : ∀ token ∈ level.tokens, Shaped token) : ∀ token ∈ tokens, Shaped token := by
  cases Level.close?_eq_some_iff.mp closed with
  | empty => simpa using Shaped.blockStart
  | literals _ something literals =>
      obtain ⟨same, unnested⟩ := literals_unnested literals
      have spelled := values_spelled shaped (by simpa using unnested)
      rw [same] at spelled
      rw [List.forall_mem_singleton]
      exact .array something spelled fun _ => List.all_eq_true.mp literals
  | block =>
      intro token member
      simp only [List.cons_append, List.mem_cons, List.mem_append, List.not_mem_nil,
        or_false] at member
      rcases member with rfl | inside | rfl
      · exact .blockStart
      · exact shaped token inside
      · exact .blockEnd
  | values _ unnested count =>
      rw [List.forall_mem_singleton]
      refine .array ?_ (values_spelled shaped unnested) ?_
      · rw [← List.length_pos_iff]
        omega
      · intro single
        omega

theorem piece_shaped {text : String} {pieces : List Piece} {token : Token}
    (found : pieces? (characters text) = some pieces) (member : .token token ∈ pieces) :
    Shaped token ∧ token.isNested = false := by
  have plain : '\r' ∉ characters text := by simp [characters]
  obtain ⟨before, c, rest, behind, shape, solid, cut⟩ := piece_origin found member
  rw [shape] at plain
  have leads := cutPiece_leads cut
  exact ⟨leads.shaped solid fun inside => plain (List.mem_append_right _ inside), leads.unnested⟩

theorem kept_shaped {text : String} {pieces : List Piece}
    (found : pieces? (characters text) = some pieces) :
    Kept (fun tokens => ∀ token ∈ tokens, Shaped token) pieces := by
  constructor
  · simp
  · intro tokens token member shaped
    rw [List.forall_mem_append, List.forall_mem_singleton]
    exact ⟨shaped, (piece_shaped found member).1⟩
  · intro level tokens parent closed shaped shapedParent
    rw [List.forall_mem_append]
    exact ⟨shapedParent, close?_shaped closed shaped⟩

/-- Every token of a text has one of the shapes. -/
theorem tokenise_shaped {text : String} {tokens : List Token} (read : tokenise text = .ok tokens) :
    ∀ token ∈ tokens, Shaped token := by
  obtain ⟨pieces, found, -, nested⟩ := pieces_of_tokenise read
  exact (kept_shaped found).nest? nested

end Shapes

end DocQuery.Lexing
