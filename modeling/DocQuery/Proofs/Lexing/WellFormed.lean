import DocQuery.Proofs.Lexing.Shapes

/-!
What the tokens of a text look like. Whatever the text, the content of each token is one that its
kind allows, arrays hold single values and nothing else does, and no block is closed before it is
opened (`tokenise_wellFormed`). Nothing that reads tokens has to ask for any of this again.
-/

namespace DocQuery.Lexing

open DocQuery.Text

/-- Up to each place there are at most as many closing items as opening ones. -/
def NeverOverclosed {α : Type} [DecidableEq α] (opening closing : α) (items : List α) : Prop :=
  ∀ n, (items.take n).count closing ≤ (items.take n).count opening

def IsUnsigned (chars : List Char) : Prop :=
  ∃ whole fraction, chars = whole ++ fraction ∧ whole ≠ [] ∧ (∀ c ∈ whole, c.isDigit = true) ∧
    (fraction = [] ∨ ∃ digits, fraction = '.' :: digits ∧ ∀ c ∈ digits, c.isDigit = true)

def IsNumeral (chars : List Char) : Prop :=
  IsUnsigned chars ∨ ∃ rest, chars = '-' :: rest ∧ IsUnsigned rest

structure IsIdentifier (content : String) : Prop where
  start : ∃ c rest, content.toList = c :: rest ∧ isWordStart c = true
  line : '\n' ∉ content.toList
  brackets : NeverOverclosed '[' ']' content.toList
  closed : content.toList.count '[' = content.toList.count ']'
  noOperator : content ≠ "is" ∧ content ≠ "not"

def Fits : TokenKind → String → Prop
  | .text, content => '\n' ∉ content.toList ∧ '\r' ∉ content.toList
  | .number, content => IsNumeral content.toList
  | .query, content => IsIdentifier content
  | .operator, content =>
      content = "is" ∨ content = "not" ∨
        content ≠ "" ∧ ∀ c ∈ content.toList, c ∈ ['=', '<', '>', '!']
  | .block, content => content = "start" ∨ content = "end"
  | .comment, _ | .array, _ | .delimiter, _ => True

structure IsElement (token : Token) : Prop where
  kind : token.kind ∈ [.text, .number, .query, .operator]
  single : token.elements = []
  fits : Fits token.kind token.content

structure WellFormed (token : Token) : Prop where
  noComma : token.kind ≠ .delimiter
  elements : token.elements ≠ [] ↔ token.kind = .array
  fits : Fits token.kind token.content
  array : token.kind = .array → token = .ofElements token.elements ∧
    (∀ element ∈ token.elements, IsElement element) ∧
    (token.elements.length = 1 →
      ∀ element ∈ token.elements, element.kind = .text ∨ element.kind = .number)

section Contents

theorem cutNumber_unsigned {c : Char} {rest : List Char} {cut : Cut} (digit : c.isDigit = true)
    (found : cutNumber (c :: rest) = some cut) : IsUnsigned cut.taken := by
  have whole : (cutWhile Char.isDigit (c :: rest)).taken ≠ [] := by
    simp [cutWhile, List.takeWhile_cons_of_pos digit]
  have digits := cutWhile_taken Char.isDigit (c :: rest)
  simp only [cutNumber] at found
  split at found
  next behind _ =>
    split at found
    · cases found
    · cases found
      exact ⟨_, _, rfl, whole, digits, .inr ⟨_, rfl, cutWhile_taken Char.isDigit behind⟩⟩
  next =>
    cases found
    exact ⟨_, [], (List.append_nil _).symm, whole, digits, .inl rfl⟩

theorem cutName_line {depth : Nat} {chars : List Char} {cut : Cut}
    (found : cutName depth chars = some cut) : '\n' ∉ cut.taken := by
  have outside : continuesName '\n' = false := by decide
  fun_induction cutName depth chars generalizing cut with
  | case1 | case6 => cases found; simp
  | case2 | case4 | case7 => cases found
  | case3 rest ih | case8 depth rest _ ih =>
      obtain ⟨inner, foundInner, rfl⟩ := Option.map_eq_some_iff.mp found
      simpa [Cut.cons] using ih foundInner
  | case5 c rest _ _ continues ih =>
      obtain ⟨inner, foundInner, rfl⟩ := Option.map_eq_some_iff.mp found
      have other : '\n' ≠ c := by
        rintro rfl
        simp [outside] at continues
      simpa [Cut.cons, other] using ih foundInner
  | case9 depth rest _ _ ih =>
      obtain ⟨inner, foundInner, rfl⟩ := Option.map_eq_some_iff.mp found
      simpa [Cut.cons] using ih foundInner
  | case10 depth c rest other _ _ ih =>
      obtain ⟨inner, foundInner, rfl⟩ := Option.map_eq_some_iff.mp found
      simpa [Cut.cons, Ne.symm other] using ih foundInner

/-- With the given number of brackets open in front, no more are closed than are open, and in the
end all of them are. -/
def ClosesBrackets (depth : Nat) (chars : List Char) : Prop :=
  (∀ n, (chars.take n).count ']' ≤ depth + (chars.take n).count '[') ∧
    chars.count ']' = depth + chars.count '['

theorem ClosesBrackets.cons {depth inner : Nat} {c : Char} {rest : List Char}
    (closes : ClosesBrackets inner rest)
    (step : depth + [c].count '[' = inner + [c].count ']') : ClosesBrackets depth (c :: rest) := by
  obtain ⟨places, whole⟩ := closes
  have front : ∀ d chars, List.count d (c :: chars) = List.count d [c] + List.count d chars := by
    intro d chars
    rw [← List.count_append, List.singleton_append]
  constructor
  · intro n
    cases n with
    | zero => simp
    | succ n =>
        have place := places n
        rw [List.take_succ_cons, front ']', front '[']
        omega
  · rw [front ']', front '[']
    omega

theorem cutName_brackets {depth : Nat} {chars : List Char} {cut : Cut}
    (found : cutName depth chars = some cut) : ClosesBrackets depth cut.taken := by
  fun_induction cutName depth chars generalizing cut with
  | case1 | case6 => cases found; exact ⟨fun n => by simp, rfl⟩
  | case2 | case4 | case7 => cases found
  | case3 rest ih | case8 depth rest _ ih | case9 depth rest _ _ ih =>
      obtain ⟨inner, foundInner, rfl⟩ := Option.map_eq_some_iff.mp found
      exact (ih foundInner).cons rfl
  | case5 c rest noOpening noClosing _ ih | case10 depth c rest _ noOpening noClosing ih =>
      obtain ⟨inner, foundInner, rfl⟩ := Option.map_eq_some_iff.mp found
      exact (ih foundInner).cons (by simp [noOpening, noClosing])

theorem nameToken_isIdentifier {c : Char} {rest : List Char} {cut : Cut}
    (start : startsName c = true) (found : cutName 0 rest = some cut)
    (noOperator : (nameToken (c :: cut.taken)).kind = .query) :
    IsIdentifier (nameToken (c :: cut.taken)).content := by
  rw [startsName_eq] at start
  have noBracket : c ≠ '[' ∧ c ≠ ']' ∧ '\n' ≠ c :=
    ⟨ne_of_isWordStart start (by decide), ne_of_isWordStart start (by decide),
      (ne_of_isWordStart start (by decide)).symm⟩
  obtain ⟨places, whole⟩ : ClosesBrackets 0 (c :: cut.taken) :=
    (cutName_brackets found).cons (by simp [noBracket])
  constructor
  · exact ⟨c, cut.taken, by simp [nameToken], start⟩
  · simp [nameToken, noBracket, cutName_line found]
  · simpa [NeverOverclosed, nameToken] using places
  · simpa [nameToken, eq_comm] using whole
  · simpa [nameToken] using noOperator

theorem nameToken_fits {c : Char} {rest : List Char} {cut : Cut} (start : startsName c = true)
    (found : cutName 0 rest = some cut) :
    Fits (nameToken (c :: cut.taken)).kind (nameToken (c :: cut.taken)).content := by
  by_cases operator : String.ofList (c :: cut.taken) = "is" ∨ String.ofList (c :: cut.taken) = "not"
  · have kind : (nameToken (c :: cut.taken)).kind = .operator := if_pos operator
    rw [kind]
    rcases operator with word | word
    · exact .inl word
    · exact .inr (.inl word)
  · have kind : (nameToken (c :: cut.taken)).kind = .query := if_neg operator
    rw [kind]
    exact nameToken_isIdentifier start found kind

theorem mem_of_isBare {kind : TokenKind} (bare : isBare kind = true) :
    kind ∈ [TokenKind.text, .number, .query, .operator] := by
  cases kind with
  | query | number | operator => decide
  | text | block | comment | array | delimiter => cases bare

theorem Leads.isElement {c : Char} {rest behind : List Char} {token : Token}
    (leads : Leads c rest (.token token) behind) (plain : '\r' ∉ c :: rest)
    (counts : token.isComment = false) : IsElement token := by
  have line := leads.line_of_text
  have content : '\r' ∉ token.content.toList := fun member => plain (leads.mem_of_content member)
  cases leads with
  | text => exact ⟨by simp [tokenOf], rfl, line rfl, content⟩
  | name start found =>
      exact ⟨mem_of_isBare (nameToken_isBare _), rfl, nameToken_fits start found⟩
  | number digit found =>
      refine ⟨by simp [tokenOf], rfl, .inl ?_⟩
      simpa [tokenOf] using cutNumber_unsigned digit found
  | @negative d tail cut digit found =>
      have unsigned := cutNumber_unsigned digit found
      exact ⟨by simp [tokenOf], rfl, .inr ⟨cut.taken, by simp [tokenOf], unsigned⟩⟩
  | @symbol c rest start =>
      refine ⟨by simp [tokenOf], rfl, .inr (.inr ⟨by simp [tokenOf], ?_⟩)⟩
      intro d member
      -- The run starts with a mark and goes on as long as there are marks.
      have marks : inSymbol d = true := by
        simp only [tokenOf, String.toList_ofList, List.mem_cons] at member
        rcases member with rfl | inside
        · exact start
        · exact cutWhile_taken inSymbol rest d inside
      simpa [inSymbol] using marks
  | lineComment | blockComment => cases counts

theorem Spells.isElement {chars : List Char} {token : Token} (spells : Spells chars token) :
    IsElement token := by
  obtain ⟨c, rest, behind, inside, leads⟩ := spells.leads
  exact leads.isElement (fun member => spells.plain (inside _ member)) spells.counts

theorem IsElement.wellFormed {token : Token} (element : IsElement token) : WellFormed token := by
  obtain ⟨kind, single, fits⟩ := element
  have noArray : token.kind ≠ .array ∧ token.kind ≠ .delimiter := by
    constructor <;> (intro same; simp [same] at kind)
  exact ⟨noArray.2, by simp [single, noArray.1], fits, fun array => absurd array noArray.1⟩

theorem Shaped.wellFormed {token : Token} (shaped : Shaped token) : WellFormed token := by
  cases shaped with
  | single spells => exact spells.isElement.wellFormed
  | comment => exact ⟨by simp, by simp, trivial, by simp⟩
  | blockStart => exact ⟨by decide, by simp [Token.blockStart], .inl rfl, by simp [Token.blockStart]⟩
  | blockEnd => exact ⟨by decide, by simp [Token.blockEnd], .inr rfl, by simp [Token.blockEnd]⟩
  | array nonempty spelled alone =>
      refine ⟨by simp [Token.ofElements], by simpa [Token.ofElements] using nonempty, trivial,
        fun _ => ⟨rfl, ?_, ?_⟩⟩
      · exact fun element member => (spelled element member).isElement
      · intro single element member
        simpa [Token.isLiteral] using alone single element member

end Contents

section Blocks

theorem NeverOverclosed.append {α : Type} [DecidableEq α] {opening closing : α}
    {first second : List α} (never : NeverOverclosed opening closing first)
    (never' : NeverOverclosed opening closing second) :
    NeverOverclosed opening closing (first ++ second) := by
  intro n
  have left := never n
  have right := never' (n - first.length)
  simp only [List.take_append, List.count_append]
  omega

theorem neverOverclosed_of_free {α : Type} [DecidableEq α] {opening closing : α} {items : List α}
    (free : closing ∉ items) : NeverOverclosed opening closing items := by
  intro n
  rw [List.count_eq_zero.mpr fun member => free (List.mem_of_mem_take member)]
  exact Nat.zero_le _

theorem NeverOverclosed.enclosed {α : Type} [DecidableEq α] {opening closing : α}
    (different : opening ≠ closing) {items : List α}
    (never : NeverOverclosed opening closing items) :
    NeverOverclosed opening closing (opening :: items ++ [closing]) := by
  intro n
  cases n with
  | zero => simp
  | succ n =>
      have inside := never n
      have last : (([closing] : List α).take (n - items.length)).count closing ≤ 1 :=
        Nat.le_trans ((List.take_sublist _ _).count_le closing) (by simp)
      simp only [List.cons_append, List.take_succ_cons, List.take_append, List.count_cons,
        List.count_append, beq_self_eq_true, ↓reduceIte, beq_iff_eq, different]
      omega

theorem close?_neverOverclosed {level : Level} {tokens : List Token}
    (closed : level.close? = some tokens)
    (never : NeverOverclosed .blockStart .blockEnd level.tokens) :
    NeverOverclosed .blockStart .blockEnd tokens := by
  have array : ∀ elements, NeverOverclosed .blockStart .blockEnd [Token.ofElements elements] :=
    fun elements => neverOverclosed_of_free (by simp [Token.ofElements, Token.blockEnd])
  cases Level.close?_eq_some_iff.mp closed with
  | empty => exact neverOverclosed_of_free (by decide)
  | literals | values => exact array _
  | block => exact never.enclosed (by decide)

theorem tokenise_neverOverclosed {text : String} {tokens : List Token}
    (read : tokenise text = .ok tokens) : NeverOverclosed .blockStart .blockEnd tokens := by
  obtain ⟨pieces, found, -, nested⟩ := pieces_of_tokenise read
  have kept : Kept (NeverOverclosed .blockStart .blockEnd) pieces := by
    constructor
    · exact neverOverclosed_of_free (by simp)
    · intro tokens token member never
      have noEnd : token ≠ .blockEnd := by
        rintro rfl
        cases (piece_shaped found member).2
      exact never.append (neverOverclosed_of_free (by simpa using noEnd.symm))
    · intro level tokens parent closed never neverParent
      exact neverParent.append (close?_neverOverclosed closed never)
  exact kept.nest? nested

end Blocks

/-- What the tokens of a text look like, each by itself and the marks of blocks among them. -/
theorem tokenise_wellFormed {text : String} {tokens : List Token}
    (read : tokenise text = .ok tokens) :
    (∀ token ∈ tokens, WellFormed token) ∧ NeverOverclosed .blockStart .blockEnd tokens :=
  ⟨fun token member => (tokenise_shaped read token member).wellFormed,
    tokenise_neverOverclosed read⟩

def lopsided : String := "() (c[[0]] -7. (is, \"it's\"))"

def lopsidedTokens : List Token :=
  [.blockStart, .blockStart, ⟨.query, "c[[0]]", []⟩, ⟨.number, "-7.", []⟩,
    .ofElements [⟨.operator, "is", []⟩, ⟨.text, "it's", []⟩], .blockEnd]

theorem lopsided_wellFormed :
    tokenise lopsided = .ok lopsidedTokens ∧ (∀ token ∈ lopsidedTokens, WellFormed token) ∧
      NeverOverclosed .blockStart .blockEnd lopsidedTokens := by
  have read : tokenise lopsided = .ok lopsidedTokens := rfl
  exact ⟨read, tokenise_wellFormed read⟩

end DocQuery.Lexing
