import DocQuery.Json.Basic

/-!
JSON documents from text. The text is cut into marks, and the marks build the document on a stack
of open arrays and objects, whose height is limited.
-/

namespace DocQuery.Json

inductive Mark where
  | openArray
  | closeArray
  | openObject
  | closeObject
  | colon
  | comma
  | quoted (content : String)
  | scalar (item : Json)

namespace Mark

def isGap (c : Char) : Bool := c == ' ' || c == '\t' || c == '\n' || c == '\r'

def punctuation? : Char → Option Mark
  | '[' => some .openArray
  | ']' => some .closeArray
  | '\x7b' => some .openObject
  | '\x7d' => some .closeObject
  | ':' => some .colon
  | ',' => some .comma
  | _ => none

def hexDigit? (c : Char) : Option Nat :=
  if c.isDigit then some (c.toNat - '0'.toNat)
  else if 'a' ≤ c ∧ c ≤ 'f' then some (c.toNat - 'a'.toNat + 10)
  else if 'A' ≤ c ∧ c ≤ 'F' then some (c.toNat - 'A'.toNat + 10)
  else none

def unit? (a b c d : Char) : Option Nat := do
  let a ← hexDigit? a
  let b ← hexDigit? b
  let c ← hexDigit? c
  let d ← hexDigit? d
  some (((a * 16 + b) * 16 + c) * 16 + d)

def shortEscape? : Char → Option Char
  | '"' => some '"'
  | '\\' => some '\\'
  | '/' => some '/'
  | 'b' => some '\x08'
  | 'f' => some '\x0c'
  | 'n' => some '\n'
  | 'r' => some '\r'
  | 't' => some '\t'
  | _ => none

inductive Piece where
  | plain (c : Char)
  | unit (code : Nat)

def Piece.before (piece : Piece) (found : List Piece × List Char) : List Piece × List Char :=
  (piece :: found.1, found.2)

def pieces? : List Char → Option (List Piece × List Char)
  | [] => none
  | '"' :: rest => some ([], rest)
  | '\\' :: 'u' :: a :: b :: c :: d :: rest =>
      (unit? a b c d).bind fun code => (pieces? rest).map (Piece.unit code).before
  | '\\' :: c :: rest =>
      (shortEscape? c).bind fun escaped => (pieces? rest).map (Piece.plain escaped).before
  | c :: rest =>
      if c.toNat < 0x20 ∨ c = '\\' then none else (pieces? rest).map (Piece.plain c).before

def isHighHalf (code : Nat) : Bool := 0xD800 ≤ code && code < 0xDC00

def isLowHalf (code : Nat) : Bool := 0xDC00 ≤ code && code < 0xE000

/-- The characters of pieces. The two halves of a pair of units make one character; a half alone
makes none. -/
def join? : List Piece → Option (List Char)
  | [] => some []
  | .plain c :: rest => (join? rest).map (c :: ·)
  | .unit high :: .unit low :: rest =>
      if isHighHalf high && isLowHalf low then
        (join? rest).map (Char.ofNat (0x10000 + (high - 0xD800) * 0x400 + (low - 0xDC00)) :: ·)
      else if isHighHalf high || isLowHalf high then none
      else (join? (.unit low :: rest)).map (Char.ofNat high :: ·)
  | .unit code :: rest =>
      if isHighHalf code || isLowHalf code then none
      else (join? rest).map (Char.ofNat code :: ·)

def isBare (c : Char) : Bool := c.isAlphanum || c == '-' || c == '+' || c == '.'

def word? (chars : List Char) : Option Json :=
  match chars with
  | ['n', 'u', 'l', 'l'] => some .null
  | ['t', 'r', 'u', 'e'] => some (.bool true)
  | ['f', 'a', 'l', 's', 'e'] => some (.bool false)
  | chars => (Number.read? chars).map Json.number

theorem length_pieces? {chars : List Char} {found : List Piece × List Char}
    (read : pieces? chars = some found) : found.2.length < chars.length := by
  fun_induction pieces? chars generalizing found with
  | case1 => simp at read
  | case2 rest => cases read; simp
  | case3 a b c d rest ih =>
      obtain ⟨_, _, found', hit, rfl⟩ := by
        simpa only [Option.bind_eq_some_iff, Option.map_eq_some_iff] using read
      have := ih hit
      simp only [Piece.before, List.length_cons]
      omega
  | case4 c rest _ ih =>
      obtain ⟨_, _, found', hit, rfl⟩ := by
        simpa only [Option.bind_eq_some_iff, Option.map_eq_some_iff] using read
      have := ih hit
      simp only [Piece.before, List.length_cons]
      omega
  | case5 => simp at read
  | case6 c rest _ _ _ _ ih =>
      obtain ⟨found', hit, rfl⟩ := Option.map_eq_some_iff.1 read
      have := ih hit
      simp only [Piece.before, List.length_cons]
      omega

def scan? (chars : List Char) : Option (List Mark) :=
  match chars with
  | [] => some []
  | c :: rest =>
      if isGap c then scan? rest
      else if c = '"' then
        match _read : pieces? rest with
        | some (pieces, after) => do
            let content ← join? pieces
            (scan? after).map (.quoted (String.ofList content) :: ·)
        | none => none
      else match punctuation? c with
        | some mark => (scan? rest).map (mark :: ·)
        | none =>
            if isBare c then do
              let item ← word? (c :: rest.takeWhile isBare)
              (scan? (rest.dropWhile isBare)).map (.scalar item :: ·)
            else none
termination_by chars.length
decreasing_by
  · simp
  · have shorter := length_pieces? _read
    simp only [List.length_cons] at shorter ⊢
    omega
  · simp
  · have := (List.dropWhile_suffix (l := rest) isBare).length_le
    simp only [List.length_cons]
    omega

end Mark

/-- An array or object that is still open: the items before the one under way, latest first, or
the fields before the one under way and its key. -/
inductive Frame where
  | array (before : List Json)
  | object (before : List (String × Json)) (key : String)

/-- What the marks so far ask for, inside the open frames, innermost first. -/
inductive Stage where
  | value (outer : List Frame)
  | firstItem (outer : List Frame)
  | firstKey (outer : List Frame)
  | key (outer : List Frame) (before : List (String × Json))
  | colon (outer : List Frame) (before : List (String × Json)) (key : String)
  | complete (outer : List Frame) (value : Json)

namespace Stage

def start? (limit : Nat) (outer : List Frame) : Mark → Option Stage
  | .openArray => if outer.length < limit then some (.firstItem outer) else none
  | .openObject => if outer.length < limit then some (.firstKey outer) else none
  | .quoted content => some (.complete outer (.text content))
  | .scalar item => some (.complete outer item)
  | _ => none

def step? (limit : Nat) : Stage → Mark → Option Stage
  | .value outer, mark => start? limit outer mark
  | .firstItem outer, .closeArray => some (.complete outer (.array []))
  | .firstItem outer, mark => start? limit (.array [] :: outer) mark
  | .firstKey outer, .closeObject => some (.complete outer (.object []))
  | .firstKey outer, .quoted name => some (.colon outer [] name)
  | .key outer before, .quoted name => some (.colon outer before name)
  | .colon outer before name, .colon => some (.value (.object before name :: outer))
  | .complete (.array before :: outer) item, .comma =>
      some (.value (.array (item :: before) :: outer))
  | .complete (.array before :: outer) item, .closeArray =>
      some (.complete outer (.array (item :: before).reverse))
  | .complete (.object before name :: outer) item, .comma =>
      some (.key outer (insertField name item before))
  | .complete (.object before name :: outer) item, .closeObject =>
      some (.complete outer (.object (insertField name item before)))
  | _, _ => none

def result? : Stage → Option Json
  | .complete [] item => some item
  | _ => none

end Stage

def nestingLimit : Nat := 127

def readWithin? (limit : Nat) (text : String) : Option Json := do
  let marks ← Mark.scan? text.toList
  let stage ← marks.foldlM (Stage.step? limit) (.value [])
  stage.result?

def read? (text : String) : Option Json := readWithin? nestingLimit text

end DocQuery.Json
