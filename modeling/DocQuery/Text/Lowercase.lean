import DocQuery.Text.Casing

/-!
Lower-casing of a text. It is not a map on characters: U+0130 becomes two characters, and a
capital sigma becomes the final sigma exactly at the end of a word.
-/

namespace DocQuery.Text

def lowerChar (c : Char) : List Char :=
  if c.toNat < 0x80 then [c.toLower]
  else if c = '\u0130' then ['i', '\u0307']
  else match caseRuns.find? (·.covers c.toNat) with
    | some run => [run.target c.toNat]
    | none => [c]

def meetsCased (chars : List Char) : Bool :=
  (chars.dropWhile isCaseIgnorable).head?.any isCased

/-- A sigma ends a word when a cased character stands before it and none after it. The
characters before it are given latest first. -/
def endsWord (before after : List Char) : Bool :=
  meetsCased before && !meetsCased after

def lowerAfter (before : List Char) : List Char → List Char
  | [] => []
  | c :: rest =>
      (if c = '\u03A3' then [if endsWord before rest then '\u03C2' else '\u03C3'] else lowerChar c)
        ++ lowerAfter (c :: before) rest

def lowercase (text : String) : String :=
  String.ofList (lowerAfter [] text.toList)

end DocQuery.Text
