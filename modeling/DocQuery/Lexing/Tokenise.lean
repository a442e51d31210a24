import DocQuery.Lexing.Region

/-!
Query text to tokens. The root region reads the characters one by one; carriage returns are no
part of the text.
-/

namespace DocQuery

namespace Lexing

structure Reader where
  root : Recognizer := .root
  around : Surroundings := {}

def Reader.step (reader : Reader) (c : Char) : Except Failure Reader :=
  let answer := reader.root.accept c reader.around
  match answer.verdict with
  | .refused failure => .error failure
  | .taken | .done => .ok ⟨answer.left, answer.around.advance c⟩

def Reader.finish (reader : Reader) : Except Failure (List Token) :=
  (reader.root.drain reader.around).result

def characters (text : String) : List Char := text.toList.filter (· != '\r')

end Lexing

open Lexing in
def tokenise (text : String) : Except Failure (List Token) := do
  let reader ← (characters text).foldlM Reader.step {}
  reader.finish

end DocQuery
