import FreshIndex.Text.CaseIgnorable
import FreshIndex.Text.Cased
import FreshIndex.Text.LowerCase.Table

/-!
This module contains the full lower case of a text. Every character has a lower case of its own,
save the capital sigma: at the end of a word it becomes the final sigma `ς`, elsewhere `σ`. A sigma
ends a word if a cased character stands before it and none after it, case-ignorable characters
between them not counted.
-/

namespace FreshIndex.Text.LowerCase

/-- The lower case of `c` wherever it stands. The capital I with a dot keeps its dot. -/
def ofChar (c : Char) : List Char :=
  if c = 'İ' then
    ['i', Char.ofNat 0x307]
  else
    match runs.findSome? (Run.imageOf? · c.toNat) with
    | some code => [Char.ofNat code]
    | none => [c]

def meetsCased (cs : List Char) : Bool :=
  match cs.dropWhile isCaseIgnorable with
  | [] => false
  | c :: _ => isCased c

/-- The lower case of the characters `rest` that follow those of `before`, latest first. -/
def go (before : List Char) : (rest : List Char) → List Char
  | [] => []
  | c :: rest =>
    let image :=
      if c = 'Σ' then
        if meetsCased before && !meetsCased rest then ['ς'] else ['σ']
      else
        ofChar c
    image ++ go (c :: before) rest

end LowerCase

def lowerCase (s : String) : String :=
  String.ofList (LowerCase.go [] s.toList)

end FreshIndex.Text
