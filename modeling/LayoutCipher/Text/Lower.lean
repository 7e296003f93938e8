import LayoutCipher.Unicode.CaseTables

/-!
# Lower case

The lower case of a text by the full mapping: one character may become two, and a sigma at the
end of a word becomes a final sigma.
-/

namespace LayoutCipher.Text

open Unicode

def lowerChar (c : Char) : List Char :=
  if c = 'İ' then ['i', '\u0307']
  else
    match lowerCaseRuns.find? (·.contains c.toNat) with
    | some run => [Char.ofNat (c.toNat + run.shift).toNat]
    | none => [c]

/-- Whether the nearest character that counts for case has one. -/
def nextIsCased (neighbours : List Char) : Bool :=
  (neighbours.dropWhile isCaseIgnorable).head?.any isCased

/-- The lower case of what follows, where `before` holds what was passed, last first. -/
def lowerAfter (before : List Char) : List Char → List Char
  | [] => []
  | c :: rest =>
      let lowered :=
        if c = 'Σ' then
          if nextIsCased before && !nextIsCased rest then ['ς'] else ['σ']
        else lowerChar c
      lowered ++ lowerAfter (c :: before) rest

def lower (text : String) : String :=
  String.ofList (lowerAfter [] text.toList)

end LayoutCipher.Text
