import TreeCodec.Text.LetterCase

/-!
Lower-case forms of text. Most letters have a lower-case letter of their own,
which lies at a fixed distance in each stretch of the alphabet tables. Two
letters need more: the capital I with a dot becomes two characters, and the
capital sigma has another form at the end of a word.
-/

namespace TreeCodec.Text

def lowerChar (c : Char) : Char :=
  match caseStretches.find? (·.contains c) with
  | some s => Char.ofNat (c.toNat + s.shift).toNat
  | none => c

/-- Whether a letter comes next, where characters that may stand within a word
do not count. -/
def letterFollows (text : List Char) : Bool :=
  (text.dropWhile isCaseIgnorable).head?.any isCased

/-- The lower-case form of the rest of a text, of which `passed`, last
character first, has been passed. A sigma ends a word if a letter stands before
it and none behind it. -/
def lowerFrom (passed : List Char) : List Char → List Char
  | [] => []
  | c :: rest =>
    let lowered :=
      if c = 'Σ' then
        if letterFollows passed && !letterFollows rest then ['ς'] else ['σ']
      else if c = 'İ' then ['i', '\u0307']
      else [lowerChar c]
    lowered ++ lowerFrom (c :: passed) rest

def lowerCase (text : List Char) : List Char :=
  lowerFrom [] text

end TreeCodec.Text
