import TreeCodec.Text.Unseen

/-!
Text in quotation marks, as messages show it: every character that would not
be seen, or that could be taken for part of the notation, is written as an
escape.
-/

namespace TreeCodec.Text

def hexText (n : Nat) : List Char :=
  Nat.toDigits 16 n

/-- How a character is written between the quotation marks. -/
def escaped (c : Char) : List Char :=
  if c = '\x00' then ['\\', '0']
  else if c = '\t' then ['\\', 't']
  else if c = '\r' then ['\\', 'r']
  else if c = '\n' then ['\\', 'n']
  else if c = '"' then ['\\', '"']
  else if c = '\\' then ['\\', '\\']
  else if isUnseen c then
    ['\\', 'u', '\x7b'] ++ hexText c.toNat ++ ['\x7d']
  else [c]

def quoted (text : List Char) : List Char :=
  '"' :: (text.flatMap escaped ++ ['"'])

end TreeCodec.Text
