import JsonSql.Text.HiddenTable

/-!
# Texts shown in messages

A text inside a message stands between double quotes.  Quotes, backslashes and
line ends are escaped by a letter, characters without a glyph of their own by
their number, and all others are shown as they are.
-/

namespace JsonSql.Text

def isHidden (char : Char) : Bool :=
  char.toNat < 0x20 ||
    hiddenRanges.any fun range => range.1 ≤ char.toNat && char.toNat ≤ range.2

def displayChar (char : Char) : List Char :=
  if char = '"' then ['\\', '"']
  else if char = '\\' then ['\\', '\\']
  else if char = '\n' then ['\\', 'n']
  else if char = '\r' then ['\\', 'r']
  else if char = '\t' then ['\\', 't']
  else if char = '\x00' then ['\\', '0']
  else if isHidden char then
    ['\\', 'u', '\x7b'] ++ Nat.toDigits 16 char.toNat ++ ['\x7d']
  else [char]

def display (text : String) : String :=
  String.ofList ('"' :: text.toList.flatMap displayChar ++ ['"'])

end JsonSql.Text
