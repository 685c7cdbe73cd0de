import InterfaceDraft.Text.Printable
import InterfaceDraft.Text.Search

set_option autoImplicit false

namespace InterfaceDraft.Text

def codeEscape (c : Char) : List Char :=
  "\\u\x7b".toList ++ Nat.toDigits 16 c.toNat ++ "\x7d".toList

def quotedChar (c : Char) : List Char :=
  if c == '\x22' then "\\\x22".toList
  else if c == '\\' then "\\\\".toList
  else if c == '\n' then "\\n".toList
  else if c == '\r' then "\\r".toList
  else if c == '\t' then "\\t".toList
  else if c == '\x00' then "\\0".toList
  else if isPrintable c then [c]
  else codeEscape c

def quoted (s : List Char) : List Char :=
  '\x22' :: s.flatMap quotedChar ++ ['\x22']

end InterfaceDraft.Text
