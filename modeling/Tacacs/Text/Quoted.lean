/-
# `Tacacs.Text.Quoted` — text in quotes

In descriptions a text stands in double quotes, with everything in it made
visible.  The quote and the backslash get a backslash in front; tab, line feed,
carriage return and NUL have a letter or digit of their own; every other
character without a shape of its own is written as its number in hexadecimal.
-/
import Tacacs.Text.Unprintable

namespace Tacacs.Text.Quoted

/-- The number of a character in hexadecimal, in braces. -/
def numbered (c : Char) : List Char :=
  ['\\', 'u', '\x7b'] ++ Nat.toDigits 16 c.toNat ++ ['\x7d']

/-- What stands for a character inside quotes. -/
def escape (c : Char) : List Char :=
  if c = '"' then ['\\', '"']
  else if c = '\\' then ['\\', '\\']
  else if c = '\n' then ['\\', 'n']
  else if c = '\r' then ['\\', 'r']
  else if c = '\t' then ['\\', 't']
  else if c = '\x00' then ['\\', '0']
  else if isShapeless c then numbered c
  else [c]

/-- A text in quotes. -/
def quote (text : String) : String :=
  String.ofList ('"' :: text.toList.flatMap escape ++ ['"'])

end Tacacs.Text.Quoted
