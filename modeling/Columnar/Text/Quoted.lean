/-
This file writes a text between double quotes, so that every character of it can be seen on one
line. The quote, the backslash, the zero character, tab, line feed and carriage return have a
letter or sign of their own after a backslash; every other character that is not printable is
written by its code point in hexadecimal, `\u` and braces around it; all else, the single quote
among it, stands for itself.
-/

import Columnar.Text.Printable

namespace Columnar.Quoted

/-- The code point of a character, written `\u` with small hexadecimal digits in braces. -/
def escapePoint (character : Char) : List Char :=
  ['\\', 'u', '\x7b'] ++ Nat.toDigits 16 character.toNat ++ ['\x7d']

/-- One character as it stands inside a quoted text. -/
def escape (character : Char) : List Char :=
  if character = '"' then ['\\', '"']
  else if character = '\\' then ['\\', '\\']
  else if character = '\x00' then ['\\', '0']
  else if character = '\t' then ['\\', 't']
  else if character = '\n' then ['\\', 'n']
  else if character = '\r' then ['\\', 'r']
  else if Printable.isPrintable character then [character]
  else escapePoint character

/-- The text between double quotes. -/
def quote (text : String) : String :=
  String.ofList (['"'] ++ text.toList.flatMap escape ++ ['"'])

end Columnar.Quoted
