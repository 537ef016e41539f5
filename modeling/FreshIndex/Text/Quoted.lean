import FreshIndex.Text.GraphemeExtend
import FreshIndex.Text.Printable

/-!
This module contains the quoted form of a text, in which messages show a text that was given to the
program: between double quotes, with escapes for quotes, for the backslash and for every character
that would not show by itself.
-/

namespace FreshIndex.Text

def hexDigits (n : Nat) : List Char :=
  Nat.toDigits 16 n

def escapeCode (c : Char) : List Char :=
  ['\\', 'u', '{'] ++ hexDigits c.toNat ++ ['}']

/-- Whether `c` is a filler, which shows nothing in the place of a letter. -/
def isFiller (c : Char) : Bool :=
  ['\u115f', '\u1160', '\u3164', '\uffa0'].contains c

/-- Whether `c` is a sound mark of half width, which shows beside the letter that it extends. -/
def isHalfwidthMark (c : Char) : Bool :=
  c == '\uff9e' || c == '\uff9f'

def isVisible (c : Char) : Bool :=
  isHalfwidthMark c || (isPrintable c && !isGraphemeExtend c && !isFiller c)

def escape (c : Char) : List Char :=
  if c = '\x00' then ['\\', '0']
  else if c = '\t' then ['\\', 't']
  else if c = '\r' then ['\\', 'r']
  else if c = '\n' then ['\\', 'n']
  else if c = '"' then ['\\', '"']
  else if c = '\\' then ['\\', '\\']
  else if isVisible c then [c]
  else escapeCode c

def quoted (s : String) : String :=
  String.ofList ('"' :: (s.toList.flatMap escape ++ ['"']))

end FreshIndex.Text
