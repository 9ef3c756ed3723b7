/-
SharedQueue.Quoted — a text in double quotes, as it is shown to a reader.

* `Quoted.display` — quotes and backslashes get a backslash in front, the
  common control characters have short escapes, and every other character
  that cannot be seen by itself is given by its number.
* `Quoted.isUnseen` — those characters: the blank ones, those that combine
  with the one in front, and code points that stand for no character.
-/
import SharedQueue.Quoted.Combining
import SharedQueue.Quoted.Unassigned

namespace SharedQueue.Quoted

/-- The ranges of characters that show nothing: controls, spaces other than
the plain one, line ends, format marks, fillers, and characters for private
use. -/
def blank : List (Nat × Nat) := [
  (0x0, 0x1f), (0x7f, 0xa0), (0xad, 0xad), (0x600, 0x605), (0x61c, 0x61c), (0x6dd, 0x6dd),
  (0x70f, 0x70f), (0x890, 0x891), (0x8e2, 0x8e2), (0x115f, 0x1160), (0x1680, 0x1680),
  (0x180e, 0x180e), (0x2000, 0x200f), (0x2028, 0x202f), (0x205f, 0x2064), (0x2066, 0x206f),
  (0x3000, 0x3000), (0x3164, 0x3164), (0xe000, 0xf8ff), (0xfeff, 0xfeff), (0xffa0, 0xffa0),
  (0xfff9, 0xfffb), (0x110bd, 0x110bd), (0x110cd, 0x110cd), (0x13430, 0x1343f),
  (0x1bca0, 0x1bca3), (0x1d173, 0x1d17a), (0xe0001, 0xe0001), (0xe0020, 0xe007f),
  (0xf0000, 0xffffd), (0x100000, 0x10fffd)]

/-- The character cannot be seen by itself. -/
def isUnseen (c : Char) : Bool := within blank c || isCombining c || isUnassigned c

/-- One character of a shown text. -/
def showChar (c : Char) : List Char :=
  if c = '\x22' then ['\\', '\x22']
  else if c = '\\' then ['\\', '\\']
  else if c = '\n' then ['\\', 'n']
  else if c = '\t' then ['\\', 't']
  else if c = '\x0d' then ['\\', 'r']
  else if c = '\x00' then ['\\', '0']
  else if isUnseen c then ['\\', 'u', '\x7b'] ++ Nat.toDigits 16 c.toNat ++ ['\x7d']
  else [c]

/-- The shown text. -/
def display (s : String) : String :=
  "\x22" ++ String.ofList (s.toList.flatMap showChar) ++ "\x22"

end SharedQueue.Quoted
