-- Text in quotes, for messages: whatever leaves no mark of its own is
-- written as an escape.
import Stride.Text.Combining
import Stride.Text.Unassigned

namespace Stride

/-- Control and format characters, blanks other than the space, and private
use, as far as they are not ignorable. -/
def invisibleRanges : List (Nat × Nat) :=
  [(0x0, 0x1F), (0x7F, 0xA0), (0x600, 0x605), (0x6DD, 0x6DD), (0x70F, 0x70F), (0x890, 0x891),
    (0x8E2, 0x8E2), (0x1680, 0x1680), (0x2000, 0x200A), (0x2028, 0x2029), (0x202F, 0x202F),
    (0x205F, 0x205F), (0x3000, 0x3000), (0xE000, 0xF8FF), (0xFFF9, 0xFFFB), (0x110BD, 0x110BD),
    (0x110CD, 0x110CD), (0x13430, 0x1343F), (0xF0000, 0xFFFFD), (0x100000, 0x10FFFD)]

def isPrintable (c : Char) : Bool :=
  !inRanges invisibleRanges c && !isIgnorable c && !isUnassigned c
    && (!isCombining .unicode17 c || isVoiceMark c)

def escapePrintable (c : Char) : List Char :=
  if c = '"' || c = '\\' then ['\\', c]
  else if c = '\x00' then ['\\', '0']
  else if c = '\t' then ['\\', 't']
  else if c = '\n' then ['\\', 'n']
  else if c = '\r' then ['\\', 'r']
  else if isPrintable c then [c]
  else '\\' :: 'u' :: '\x7b' :: Nat.toDigits 16 c.toNat ++ ['\x7d']

def quotePrintable (s : String) : String :=
  String.ofList ('"' :: s.toList.flatMap escapePrintable ++ ['"'])

end Stride
