import TileAudit.Text.Combining
import TileAudit.Text.Numeral
import TileAudit.Text.Unprintable

/-!
# Quoted text

Messages that name a rejected argument show it between double quotes. A quote and
a backslash are written after a backslash, the common controls by their letter,
and whatever could not be seen or would attach to its neighbour by its code point.
-/

namespace TileAudit
namespace Text

def quotedChar (c : Char) : List Char :=
  if c = '\x00' then ['\\', '0']
  else if c = '\t' then ['\\', 't']
  else if c = '\r' then ['\\', 'r']
  else if c = '\n' then ['\\', 'n']
  else if c = '\\' then ['\\', '\\']
  else if c = '"' then ['\\', '"']
  else if isCombining c || isUnprintable c then
    ['\\', 'u', Char.ofNat 0x7B] ++ Nat.toDigits 16 c.toNat ++ [Char.ofNat 0x7D]
  else [c]

def quoted (s : String) : String :=
  String.ofList (['"'] ++ s.toList.flatMap quotedChar ++ ['"'])

end Text
end TileAudit
