import Narrative.Text.Blank
import Narrative.Text.Unprintable

/-!
Quoted text for diagnostics. The text stands between double quotes on one line:
quotes, backslashes and the usual controls are escaped by a letter, and whatever
would not show as itself is written by its code point.
-/

namespace Narrative.Text

/-- The digits of a code point in base sixteen, in lower case and without
leading zeros. -/
def codePoint (c : Char) : List Char :=
  Nat.toDigits 16 c.toNat

def isPrintable (c : Char) : Bool :=
  if c.toNat < 0x80 then 0x20 ≤ c.toNat && c.toNat < 0x7f
  else !inRanges extendingMarkRanges c.toNat && !inRanges unprintableRanges c.toNat

/-- A character as it stands inside the quotes. -/
def quoteChar (c : Char) : List Char :=
  match c with
  | '"' => ['\\', '"']
  | '\\' => ['\\', '\\']
  | '\t' => ['\\', 't']
  | '\r' => ['\\', 'r']
  | '\n' => ['\\', 'n']
  | '\x00' => ['\\', '0']
  | c =>
    if isPrintable c then [c]
    else ['\\', 'u', '\x7b'] ++ codePoint c ++ ['\x7d']

/-- A text between double quotes, on one line and with nothing invisible in it. -/
def quoted (text : String) : String :=
  String.ofList ('"' :: text.toList.flatMap quoteChar ++ ['"'])

end Narrative.Text
