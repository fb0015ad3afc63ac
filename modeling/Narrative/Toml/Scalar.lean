import Narrative.Number.Decimal
import Narrative.Text.Reader
import Narrative.Toml.Table

/-!
The scalars of a configuration text: quoted texts of four kinds, whole numbers
of 64 bits in four bases, floats, truth values, dates and times.
-/

namespace Narrative.Toml

open Reader

def isLineBlank (c : Char) : Bool :=
  c = ' ' || c = '\t'

/-- A character that may stand in a comment or in a text on one line. -/
def isLineChar (c : Char) : Bool :=
  c = '\t' || (0x20 ≤ c.toNat && c.toNat != 0x7f)

def lineBlanks : Reader Unit := do
  let _ ← takeWhile isLineBlank

/-- The end of a line: a line feed with or without a carriage return before it. -/
def lineEnd : Reader Unit :=
  word "\n" <|> word "\r\n"

def scalarChar (code : Nat) : Reader Char :=
  if code < 0xd800 ∨ (0xe000 ≤ code ∧ code < 0x110000) then return Char.ofNat code
  else failure

def escape : Reader Char := do
  char '\\'
  match ← satisfying fun _ => true with
  | 'b' => return '\x08'
  | 't' => return '\t'
  | 'n' => return '\n'
  | 'f' => return '\x0c'
  | 'r' => return '\r'
  | '"' => return '"'
  | '\\' => return '\\'
  | 'u' => scalarChar (wholeNumber 16 (← takeExactly isHexDigit 4))
  | 'U' => scalarChar (wholeNumber 16 (← takeExactly isHexDigit 8))
  | _ => failure

def basicText : Reader String := do
  char '"'
  let chars ← many ((satisfying fun c => isLineChar c && c != '"' && c != '\\') <|> escape)
  char '"'
  return String.ofList chars

def literalText : Reader String := do
  char '\''
  let chars ← takeWhile fun c => isLineChar c && c != '\''
  char '\''
  return String.ofList chars

/-- One or two quotes inside a text of several lines: three would end it. -/
def innerQuotes (quote : Char) : Reader (List Char) := do
  let quotes ← takeWhile1 (· = quote)
  if quotes.length ≤ 2 then return quotes else failure

/-- The end of a text of several lines: three quotes, with up to two more before
them that still belong to the text. -/
def closingQuotes (quote : Char) : Reader (List Char) := do
  let quotes ← takeWhile1 (· = quote)
  if 3 ≤ quotes.length ∧ quotes.length ≤ 5 then return quotes.drop 3 else failure

/-- A line end that is escaped: it goes away with all blanks and line ends after it. -/
def escapedLineEnd : Reader (List Char) := do
  char '\\'
  lineBlanks
  lineEnd
  let _ ← many (lineEnd <|> do let _ ← satisfying isLineBlank)
  return []

/-- A text of several lines between three quotes on either side. A line end right
after the opening quotes does not belong to it, and every other one is a line
feed. -/
def multilineText (quote : Char) (piece : Reader (List Char)) : Reader String := do
  let opening := String.ofList [quote, quote, quote]
  word opening
  let _ ← optional? lineEnd
  let pieces ← many (piece <|> (do lineEnd; return ['\n']) <|> innerQuotes quote)
  let quotes ← closingQuotes quote
  return String.ofList (pieces.flatten ++ quotes)

def multilineBasicText : Reader String :=
  multilineText '"' <|
    (do return [← satisfying fun c => isLineChar c && c != '"' && c != '\\']) <|>
    escapedLineEnd <|> (do return [← escape])

def multilineLiteralText : Reader String :=
  multilineText '\'' do return [← satisfying fun c => isLineChar c && c != '\'']

/-- Digits with single underscores between them, which do not count. -/
def groupedDigits (isDigit : Char → Bool) : Reader (List Char) := do
  let first ← satisfying isDigit
  let others ← many do
    let _ ← optional? (char '_')
    satisfying isDigit
  return first :: others

/-- An optional sign: whether it is a minus. -/
def sign : Reader Bool := do
  return (← optional? (satisfying fun c => c = '+' || c = '-')) = some '-'

/-- The digits of a decimal whole number: a zero alone, or digits that start with
another. -/
def decimalDigits : Reader (List Char) := do
  match ← peek with
  | some '0' =>
    char '0'
    return ['0']
  | _ => groupedDigits isDecimalDigit

/-- A whole number has to fit 64 bits with a sign. -/
def integerOf (n : Int) : Reader Item :=
  if -2 ^ 63 ≤ n ∧ n < 2 ^ 63 then return .integer n else failure

/-- A whole number of a base that is written in front of it. -/
def basedInteger (mark : String) (base : Nat) (isDigit : Char → Bool) : Reader Item := do
  word mark
  integerOf (wholeNumber base (← groupedDigits isDigit))

def decimalInteger : Reader Item := do
  let negative ← sign
  let magnitude : Int := wholeNumber 10 (← decimalDigits)
  integerOf (if negative then -magnitude else magnitude)

def integer : Reader Item :=
  basedInteger "0x" 16 isHexDigit <|>
  basedInteger "0o" 8 (fun c => '0' ≤ c && c ≤ '7') <|>
  basedInteger "0b" 2 (fun c => c = '0' || c = '1') <|>
  decimalInteger

def power : Reader Int := do
  let _ ← satisfying fun c => c = 'e' || c = 'E'
  let negative ← sign
  let magnitude : Int := wholeNumber 10 (← groupedDigits isDecimalDigit)
  return if negative then -magnitude else magnitude

/-- A float in digits: it has a point or a power of ten, and it may not be so large
as to become positive infinity. -/
def decimalFloat : Reader Item := do
  let negative ← sign
  let whole ← decimalDigits
  let fraction ← optional? do
    char '.'
    groupedDigits isDecimalDigit
  let exponent ← optional? power
  if fraction.isNone ∧ exponent.isNone then failure
  let places := fraction.getD []
  let x := Decimal.toBinary64
    { negative, digits := wholeNumber 10 (whole ++ places),
      exponent := exponent.getD 0 - places.length }
  if x = .infinite false then failure
  return .float x

def namedFloat : Reader Item := do
  let negative ← sign
  (do word "inf"; return .float (.infinite negative)) <|> (do word "nan"; return .float .nan)

def boundedDigits (count low high : Nat) : Reader Nat := do
  let n := wholeNumber 10 (← takeExactly isDecimalDigit count)
  if low ≤ n ∧ n ≤ high then return n else failure

def daysIn (year month : Nat) : Nat :=
  if month = 2 then
    if year % 4 = 0 ∧ (year % 100 ≠ 0 ∨ year % 400 = 0) then 29 else 28
  else if month = 4 ∨ month = 6 ∨ month = 9 ∨ month = 11 then 30
  else 31

def date : Reader Unit := do
  let year ← boundedDigits 4 0 9999
  char '-'
  let month ← boundedDigits 2 1 12
  char '-'
  let _ ← boundedDigits 2 1 (daysIn year month)

/-- A time of day, to any fraction of a second; a leap second is a second. -/
def time : Reader Unit := do
  let _ ← boundedDigits 2 0 23
  char ':'
  let _ ← boundedDigits 2 0 59
  char ':'
  let _ ← boundedDigits 2 0 60
  let _ ← optional? do
    char '.'
    takeWhile1 isDecimalDigit

def offset : Reader Unit :=
  (do let _ ← satisfying fun c => c = 'Z' || c = 'z') <|> do
    let _ ← satisfying fun c => c = '+' || c = '-'
    let _ ← boundedDigits 2 0 23
    char ':'
    let _ ← boundedDigits 2 0 59

def moment : Reader Item :=
  (do
    date
    let _ ← optional? do
      let _ ← satisfying fun c => c = 'T' || c = 't' || c = ' '
      time
      optional? offset
    return .moment) <|>
  (do
    time
    return .moment)

def truth : Reader Item :=
  (do word "true"; return .boolean true) <|> (do word "false"; return .boolean false)

def text : Reader Item := do
  return .text (← multilineBasicText <|> basicText <|> multilineLiteralText <|> literalText)

def scalar : Reader Item :=
  text <|> truth <|> moment <|> decimalFloat <|> namedFloat <|> integer

end Narrative.Toml
