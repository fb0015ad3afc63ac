import Narrative.Json.Numeral
import Narrative.Text.Reader

/-!
Reading values from text. The grammar is strict: no blanks but space, tab and
line ends, no leading zeros, no control characters inside texts, nothing after
the value. What the grammar admits but no value stands for is read as unusable.
-/

namespace Narrative.Json

open Reader

def blanks : Reader Unit := do
  let _ ← takeWhile fun c => c = ' ' || c = '\t' || c = '\n' || c = '\r'

def hexUnit : Reader Nat := do
  return wholeNumber 16 (← takeExactly isHexDigit 4)

def pairedChar (high low : Nat) : Char :=
  Char.ofNat (0x10000 + (high - 0xd800) * 0x400 + (low - 0xdc00))

/-- The character that a `u` escape stands for, the `u` having been taken; `none`
for half of a surrogate pair. The second half is taken only with a first one. -/
def unicodeEscape : Reader (Option Char) := do
  let first ← hexUnit
  if 0xd800 ≤ first ∧ first < 0xdc00 then
    let second? ← optional? do
      word "\\u"
      let second ← hexUnit
      if 0xdc00 ≤ second ∧ second < 0xe000 then return second else failure
    return second?.map (pairedChar first)
  else if 0xdc00 ≤ first ∧ first < 0xe000 then return none
  else return some (Char.ofNat first)

/-- The character that an escape stands for, the backslash having been taken. -/
def escape : Reader (Option Char) := do
  match ← satisfying fun _ => true with
  | '"' => return some '"'
  | '\\' => return some '\\'
  | '/' => return some '/'
  | 'b' => return some '\x08'
  | 'f' => return some '\x0c'
  | 'n' => return some '\n'
  | 'r' => return some '\r'
  | 't' => return some '\t'
  | 'u' => unicodeEscape
  | _ => failure

def quotedChar : Reader (Option Char) := do
  let c ← satisfying fun c => c != '"' && 0x20 ≤ c.toNat
  if c = '\\' then escape else return some c

/-- A quoted text; `none` if half of a surrogate pair occurs in it. -/
def quotedText : Reader (Option String) := do
  char '"'
  let chars ← many quotedChar
  char '"'
  return (chars.mapM id).map String.ofList

/-- The digits before the point: a zero alone, or digits that start with another. -/
def wholeDigits : Reader (List Char) := do
  let digits ← takeWhile1 isDecimalDigit
  if digits.length > 1 ∧ digits.head? = some '0' then failure
  return digits

def exponent : Reader Int := do
  let _ ← satisfying fun c => c = 'e' || c = 'E'
  let sign ← optional? (satisfying fun c => c = '+' || c = '-')
  let magnitude : Int := wholeNumber 10 (← takeWhile1 isDecimalDigit)
  return if sign = some '-' then -magnitude else magnitude

def numeral : Reader Numeral := do
  let sign ← optional? (char '-')
  let whole ← wholeDigits
  let fraction ← optional? do
    char '.'
    takeWhile1 isDecimalDigit
  let power ← optional? exponent
  -- A point or a power of ten cannot be left half read.
  match ← peek with
  | some '.' | some 'e' | some 'E' => failure
  | _ => pure ()
  return { negative := sign.isSome, whole, fraction := fraction.getD [],
           exponent := power.getD 0, isWhole := fraction.isNone && power.isNone }

/-- How deep arrays and objects may be nested. -/
def deepest : Nat := 127

def bracketed {α : Type} (first last : Char) (item : Reader α) : Reader (List α) := do
  char first
  blanks
  let items? ← optional? (separated (do char ','; blanks) (do let a ← item; blanks; return a))
  char last
  return items?.getD []

/-- A container at some depth: unusable when it is too deep. -/
def atDepth (depth : Nat) (container : Json) : Json :=
  if depth ≤ deepest then container else .unusable

/-- An object from its members: unusable when the name of one is. -/
def ofMembers (members : List (Option String × Json)) : Json :=
  match members.mapM fun (name?, value) => name?.map fun name => (name, value) with
  | some members => .object members
  | none => .unusable

/-- A value at some depth. The first number bounds how much deeper the reader
goes, which is never more than the text is long. -/
def value : Nat → Nat → Reader Json
  | 0, _ => failure
  | bound + 1, depth => do
    match ← peek with
    | some 'n' =>
      word "null"
      return .null
    | some 't' =>
      word "true"
      return .bool true
    | some 'f' =>
      word "false"
      return .bool false
    | some '"' => return ((← quotedText).map Json.text).getD .unusable
    | some '[' =>
      let items ← bracketed '[' ']' (value bound (depth + 1))
      return atDepth (depth + 1) (.array items)
    | some '\x7b' =>
      let members ← bracketed '\x7b' '\x7d' do
        let name? ← quotedText
        blanks
        char ':'
        blanks
        let member ← value bound (depth + 1)
        return (name?, member)
      return atDepth (depth + 1) (ofMembers members)
    | _ => return (← numeral).toJson

/-- The value that a text writes, if it writes one. -/
def ofText? (text : String) : Option Json :=
  let chars := text.toList
  whole? (do blanks; let v ← value (chars.length + 1) 0; blanks; return v) chars

end Narrative.Json
