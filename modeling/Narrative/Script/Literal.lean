import Narrative.Number.Decimal
import Narrative.Text.Blank
import Narrative.Variables.Value

/-!
Literals: what stands after the operator of a statement. A text is a truth
value, a quoted text, a number, or failing all of these itself.
-/

namespace Narrative.Script

/-- The largest whole number that a hexadecimal literal can write. -/
def largestHexadecimal : Nat := 2 ^ 63 - 1

/-- A hexadecimal numeral: `0x` or `0X` and digits, up to the largest one. -/
def hexadecimal? : List Char → Option Binary64
  | '0' :: mark :: digits =>
    let n := wholeNumber 16 digits
    let wellFormed := (mark = 'x' ∨ mark = 'X') ∧ digits ≠ [] ∧ digits.all isHexDigit
    if wellFormed ∧ n ≤ largestHexadecimal then some (.ofInt n) else none
  | _ => none

def namedInfinity? (text : List Char) : Option Binary64 :=
  if text = "Infinity".toList ∨ text = "+Infinity".toList then some (.infinite false)
  else if text = "-Infinity".toList then some (.infinite true)
  else none

def number? (text : List Char) : Option Binary64 :=
  ((Decimal.ofChars? text).map Decimal.toBinary64).or ((hexadecimal? text).or (namedInfinity? text))

/-- The inside of a text that begins with one double quote and ends with another. -/
def unquoted? : List Char → Option (List Char)
  | '"' :: rest => if rest.getLast? = some '"' then some rest.dropLast else none
  | _ => none

/-- The value of a literal, blanks around it aside. -/
def literal (raw : List Char) : Value :=
  let text := Text.trim raw
  if text = "true".toList then .bool true
  else if text = "false".toList then .bool false
  else
    match unquoted? text with
    | some inside => .text (String.ofList inside)
    | none =>
      match number? text with
      | some x => .number x
      | none => .text (String.ofList text)

end Narrative.Script
