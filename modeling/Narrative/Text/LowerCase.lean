import Narrative.Text.Blank
import Narrative.Text.CaseTable

/-!
Lower-casing of whole texts. Every character is replaced by its lower-case form,
with two rules beyond the table: a capital I with a dot becomes two characters,
and a capital sigma that ends a word becomes the final sigma.
-/

namespace Narrative.Text

/-- The lower-case form of a single character, where it is one character. -/
def lowerChar (c : Char) : Char :=
  if c.toNat < 0x80 then c.toLower
  else
    match lowerCaseRuns.find? fun (first, last, step, _) =>
        first ≤ c.toNat && c.toNat ≤ last && (c.toNat - first) % step = 0 with
    | some (_, _, _, distance) => Char.ofNat (c.toNat + distance).toNat
    | none => c

/-- Whether the first character that is not passed over is a cased letter. -/
def meetsCased (text : List Char) : Bool :=
  match text.dropWhile fun c => inRanges caseIgnorableRanges c.toNat with
  | [] => false
  | c :: _ => inRanges casedRanges c.toNat

/-- The lower-case form of a character between the characters before it, nearest
first, and the characters after it. A capital sigma ends a word when a cased
letter stands before it and none after it. -/
def lowerAt (before : List Char) (c : Char) (following : List Char) : List Char :=
  if c = 'Σ' then
    if meetsCased before && !meetsCased following then ['ς'] else ['σ']
  else if c = 'İ' then ['i', '\u0307']
  else [lowerChar c]

/-- Lower-case a text that stands after the given characters, nearest first. -/
def lowerAfter (before : List Char) : List Char → List Char
  | [] => []
  | c :: rest => lowerAt before c rest ++ lowerAfter (c :: before) rest

def lower (text : List Char) : List Char :=
  lowerAfter [] text

end Narrative.Text
