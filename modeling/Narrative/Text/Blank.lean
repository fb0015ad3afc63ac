/-!
Blank characters and trimming. Blank means having the White_Space property, so
the no-break, ideographic and typographic spaces and the line and paragraph
separators are blank, and the zero-width characters are not.
-/

namespace Narrative

/-- The first and last characters of each run of blank characters. -/
def blankRanges : List (Nat × Nat) :=
  [(0x09, 0x0d), (0x20, 0x20), (0x85, 0x85), (0xa0, 0xa0), (0x1680, 0x1680),
   (0x2000, 0x200a), (0x2028, 0x2029), (0x202f, 0x202f), (0x205f, 0x205f), (0x3000, 0x3000)]

/-- Whether a code point lies in one of the given ranges, ends included. -/
def inRanges (ranges : List (Nat × Nat)) (code : Nat) : Bool :=
  ranges.any fun (first, last) => first ≤ code && code ≤ last

def isBlank (c : Char) : Bool :=
  inRanges blankRanges c.toNat

namespace Text

/-- The text without the longest run of such characters at its end. -/
def dropEndWhile (p : Char → Bool) (text : List Char) : List Char :=
  (text.reverse.dropWhile p).reverse

def trimEnd (text : List Char) : List Char :=
  dropEndWhile isBlank text

def trim (text : List Char) : List Char :=
  trimEnd (text.dropWhile isBlank)

/-- The text without blanks at either end, without the semicolons that then end
it, and without the blanks before those. -/
def withoutTerminator (text : List Char) : List Char :=
  trimEnd (dropEndWhile (· = ';') (trim text))

def isBlankText (text : String) : Bool :=
  text.toList.all isBlank

@[simp] theorem dropEndWhile_nil (p : Char → Bool) : dropEndWhile p [] = [] := rfl

theorem isBlank_of_isWhitespace {c : Char} (h : c.isWhitespace = true) : isBlank c = true := by
  simp only [Char.isWhitespace, Bool.or_eq_true, decide_eq_true_eq] at h
  rcases h with ((rfl | rfl) | rfl) | rfl <;> decide

end Text

end Narrative
