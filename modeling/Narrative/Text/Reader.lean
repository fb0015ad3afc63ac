import Narrative.Text.Split

/-!
Readers take a value off the front of a text or fail. They are put together in
sequence and by choice; a choice goes back to where it began. A repetition has no
more rounds than the text has characters, so it ends on every text.
-/

namespace Narrative

/-- A reader takes a value off the front of a text, or fails. -/
abbrev Reader (α : Type) : Type := StateT (List Char) Option α

namespace Reader

/-- The next character, left where it is. -/
def peek : Reader (Option Char) := fun text => some (text.head?, text)

def satisfying (p : Char → Bool) : Reader Char
  | c :: rest => if p c then some (c, rest) else none
  | [] => none

def char (c : Char) : Reader Unit
  | d :: rest => if d = c then some ((), rest) else none
  | [] => none

def word (expected : String) : Reader Unit := fun text =>
  (Text.after? expected.toList text).map fun rest => ((), rest)

/-- Take the longest run of such characters; it may be empty. -/
def takeWhile (p : Char → Bool) : Reader (List Char) := fun text =>
  some (text.takeWhile p, text.dropWhile p)

/-- Take the longest run of such characters; it may not be empty. -/
def takeWhile1 (p : Char → Bool) : Reader (List Char) := fun text =>
  match text.takeWhile p with
  | [] => none
  | taken => some (taken, text.dropWhile p)

def takeExactly (p : Char → Bool) (count : Nat) : Reader (List Char) := fun text =>
  let taken := text.take count
  if taken.length = count ∧ taken.all p then some (taken, text.drop count) else none

/-- Read a value if the reader succeeds, and nothing otherwise. -/
def optional? {α : Type} (reader : Reader α) : Reader (Option α) := fun text =>
  match reader text with
  | some (a, rest) => some (some a, rest)
  | none => some (none, text)

/-- Read as often as the reader succeeds, but once for every character of the first
text at the most. -/
def manyAlong {α : Type} (reader : Reader α) : List Char → List Char → List α × List Char
  | [], text => ([], text)
  | _ :: bound, text =>
    match reader text with
    | some (a, rest) =>
      let (more, rest) := manyAlong reader bound rest
      (a :: more, rest)
    | none => ([], text)

/-- Read as often as possible; it may be never. A reader that takes something each
time cannot succeed more often than the text has characters. -/
def many {α : Type} (reader : Reader α) : Reader (List α) := fun text =>
  some (manyAlong reader text text)

def separated {α : Type} (separator : Reader Unit) (reader : Reader α) : Reader (List α) := do
  let first ← reader
  let others ← many do
    separator
    reader
  return first :: others

/-- The value of a reader that takes the whole of a text. -/
def whole? {α : Type} (reader : Reader α) (text : List Char) : Option α :=
  match reader text with
  | some (a, []) => some a
  | _ => none

end Reader

end Narrative
