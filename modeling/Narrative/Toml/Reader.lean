import Narrative.Toml.Scalar

/-!
Reading a configuration text line by line. Every line is blank, binds a key or
opens a table; the tables are then put together in the order of the lines. A
text that breaks the grammar or binds a key twice has no tables at all.
-/

namespace Narrative.Toml

open Reader

/-- A key or value may be nested less deep than this. -/
def nestingLimit : Nat := 80

def comment : Reader Unit := do
  char '#'
  let _ ← takeWhile isLineChar

def blanksAndLines : Reader Unit := do
  let _ ← many do
    lineBlanks
    let _ ← optional? comment
    lineEnd
  lineBlanks

def isBareKeyChar (c : Char) : Bool :=
  c.isAlphanum || c = '-' || c = '_'

def keyName : Reader String :=
  basicText <|> literalText <|> do return String.ofList (← takeWhile1 isBareKeyChar)

/-- The names of a key with dots and blanks between them: the path and the last
name. -/
def dottedKey : Reader (List String × String) := do
  let names ← separated (char '.') do
    lineBlanks
    let name ← keyName
    lineBlanks
    return name
  match names.getLast? with
  | some last => if names.length < nestingLimit then return (names.dropLast, last) else failure
  | none => failure

def binding (value : Reader Item) : Reader (List String × String × Item) := do
  let (path, key) ← dottedKey
  char '='
  lineBlanks
  return (path, key, ← value)

/-- An array, which may go over several lines and have a comma at its end. -/
def array (value : Reader Item) : Reader Item := do
  char '['
  let items? ← optional? do
    let items ← separated (char ',') do
      blanksAndLines
      let item ← value
      blanksAndLines
      return item
    let _ ← optional? (char ',')
    return items
  blanksAndLines
  char ']'
  return .array (items?.getD [])

/-- An inline table, on one line and without a comma at its end. -/
def inlineTable (value : Reader Item) : Reader Item := do
  char '\x7b'
  lineBlanks
  let entries? ← optional? do
    separated (do char ','; lineBlanks) do
      let entry ← binding value
      lineBlanks
      return entry
  char '\x7d'
  match Members.ofInline (entries?.getD []) with
  | some members => return .table .inlined members
  | none => failure

/-- A value with at most so many levels of nesting. -/
def valueWithin : Nat → Reader Item
  | 0 => scalar
  | levels + 1 => array (valueWithin levels) <|> inlineTable (valueWithin levels) <|> scalar

def value : Reader Item :=
  valueWithin (nestingLimit - 1)

inductive Line where
  | blank
  | entry (path : List String) (key : String) (item : Item)
  | table (path : List String) (key : String)
  | tables (path : List String) (key : String)

def header (first last : String) : Reader (List String × String) := do
  word first
  let key ← dottedKey
  word last
  return key

def line : Reader Line := do
  lineBlanks
  let said ← optional? <|
    (do let (path, key) ← header "[[" "]]"; return Line.tables path key) <|>
    (do let (path, key) ← header "[" "]"; return Line.table path key) <|>
    (do let (path, key, item) ← binding value; return Line.entry path key item)
  lineBlanks
  let _ ← optional? comment
  return said.getD .blank

/-- The lines of a text, after a byte order mark if there is one. -/
def lines? (text : String) : Option (List Line) :=
  whole? (do let _ ← optional? (char '\ufeff'); separated lineEnd line) text.toList

/-- The members of the top table and the path of the table that was opened last. -/
structure Draft where
  members : Members
  opened : List String

def Draft.add? (draft : Draft) : Line → Option Draft
  | .blank => some draft
  | .entry path key item => do
    return { draft with members := ← draft.members.bindIn draft.opened path key item }
  | .table path key => do
    return { members := ← draft.members.openTable path key, opened := path ++ [key] }
  | .tables path key => do
    return { members := ← draft.members.openTables path key, opened := path ++ [key] }

def ofText? (text : String) : Option Members := do
  let draft ← (← lines? text).foldlM Draft.add? ⟨[], []⟩
  return draft.members

end Narrative.Toml
