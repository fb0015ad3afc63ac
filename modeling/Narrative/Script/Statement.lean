import Narrative.Script.Literal
import Narrative.Text.Quoted
import Narrative.Text.Split

/-!
Statements, the lines of the script language: a dotted path, an operator and a
literal. Assignments and guards are written in the same way. The operator of a
line is found by kind and not by place: the first kind in the search order that
occurs anywhere on the line is the one.
-/

namespace Narrative.Script

inductive Operator where
  | equal
  | notEqual
  | greaterOrEqual
  | lessOrEqual
  | greater
  | less
  | assign
deriving DecidableEq

namespace Operator

def symbol : Operator → String
  | .equal => "=="
  | .notEqual => "!="
  | .greaterOrEqual => ">="
  | .lessOrEqual => "<="
  | .greater => ">"
  | .less => "<"
  | .assign => "="

def searchOrder : List Operator :=
  [.equal, .notEqual, .greaterOrEqual, .lessOrEqual, .greater, .less, .assign]

theorem mem_searchOrder (op : Operator) : op ∈ searchOrder := by
  cases op <;> decide

end Operator

/-- What is wrong with a line that is no statement. -/
inductive LineError where
  | missingOperator (line : String)
  /-- The path, or a name on it, is empty. -/
  | emptyPath (line : String)
deriving DecidableEq

def LineError.message : LineError → String
  | .missingOperator line => "No operator in expression line: " ++ Text.quoted line
  | .emptyPath line => "Empty variable path in expression line: " ++ Text.quoted line

/-- A line of script: the path to a variable, an operator and a value. -/
structure Statement where
  path : List String
  operator : Operator
  value : Value
deriving DecidableEq

/-- Whether a line says nothing: it is blank, or a comment. -/
def isIgnored (line : List Char) : Bool :=
  match Text.trim line with
  | [] => true
  | '/' :: '/' :: _ => true
  | _ => false

/-- The operator of a line with the text before it and after it. -/
def findOperator? (line : List Char) : Option (Operator × List Char × List Char) :=
  Operator.searchOrder.findSome? fun op =>
    (Text.cut? op.symbol.toList line).map fun parts => (op, parts)

/-- The names of a dotted path, without the blanks around each. -/
def pathNames (path : List Char) : List String :=
  (Text.split '.' path).map fun name => String.ofList (Text.trim name)

namespace Statement

/-- Read a line that is not to be ignored and has no blanks at its ends. -/
def ofTrimmed (line : List Char) : Except LineError Statement :=
  match findOperator? line with
  | none => .error (.missingOperator (String.ofList line))
  | some (operator, before, rest) =>
    let path := pathNames before
    if path.any String.isEmpty then .error (.emptyPath (String.ofList line))
    else .ok { path, operator, value := literal (Text.withoutTerminator rest) }

/-- Read a line. A line that says nothing has no statement. -/
def ofLine (line : List Char) : Except LineError (Option Statement) :=
  if isIgnored line then .ok none else (ofTrimmed (Text.trim line)).map some

end Statement

/-- The first line of a text that says something, without blanks at its ends. -/
def firstMeaningfulLine? (text : List Char) : Option (List Char) :=
  ((Text.lines text).find? fun line => !isIgnored line).map Text.trim

end Narrative.Script
