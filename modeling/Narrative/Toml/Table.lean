import Narrative.Number.Binary64

/-!
Tables of a configuration text. A table is opened by a header, implied by the
header of an inner one, made by a dotted key, or written inline. How it came
about decides what may still be added to it: nothing at all to an inline table,
no dotted key to a table with a header, no header to a table of dotted keys.
-/

namespace Narrative.Toml

inductive Origin where
  | header
  | implied
  | dotted
  | inlined
deriving DecidableEq

/-- A value of a configuration text. Dates and times are well formed, and more is
not asked of them. Of an array of tables the latest one stands apart: it is the
one that headers and keys add to. -/
inductive Item where
  | text (s : String)
  | integer (n : Int)
  | float (x : Binary64)
  | boolean (b : Bool)
  | moment
  | array (items : List Item)
  | table (origin : Origin) (members : List (String × Item))
  | tables (latest : List (String × Item)) (earlier : List (List (String × Item)))

/-- The members of a table in the order in which they were added. -/
abbrev Members : Type := List (String × Item)

namespace Members

def find? (members : Members) (key : String) : Option Item :=
  List.lookup key members

/-- The members with a key bound anew, in its old place if it had one. -/
def put (members : Members) (key : String) (item : Item) : Members :=
  match members with
  | [] => [(key, item)]
  | (name, old) :: others =>
    if name = key then (key, item) :: others else (name, old) :: put others key item

/-- A table's members with the table at the end of a path changed. Missing tables
are made on the way. A path of dotted keys may not go through a table that has a
header, and no path goes through an inline table or anything but a table. -/
def change (isDotted : Bool) (f : Origin → Members → Option (Origin × Members)) :
    List String → Origin → Members → Option (Origin × Members)
  | [], origin, members => f origin members
  | key :: path, origin, members =>
    let item? : Option Item :=
      match members.find? key with
      | none =>
        (change isDotted f path (if isDotted then .dotted else .implied) []).map
          fun (made, inner) => .table made inner
      | some (.table innerOrigin inner) =>
        if innerOrigin = .inlined ∨ (isDotted ∧ innerOrigin = .header) then none
        else
          (change isDotted f path innerOrigin inner).map fun (kept, inner) => .table kept inner
      | some (.tables latest earlier) =>
        (change isDotted f path .header latest).map fun (_, latest) => .tables latest earlier
      | some _ => none
    item?.map fun item => (origin, members.put key item)

/-- Bind the key at the end of a path of dotted keys. The key must be free, and
the table that a dotted path ends in must itself be one of dotted keys. -/
def bind (path : List String) (key : String) (item : Item) (origin : Origin) (members : Members) :
    Option (Origin × Members) :=
  change true (fun origin members =>
    if (path ≠ [] ∧ origin ≠ .dotted) ∨ (members.find? key).isSome then none
    else some (origin, members.put key item)) path origin members

def bindIn (opened path : List String) (key : String) (item : Item) (members : Members) :
    Option Members :=
  (change false (bind path key item) opened .header members).map Prod.snd

/-- Open the table of a header. It must be new, or implied so far. -/
def openTable (path : List String) (key : String) (members : Members) : Option Members :=
  let opened := change false (fun origin members =>
    match members.find? key with
    | none => some (origin, members.put key (.table .header []))
    | some (.table .implied inner) => some (origin, members.put key (.table .header inner))
    | some _ => none) path .header members
  opened.map Prod.snd

/-- Open one more table of the array of a header. The key must be new, or that of
such an array. -/
def openTables (path : List String) (key : String) (members : Members) : Option Members :=
  let opened := change false (fun origin members =>
    match members.find? key with
    | none => some (origin, members.put key (.tables [] []))
    | some (.tables latest earlier) =>
      some (origin, members.put key (.tables [] (latest :: earlier)))
    | some _ => none) path .header members
  opened.map Prod.snd

/-- The members that an inline table binds one after another. -/
def ofInline (entries : List (List String × String × Item)) : Option Members :=
  entries.foldlM (fun members (path, key, item) =>
    (bind path key item .header members).map Prod.snd) []

end Members

end Narrative.Toml
