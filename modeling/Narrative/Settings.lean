import Narrative.Text.Blank
import Narrative.Toml.Reader

/-!
The settings of a session, with their defaults, their text form and the values
that are refused.
-/

namespace Narrative

/-- What a session is to be played with. -/
structure Settings where
  /-- The token that marks the node to start at. -/
  startMarker : String := "@start"
  /-- How many automatic steps may follow one move of the reader. -/
  maxAutoSteps : Nat := 256
  /-- Whether a second marked node is a fault. -/
  strictStart : Bool := true
deriving DecidableEq

instance : Inhabited Settings := ⟨{}⟩

inductive SettingsError where
  /-- The text is no configuration, or a setting has the wrong type. -/
  | malformed
  /-- No automatic step would be allowed at all. -/
  | zeroStepBudget
  /-- The start marker is blank, so that it marks nothing in particular. -/
  | emptyStartMarker
deriving DecidableEq

/-- The wording of a refusal; malformed texts have no fixed one. -/
def SettingsError.message? : SettingsError → Option String
  | .malformed => none
  | .zeroStepBudget => some "max_auto_steps must be at least 1"
  | .emptyStartMarker => some "start_marker must not be empty"

namespace Settings

/-- Refuse settings that no session can be played with. -/
def validate (s : Settings) : Except SettingsError Settings :=
  if s.maxAutoSteps = 0 then .error .zeroStepBudget
  else if Text.isBlankText s.startMarker then .error .emptyStartMarker
  else .ok s

/-- The settings that a table has, with the defaults for those it lacks. Keys that
are no settings do not matter. -/
def ofMembers? (members : Toml.Members) : Option Settings := do
  let defaults : Settings := {}
  let startMarker ← match members.find? "start_marker" with
    | none => some defaults.startMarker
    | some (.text s) => some s
    | some _ => none
  let maxAutoSteps ← match members.find? "max_auto_steps" with
    | none => some defaults.maxAutoSteps
    | some (.integer n) => if 0 ≤ n then some n.toNat else none
    | some _ => none
  let strictStart ← match members.find? "strict_start" with
    | none => some defaults.strictStart
    | some (.boolean b) => some b
    | some _ => none
  return { startMarker, maxAutoSteps, strictStart }

/-- The valid settings that a configuration text has. -/
def ofText (text : String) : Except SettingsError Settings :=
  match (Toml.ofText? text).bind ofMembers? with
  | some settings => settings.validate
  | none => .error .malformed

theorem validate_default : validate {} = .ok {} := rfl

end Settings

end Narrative
