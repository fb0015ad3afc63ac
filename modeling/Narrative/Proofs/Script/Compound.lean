import Narrative.Proofs.Script.Guard
import Narrative.Proofs.Script.Reading
import Narrative.Proofs.Variables.Holding

/-!
Compound guards. Guards that join nothing themselves are the parts of the guard that joins them:
all of them are read, from left to right, before any is tested, so the first faulty one shows
through, whatever the others say. If none is faulty, what the guard says is put together from what
they say.
-/

namespace Narrative.Script

/-- The character that joins conditions where it stands twice. -/
def Connective.mark : Connective → Char
  | .all => '&'
  | .any => '|'

def Connective.symbol : Connective → String
  | .all => "&&"
  | .any => "||"

/-- What the verdicts on joined conditions come to. -/
def Connective.combine : Connective → List Bool → Bool
  | .all, verdicts => verdicts.all id
  | .any, verdicts => verdicts.any id

/-- A guard that asks something and joins nothing. It may have more than one line. -/
structure IsSimple (guard : String) : Prop where
  asks : ∃ line ∈ Text.lines guard.toList, isIgnored line = false
  noAnd : '&' ∉ guard.toList
  noOr : '|' ∉ guard.toList

instance (guard : String) : Decidable (IsSimple guard) :=
  decidable_of_iff ((∃ line ∈ Text.lines guard.toList, isIgnored line = false) ∧
      '&' ∉ guard.toList ∧ '|' ∉ guard.toList)
    ⟨fun ⟨asks, noAnd, noOr⟩ => ⟨asks, noAnd, noOr⟩, fun h => ⟨h.asks, h.noAnd, h.noOr⟩⟩

section Parts

variable {parts : List (List Char)} {text : List Char}

theorem Connective.toList_symbol (connective : Connective) :
    connective.symbol.toList = [connective.mark, connective.mark] := by
  cases connective <;> rfl

theorem guardParts_of_notMem (hand : '&' ∉ text) (hor : '|' ∉ text) :
    guardParts text = (.all, [text]) := by
  rw [guardParts_of_notMem_or hor, Text.splitDoubled_of_notMem hand]

/-- The parts of several guards that are joined are these guards. -/
theorem guardParts_intercalate (connective : Connective) (hmany : 2 ≤ parts.length)
    (hand : ∀ part ∈ parts, '&' ∉ part) (hor : ∀ part ∈ parts, '|' ∉ part) :
    guardParts ([connective.mark, connective.mark].intercalate parts) = (connective, parts) := by
  have hcut : 1 < parts.length := hmany
  have hne : parts ≠ [] := List.ne_nil_of_length_pos (by omega)
  cases connective with
  | all =>
      have hnone : '|' ∉ ['&', '&'].intercalate parts := Text.notMem_intercalate (by decide) hor
      rw [Connective.mark, guardParts_of_notMem_or hnone, Text.splitDoubled_intercalate hand hne]
  | any =>
      have hnone : '&' ∉ ['|', '|'].intercalate parts := Text.notMem_intercalate (by decide) hand
      rw [guardParts_eq, Connective.mark, Text.splitDoubled_of_notMem hnone,
        Text.splitDoubled_intercalate hor hne]
      simp [hcut]

end Parts

section Verdicts

variable {guards : List String} {guard : String} {store : Store} {cause : LineError}

theorem guardHolds_of_notMem (hand : '&' ∉ guard.toList) (hor : '|' ∉ guard.toList)
    (store : Store) :
    guardHolds guard store =
      (conditionOf guard.toList).map fun said? => said?.all (Statement.holdsIn store) := by
  rw [guardHolds_eq, guardConditions, guardParts_of_notMem hand hor, conditions_eq]
  rw [List.mapM_cons]
  cases conditionOf guard.toList with
  | error cause => rfl
  | ok said? => cases said? <;> simp [bind, Except.bind, pure, Except.pure, Except.map,
      Connective.holds, List.reduceOption]

namespace IsSimple

theorem guardHolds_eq_error_iff (h : IsSimple guard) :
    guardHolds guard store = .error cause ↔ conditionOf guard.toList = .error cause := by
  rw [guardHolds_of_notMem h.noAnd h.noOr, Outcome.map_eq_error_iff]

theorem exists_of_guardHolds (h : IsSimple guard) {verdict : Bool}
    (hverdict : guardHolds guard store = .ok verdict) :
    ∃ s, conditionOf guard.toList = .ok (some s) ∧ s.holdsIn store = verdict := by
  rw [guardHolds_of_notMem h.noAnd h.noOr] at hverdict
  obtain ⟨said?, hread, heq⟩ := Outcome.map_eq_ok_iff.mp hverdict
  cases said? with
  | none => exact absurd hread (conditionOf_ne_none h.asks)
  | some s => exact ⟨s, hread, heq⟩

end IsSimple

theorem Connective.holds_of_ne_nil (connective : Connective) {said : List Statement}
    (hne : said ≠ []) (store : Store) :
    connective.holds said store = connective.combine (said.map (Statement.holdsIn store)) := by
  cases said with
  | nil => exact absurd rfl hne
  | cons s others => cases connective <;> simp [holds, combine]

/-- The conditions of joined guards are those of the guards, and are joined as the guards are. -/
theorem guardHolds_intercalate_eq (connective : Connective) (hmany : 2 ≤ guards.length)
    (hsimple : ∀ guard ∈ guards, IsSimple guard) (store : Store) :
    guardHolds (connective.symbol.intercalate guards) store =
      (conditions (guards.map String.toList)).map fun said => connective.holds said store := by
  have hparts : guardParts (connective.symbol.intercalate guards).toList =
      (connective, guards.map String.toList) := by
    rw [String.toList_intercalate, Connective.toList_symbol]
    apply guardParts_intercalate connective (by simpa using hmany)
    · simpa using fun guard hmem => (hsimple guard hmem).noAnd
    · simpa using fun guard hmem => (hsimple guard hmem).noOr
  rw [guardHolds_eq, guardConditions, hparts]

/-- The first faulty one of some joined guards is the fault of all of them together. -/
theorem guardHolds_intercalate_error (connective : Connective) (hmany : 2 ≤ guards.length)
    (hsimple : ∀ guard ∈ guards, IsSimple guard) {before after : List String}
    (hguards : guards = before ++ guard :: after)
    (hbefore : ∀ earlier ∈ before, ∃ verdict, guardHolds earlier store = .ok verdict)
    (hfault : guardHolds guard store = .error cause) :
    guardHolds (connective.symbol.intercalate guards) store = .error cause := by
  rw [guardHolds_intercalate_eq connective hmany hsimple, Outcome.map_eq_error_iff, conditions_eq,
    Outcome.map_eq_error_iff, Outcome.mapM_eq_error_iff]
  subst hguards
  refine ⟨before.map String.toList, guard.toList, after.map String.toList, by simp, ?_,
    (hsimple guard (by simp)).guardHolds_eq_error_iff.mp hfault⟩
  intro part hpart
  obtain ⟨earlier, hmem, rfl⟩ := List.mem_map.mp hpart
  obtain ⟨verdict, hverdict⟩ := hbefore earlier hmem
  obtain ⟨s, hread, -⟩ := (hsimple earlier (by simp [hmem])).exists_of_guardHolds hverdict
  exact ⟨some s, hread⟩

/-- Guards that can all be read ask for one statement each, and say whether it holds. -/
theorem exists_said_of_guardHolds {verdicts : List Bool}
    (hsimple : ∀ guard ∈ guards, IsSimple guard)
    (h : List.Forall₂ (fun guard verdict => guardHolds guard store = .ok verdict) guards verdicts) :
    ∃ said, conditions (guards.map String.toList) = .ok said ∧
      said.map (Statement.holdsIn store) = verdicts := by
  induction h with
  | nil => exact ⟨[], rfl, rfl⟩
  | cons hverdict _ ih =>
      obtain ⟨hfirst, hothers⟩ := List.forall_mem_cons.mp hsimple
      obtain ⟨s, hread, rfl⟩ := hfirst.exists_of_guardHolds hverdict
      obtain ⟨said, hsaid, rfl⟩ := ih hothers
      refine ⟨s :: said, ?_, rfl⟩
      rw [List.map_cons, conditions, hread, hsaid]
      rfl

theorem guardHolds_intercalate_ok (connective : Connective) (hmany : 2 ≤ guards.length)
    (hsimple : ∀ guard ∈ guards, IsSimple guard) {verdicts : List Bool}
    (h : List.Forall₂ (fun guard verdict => guardHolds guard store = .ok verdict) guards verdicts) :
    guardHolds (connective.symbol.intercalate guards) store =
      .ok (connective.combine verdicts) := by
  obtain ⟨said, hread, hverdicts⟩ := exists_said_of_guardHolds hsimple h
  have hne : said ≠ [] := by
    rintro rfl
    have hlength := h.length_eq
    rw [← hverdicts, List.map_nil, List.length_nil] at hlength
    omega
  rw [guardHolds_intercalate_eq connective hmany hsimple, hread, ← hverdicts,
    ← connective.holds_of_ne_nil hne]
  rfl

/-- Simple guards, joined by `&&` or by `||`, are at fault just as the leftmost faulty one of them
is, even if those before it settle the matter already; and where none is at fault, the guard that
joins them comes to the conjunction, or the disjunction, of what they come to. -/
theorem guardHolds_intercalate (hmany : 2 ≤ guards.length)
    (hsimple : ∀ guard ∈ guards, IsSimple guard) (store : Store) :
    (∀ before guard after cause, guards = before ++ guard :: after →
      (∀ earlier ∈ before, ∃ verdict, guardHolds earlier store = .ok verdict) →
      guardHolds guard store = .error cause →
        guardHolds ("&&".intercalate guards) store = .error cause ∧
        guardHolds ("||".intercalate guards) store = .error cause) ∧
    ∀ verdicts,
      List.Forall₂ (fun guard verdict => guardHolds guard store = .ok verdict) guards verdicts →
        guardHolds ("&&".intercalate guards) store = .ok (verdicts.all id) ∧
        guardHolds ("||".intercalate guards) store = .ok (verdicts.any id) := by
  refine ⟨?_, ?_⟩
  · intro before guard after cause hguards hbefore hfault
    exact ⟨guardHolds_intercalate_error .all hmany hsimple hguards hbefore hfault,
      guardHolds_intercalate_error .any hmany hsimple hguards hbefore hfault⟩
  · intro verdicts h
    exact ⟨guardHolds_intercalate_ok .all hmany hsimple h,
      guardHolds_intercalate_ok .any hmany hsimple h⟩

end Verdicts

/-- The door as it stands in a session. -/
def doorStore : Store := ⟨.door, .door⟩

/-- Two questions about the door. -/
def doorGuards : List String := ["// by day\nDoor.Open == true", "Door.Lock.Key >= iron;"]

/-- A question that is answered in the negative, and two that cannot be asked. -/
def faultyGuards : List String := ["Door.Open == false", "// at night\nthe lamp", "Door..Lock = 1"]

/-- The door is open and its key is not of iron. The first faulty guard is reported although the
guard before it has failed already, and although there is another faulty one. -/
theorem guardHolds_intercalate_of_door :
    guardHolds ("&&".intercalate doorGuards) doorStore = .ok false ∧
    guardHolds ("||".intercalate doorGuards) doorStore = .ok true ∧
    guardHolds ("&&".intercalate faultyGuards) doorStore = .error (.missingOperator "the lamp") ∧
    guardHolds ("||".intercalate faultyGuards) doorStore =
      .error (.missingOperator "the lamp") := by
  have hdoor : List.Forall₂ (fun guard verdict => guardHolds guard doorStore = .ok verdict)
      doorGuards [true, false] := .cons (by decide +kernel) (.cons (by decide +kernel) .nil)
  obtain ⟨hall, hany⟩ :=
    (guardHolds_intercalate (by decide) (by decide +kernel) doorStore).2 _ hdoor
  obtain ⟨hallFault, hanyFault⟩ :=
    (guardHolds_intercalate (by decide) (by decide +kernel) doorStore).1
      ["Door.Open == false"] "// at night\nthe lamp" ["Door..Lock = 1"]
      (.missingOperator "the lamp") (rfl : faultyGuards = _)
      (List.forall_mem_singleton.mpr ⟨false, by decide +kernel⟩) (by decide +kernel)
  exact ⟨hall, hany, hallFault, hanyFault⟩

end Narrative.Script
