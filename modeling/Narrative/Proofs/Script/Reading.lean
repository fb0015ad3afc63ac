import Mathlib.Data.List.ReduceOption
import Narrative.Proofs.Outcome
import Narrative.Proofs.Text.Split
import Narrative.Proofs.Text.Trim
import Narrative.Script.Guard

/-!
How guards are read. Of each part of a guard only the first line that says something is looked at,
and blanks around that line are not; the parts come from one cut, at the connective that the
guard is joined by.
-/

namespace Narrative.Script

section Statements

variable {line other : List Char} {s : Statement}

namespace Statement

/-- What a line without blanks at its ends says, if it says something: its operator is the first
that is found, before it stands a path without empty names, and after it a literal. -/
theorem ofTrimmed_eq_ok_iff :
    ofTrimmed line = .ok s ↔ ∃ before rest,
      findOperator? line = some (s.operator, before, rest) ∧ s.path = pathNames before ∧
        "" ∉ s.path ∧ s.value = literal (Text.withoutTerminator rest) := by
  unfold ofTrimmed
  cases findOperator? line with
  | none => simp
  | some found =>
      obtain ⟨operator, before, rest⟩ := found
      have hempty : (pathNames before).any String.isEmpty = true ↔ "" ∈ pathNames before := by
        simp [List.any_eq_true]
      simp only [hempty]
      constructor
      · intro h
        split at h
        · cases h
        · rename_i hnone
          cases h
          -- the fields are read off here, so that nothing looks into the literal
          dsimp only
          exact ⟨before, rest, rfl, rfl, hnone, rfl⟩
      · rintro ⟨_, _, hfound, hpath, hnone, hvalue⟩
        cases hfound
        rw [hpath] at hnone
        rw [if_neg hnone, ← hpath, ← hvalue]

theorem ofLine_eq_some_iff :
    ofLine line = .ok (some s) ↔ isIgnored line = false ∧ ofTrimmed (Text.trim line) = .ok s := by
  unfold ofLine
  cases isIgnored line <;> simp [Outcome.map_eq_ok_iff]

theorem ofLine_eq_none_iff : ofLine line = .ok none ↔ isIgnored line = true := by
  unfold ofLine
  cases isIgnored line <;> simp [Outcome.map_eq_ok_iff]

end Statement

theorem isIgnored_congr (h : Text.trim line = Text.trim other) :
    isIgnored line = isIgnored other := by
  unfold isIgnored
  rw [h]

theorem Statement.ofLine_congr (h : Text.trim line = Text.trim other) :
    Statement.ofLine line = Statement.ofLine other := by
  unfold Statement.ofLine
  rw [isIgnored_congr h, h]

end Statements

section Lines

variable {line text part : List Char}

/-- The lines of a text that say something. -/
def meaningfulLines (text : List Char) : List (List Char) :=
  (Text.lines text).filter fun line => !isIgnored line

theorem meaningfulLines_append_cons (text rest : List Char) :
    meaningfulLines (text ++ '\n' :: rest) = meaningfulLines text ++ meaningfulLines rest := by
  rw [meaningfulLines, Text.lines_append_cons, List.filter_append]
  rfl

theorem meaningfulLines_of_notMem (h : '\n' ∉ line) :
    meaningfulLines line = if isIgnored line then [] else [line] := by
  rw [meaningfulLines, Text.lines_of_notMem h]
  cases hline : isIgnored line <;> simp [hline]

/-- A part is read as its first line that says something. -/
theorem conditionOf_eq (part : List Char) :
    conditionOf part = ((meaningfulLines part).head?.map Statement.ofLine).getD (.ok none) := by
  rw [conditionOf, firstMeaningfulLine?, meaningfulLines, List.head?_filter]
  cases (Text.lines part).find? fun line => !isIgnored line with
  | none => rfl
  | some line => exact Statement.ofLine_congr (Text.trim_trim line)

/-- A single line that is a statement is read as that statement, with any blanks around it. -/
theorem conditionOf_of_trim_eq {s : Statement} (hpart : '\n' ∉ part)
    (htrim : Text.trim part = Text.trim line) (h : Statement.ofLine line = .ok (some s)) :
    conditionOf part = .ok (some s) := by
  have hread : Statement.ofLine part = .ok (some s) := (Statement.ofLine_congr htrim).trans h
  obtain ⟨hnotIgnored, -⟩ := Statement.ofLine_eq_some_iff.mp hread
  rw [conditionOf_eq, meaningfulLines_of_notMem hpart, hnotIgnored]
  exact hread

/-- A part with a line that says something is not left out. -/
theorem conditionOf_ne_none (h : ∃ line ∈ Text.lines part, isIgnored line = false) :
    conditionOf part ≠ .ok none := by
  obtain ⟨line, hmem, hline⟩ := h
  have hne : meaningfulLines part ≠ [] :=
    List.ne_nil_of_mem (List.mem_filter.mpr ⟨hmem, by simp [hline]⟩)
  obtain ⟨first, others, hsaid⟩ := List.exists_cons_of_ne_nil hne
  have hfirst : isIgnored first = false := by
    have hmem : first ∈ meaningfulLines part := by simp [hsaid]
    simpa using (List.mem_filter.mp hmem).2
  rw [conditionOf_eq, hsaid]
  intro hnone
  exact Bool.false_ne_true (hfirst.symm.trans (Statement.ofLine_eq_none_iff.mp hnone))

end Lines

section Conditions

variable {parts others : List (List Char)}

theorem conditions_eq (parts : List (List Char)) :
    conditions parts = (parts.mapM conditionOf).map List.reduceOption := by
  induction parts with
  | nil => rfl
  | cons part parts ih =>
      rw [conditions, List.mapM_cons, ih]
      cases conditionOf part with
      | error cause => rfl
      | ok said? =>
          cases parts.mapM conditionOf with
          | error cause => rfl
          | ok results => cases said? <;> rfl

/-- Parts with the same meaningful lines, one by one, have the same conditions. -/
theorem conditions_congr (h : parts.map meaningfulLines = others.map meaningfulLines) :
    conditions parts = conditions others := by
  have hread (parts : List (List Char)) : parts.mapM conditionOf =
      (parts.map meaningfulLines).mapM fun said =>
        (said.head?.map Statement.ofLine).getD (.ok none) := by
    rw [List.mapM_map]
    exact congrArg parts.mapM (funext conditionOf_eq)
  rw [conditions_eq, conditions_eq, hread, hread, h]

end Conditions

/-- A guard is cut at `&&` if that cuts it, and else at `||`; the conditions are joined by `||`
only if there it is cut. -/
theorem guardParts_eq (text : List Char) :
    guardParts text =
      if 1 < (Text.splitDoubled '&' text).length then (.all, Text.splitDoubled '&' text)
      else (if 1 < (Text.splitDoubled '|' text).length then .any else .all,
        Text.splitDoubled '|' text) := by
  unfold guardParts
  change (if Text.occursIn ['&', '&'] text = true then _
    else if Text.occursIn ['|', '|'] text = true then _ else _) = _
  simp only [Text.occursIn_doubled_iff]
  split
  · rfl
  · split
    · rfl
    · rename_i hone
      rw [Text.splitDoubled_of_not_lt hone]

theorem guardParts_of_notMem_or {text : List Char} (h : '|' ∉ text) :
    guardParts text = (.all, Text.splitDoubled '&' text) := by
  rw [guardParts_eq, Text.splitDoubled_of_notMem h]
  split
  · rfl
  · rename_i hone
    rw [Text.splitDoubled_of_not_lt hone]
    rfl

end Narrative.Script
