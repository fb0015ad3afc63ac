/-!
Cutting text into pieces: at every occurrence of a character, at every doubled
character, and at the first occurrence of a given text.
-/

namespace Narrative.Text

def consHead (c : Char) : List (List Char) → List (List Char)
  | [] => [[c]]
  | piece :: pieces => (c :: piece) :: pieces

/-- The pieces between the occurrences of a character: one more than there are
occurrences. -/
def split (mark : Char) : List Char → List (List Char)
  | [] => [[]]
  | c :: rest => if c = mark then [] :: split mark rest else consHead c (split mark rest)

/-- The lines of a text: the pieces between its line feeds. A carriage return
before the line feed stays on its line, where it is a blank. -/
def lines (text : List Char) : List (List Char) :=
  split '\n' text

/-- The pieces between the occurrences of a character that stands twice, found
from the left and without overlap. -/
def splitDoubled (mark : Char) : List Char → List (List Char)
  | [] => [[]]
  | [c] => [[c]]
  | c :: d :: rest =>
    if c = mark ∧ d = mark then [] :: splitDoubled mark rest
    else consHead c (splitDoubled mark (d :: rest))

def after? : List Char → List Char → Option (List Char)
  | [], text => some text
  | _ :: _, [] => none
  | p :: pattern, c :: text => if p = c then after? pattern text else none

/-- The text before and after the first occurrence of a pattern. -/
def cut? (pattern : List Char) : List Char → Option (List Char × List Char)
  | [] => (after? pattern []).map fun rest => ([], rest)
  | c :: text =>
    match after? pattern (c :: text) with
    | some rest => some ([], rest)
    | none => (cut? pattern text).map fun (before, rest) => (c :: before, rest)

def occursIn (pattern text : List Char) : Bool :=
  (cut? pattern text).isSome

theorem consHead_ne_nil (c : Char) (pieces : List (List Char)) : consHead c pieces ≠ [] := by
  cases pieces <;> simp [consHead]

theorem split_ne_nil (mark : Char) (text : List Char) : split mark text ≠ [] := by
  cases text with
  | nil => simp [split]
  | cons c rest =>
      by_cases h : c = mark
      · simp [split, h]
      · simp [split, h, consHead_ne_nil]

theorem after?_eq_some_iff {pattern text rest : List Char} :
    after? pattern text = some rest ↔ text = pattern ++ rest := by
  induction pattern generalizing text with
  | nil => simp [after?, eq_comm]
  | cons p pattern ih =>
      cases text with
      | nil => simp [after?]
      | cons c text =>
          by_cases h : p = c
          · subst h
            simp [after?, ih]
          · simp [after?, h, Ne.symm h]

/-- What is cut off at a pattern, with the pattern between, is the whole text. -/
theorem append_of_cut? {pattern text before rest : List Char}
    (h : cut? pattern text = some (before, rest)) : text = before ++ pattern ++ rest := by
  induction text generalizing before rest with
  | nil =>
      simp only [cut?, Option.map_eq_some_iff, Prod.mk.injEq] at h
      obtain ⟨tail, htail, rfl, rfl⟩ := h
      simpa using after?_eq_some_iff.mp htail
  | cons c text ih =>
      simp only [cut?] at h
      split at h
      · rename_i tail htail
        simp only [Option.some.injEq, Prod.mk.injEq] at h
        obtain ⟨rfl, rfl⟩ := h
        simpa using after?_eq_some_iff.mp htail
      · simp only [Option.map_eq_some_iff, Prod.mk.injEq, Prod.exists] at h
        obtain ⟨front, tail, hcut, rfl, rfl⟩ := h
        simp [ih hcut]

end Narrative.Text
