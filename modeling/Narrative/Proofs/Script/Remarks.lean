import Narrative.Proofs.Script.Compound

/-!
Remarks in guards: blank lines, and comments. A guard is cut at its connective before its lines are
looked at, so the cut also goes through a comment that has the connective in it, and what follows
in the comment is read as a condition. Main statement: every other remark makes no difference.
-/

namespace Narrative.Script

/-- A text without its blank lines and its comments. -/
def withoutRemarks (text : String) : String :=
  String.ofList (['\n'].intercalate (meaningfulLines text.toList))

/-- Whether no remark in a text has a text in it. -/
def RemarksLack (pattern text : List Char) : Prop :=
  ∀ line ∈ Text.lines text, isIgnored line = true → Text.occursIn pattern line = false

instance (pattern text : List Char) : Decidable (RemarksLack pattern text) :=
  inferInstanceAs (Decidable (∀ line ∈ Text.lines text, _))

section Parts

variable {mark : Char} {line : List Char} {lines : List (List Char)}

/-- What the parts say that some lines are cut into. -/
def saidBetween (mark : Char) (lines : List (List Char)) : List (List (List Char)) :=
  (Text.splitDoubled mark (['\n'].intercalate lines)).map meaningfulLines

/-- The last part of a line goes on into the lines below it. -/
theorem exists_saidBetween_cons (hmark : mark ≠ '\n') (line : List Char)
    (lines : List (List Char)) :
    ∃ before last first after, Text.splitDoubled mark line = before ++ [last] ∧
      saidBetween mark lines = first :: after ∧
      saidBetween mark (line :: lines) =
        before.map meaningfulLines ++ (meaningfulLines last ++ first) :: after := by
  cases lines with
  | nil =>
      obtain ⟨before, last, hline⟩ :=
        (List.eq_nil_or_concat' _).resolve_left (Text.splitDoubled_ne_nil mark line)
      refine ⟨before, last, [], [], hline, rfl, ?_⟩
      rw [saidBetween, List.intercalate_singleton, hline]
      simp
  | cons next lines =>
      obtain ⟨before, last, first, after, hline, hrest, hjoined⟩ :=
        Text.exists_splitDoubled_append_cons hmark.symm line (['\n'].intercalate (next :: lines))
      refine ⟨before, last, meaningfulLines first, after.map meaningfulLines, hline, ?_, ?_⟩
      · rw [saidBetween, hrest, List.map_cons]
      · have htext : ['\n'].intercalate (line :: next :: lines) =
            line ++ '\n' :: ['\n'].intercalate (next :: lines) := by
          simp [List.intercalate_cons_cons]
        rw [saidBetween, htext, hjoined, List.map_append, List.map_cons,
          meaningfulLines_append_cons]

theorem saidBetween_filter (hmark : mark ≠ '\n') (hlines : ∀ line ∈ lines, '\n' ∉ line)
    (hlack : ∀ line ∈ lines, isIgnored line = true → Text.occursIn [mark, mark] line = false) :
    saidBetween mark (lines.filter fun line => !isIgnored line) = saidBetween mark lines := by
  induction lines with
  | nil => rfl
  | cons line lines ih =>
      obtain ⟨hline, hothers⟩ := List.forall_mem_cons.mp hlines
      obtain ⟨hfirst, hrest⟩ := List.forall_mem_cons.mp hlack
      have hsame := ih hothers hrest
      obtain ⟨before, last, first, after, hcut, hbelow, hall⟩ :=
        exists_saidBetween_cons hmark line lines
      cases hignored : isIgnored line with
      | true =>
          have hwhole : before ++ [last] = [] ++ [line] :=
            hcut.symm.trans (Text.splitDoubled_of_not_occursIn (hfirst hignored))
          obtain ⟨rfl, hlast⟩ := List.append_inj' hwhole rfl
          cases hlast
          rw [List.filter_cons_of_neg (by simp [hignored]), hsame, hall, hbelow,
            meaningfulLines_of_notMem hline, hignored]
          rfl
      | false =>
          obtain ⟨before', last', first', after', hcut', hbelow', hall'⟩ :=
            exists_saidBetween_cons hmark line (lines.filter fun line => !isIgnored line)
          obtain ⟨rfl, hlast⟩ := List.append_inj' (hcut.symm.trans hcut') rfl
          obtain ⟨rfl, rfl⟩ := List.cons.inj (hbelow'.symm.trans (hsame.trans hbelow))
          cases hlast
          rw [List.filter_cons_of_pos (by simp [hignored]), hall', hall]

/-- The parts of a text say the same without its remarks, if none of these is cut. -/
theorem map_meaningfulLines_splitDoubled (hmark : mark ≠ '\n') {text : String}
    (hlack : RemarksLack [mark, mark] text.toList) :
    (Text.splitDoubled mark (withoutRemarks text).toList).map meaningfulLines =
      (Text.splitDoubled mark text.toList).map meaningfulLines := by
  have hlines : ∀ line ∈ Text.lines text.toList, '\n' ∉ line :=
    fun line hmem => Text.notMem_of_mem_split hmem
  have hsame := saidBetween_filter hmark hlines hlack
  rw [saidBetween, saidBetween, Text.intercalate_lines] at hsame
  rw [withoutRemarks, String.toList_ofList]
  exact hsame

end Parts

/-- A guard has the same outcome without its blank lines and its comments, if no comment has `&&`
in it, nor `||` unless the guard is cut at `&&` anyway. -/
theorem guardHolds_withoutRemarks {text : String} (store : Store)
    (hall : RemarksLack "&&".toList text.toList)
    (hany : Text.occursIn "&&".toList text.toList = true ∨ RemarksLack "||".toList text.toList) :
    guardHolds (withoutRemarks text) store = guardHolds text store := by
  have hand : (Text.splitDoubled '&' (withoutRemarks text).toList).map meaningfulLines =
      (Text.splitDoubled '&' text.toList).map meaningfulLines :=
    map_meaningfulLines_splitDoubled (by decide) hall
  have hlength := congrArg List.length hand
  simp only [List.length_map] at hlength
  rw [guardHolds_eq, guardHolds_eq, guardConditions, guardConditions, guardParts_eq, guardParts_eq,
    hlength]
  by_cases hcut : 1 < (Text.splitDoubled '&' text.toList).length
  · simp only [if_pos hcut, conditions_congr hand]
  · have hlack := hany.resolve_left fun h => hcut (Text.occursIn_doubled_iff.mp h)
    have hor : (Text.splitDoubled '|' (withoutRemarks text).toList).map meaningfulLines =
        (Text.splitDoubled '|' text.toList).map meaningfulLines :=
      map_meaningfulLines_splitDoubled (by decide) hlack
    have hlengthOr := congrArg List.length hor
    simp only [List.length_map] at hlengthOr
    simp only [if_neg hcut, conditions_congr hor, hlengthOr]

/-- A guard with remarks: the first one has a connective in it at which the guard is not cut. -/
def remarkedGuard : String :=
  "// opened || broken\n\nDoor.Open == true && // the old key\nDoor.Lock.Key == brass"

/-- The remarks above are dropped, and the guard is cut through the line below them. The second part
begins with a remark of its own, which is not a line of the text and stays. -/
theorem guardHolds_withoutRemarks_of_remarkedGuard :
    withoutRemarks remarkedGuard =
      "Door.Open == true && // the old key\nDoor.Lock.Key == brass" ∧
    guardHolds (withoutRemarks remarkedGuard) doorStore = .ok true ∧
    guardHolds remarkedGuard doorStore = .ok true := by
  have hsame : guardHolds (withoutRemarks remarkedGuard) doorStore =
      guardHolds remarkedGuard doorStore :=
    guardHolds_withoutRemarks doorStore (by decide +kernel) (.inl (by decide +kernel))
  have hbare : guardHolds (withoutRemarks remarkedGuard) doorStore = .ok true := by decide +kernel
  exact ⟨by decide +kernel, hbare, hsame ▸ hbare⟩

/-- A guard with a remark that is cut. -/
def cutRemark : String := "// key && lamp\nDoor.Open == true"

/-- The second half of the remark is read as a condition, and is none; without the remark the guard
holds. -/
theorem not_guardHolds_withoutRemarks_of_cutRemark :
    withoutRemarks cutRemark = "Door.Open == true" ∧
    guardHolds (withoutRemarks cutRemark) doorStore = .ok true ∧
    guardHolds cutRemark doorStore = .error (.missingOperator "lamp") ∧
    guardHolds (withoutRemarks cutRemark) doorStore ≠ guardHolds cutRemark doorStore := by
  decide +kernel

end Narrative.Script
