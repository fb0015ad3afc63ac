import Narrative.Text.Split

/-!
Pieces of texts and texts of pieces. Pieces that are put together with a mark between them, none
of which has the mark in it, are found again by cutting at the mark. Where two texts are put
together with something else between them, the last piece of the one goes on into the first piece
of the other, and the pieces before and after stay as they are.
-/

namespace Narrative.Text

variable {mark c : Char} {text piece : List Char} {pieces : List (List Char)}

theorem consHead_eq_modifyHead (c : Char) (h : pieces ≠ []) :
    consHead c pieces = pieces.modifyHead (List.cons c) := by
  cases pieces with
  | nil => exact absurd rfl h
  | cons piece pieces => rfl

theorem split_eq_splitOn (mark : Char) (text : List Char) :
    split mark text = text.splitOn mark := by
  induction text with
  | nil => rfl
  | cons c text ih =>
      rw [split, consHead_eq_modifyHead c (split_ne_nil mark text), ih,
        List.splitOn_cons_eq_if_modifyHead]
      simp only [beq_iff_eq]

theorem notMem_of_mem_split (h : piece ∈ split mark text) : mark ∉ piece := by
  induction text generalizing piece with
  | nil => simp_all [split]
  | cons c text ih =>
      by_cases hc : c = mark
      · simp only [split, hc, if_true, List.mem_cons] at h
        rcases h with rfl | hpiece
        · exact List.not_mem_nil
        · exact ih hpiece
      · simp only [split, if_neg hc] at h
        cases hsplit : split mark text with
        | nil => exact absurd hsplit (split_ne_nil mark text)
        | cons first others =>
            rw [hsplit] at h ih
            rcases List.mem_cons.mp h with rfl | hpiece
            · simp [Ne.symm hc, ih List.mem_cons_self]
            · exact ih (List.mem_cons_of_mem first hpiece)

theorem notMem_intercalate {between : List Char} (hbetween : c ∉ between)
    (h : ∀ piece ∈ pieces, c ∉ piece) : c ∉ between.intercalate pieces := by
  induction pieces with
  | nil => simp
  | cons piece pieces ih =>
      obtain ⟨hpiece, hpieces⟩ := List.forall_mem_cons.mp h
      cases pieces with
      | nil => simpa using hpiece
      | cons next pieces => simp [List.intercalate_cons_cons, hpiece, hbetween, ih hpieces]

section Cut

variable {pattern : List Char}

/-- A pattern is not found in a text that has a character less often than the pattern. -/
theorem cut?_of_count_lt (c : Char) (h : text.count c < pattern.count c) :
    cut? pattern text = none := by
  cases hcut : cut? pattern text with
  | none => rfl
  | some parts =>
      have hcount : text.count c = (parts.1 ++ pattern ++ parts.2).count c :=
        congrArg (List.count c) (append_of_cut? hcut)
      simp only [List.count_append] at hcount
      omega

theorem occursIn_iff : occursIn pattern text = true ↔ pattern <:+: text := by
  induction text with
  | nil => cases pattern <;> simp [occursIn, cut?, after?]
  | cons c text ih =>
      have hprefix : pattern <+: c :: text ↔ (after? pattern (c :: text)).isSome = true := by
        rw [Option.isSome_iff_exists]
        exact exists_congr fun rest => eq_comm.trans after?_eq_some_iff.symm
      rw [List.infix_cons_iff, hprefix, ← ih, occursIn, cut?]
      cases after? pattern (c :: text) with
      | none => simp [occursIn]
      | some rest => simp

/-- What lacks the first character of a pattern only stands before it. -/
theorem cut?_append_of_notMem (h : c ∉ text) (pattern rest : List Char) :
    cut? (c :: pattern) (text ++ rest) =
      (cut? (c :: pattern) rest).map fun parts => (text ++ parts.1, parts.2) := by
  induction text with
  | nil => simp
  | cons d text ih =>
      obtain ⟨hd, htext⟩ : c ≠ d ∧ c ∉ text := by simpa using h
      have hnone : after? (c :: pattern) (d :: (text ++ rest)) = none := by simp [after?, hd]
      rw [List.cons_append, cut?, hnone, ih htext, Option.map_map]
      rfl

/-- A pattern at the beginning of a text is the first. -/
theorem cut?_append_self (pattern rest : List Char) :
    cut? pattern (pattern ++ rest) = some ([], rest) := by
  have hafter : after? pattern (pattern ++ rest) = some rest := after?_eq_some_iff.mpr rfl
  cases htext : pattern ++ rest with
  | nil =>
      obtain ⟨rfl, rfl⟩ := List.append_eq_nil_iff.mp htext
      rfl
  | cons c text =>
      rw [htext] at hafter
      simp only [cut?, hafter]

end Cut

section Lines

/-- A text up to a line feed has its own lines, whatever comes after. -/
theorem lines_append_cons (text rest : List Char) :
    lines (text ++ '\n' :: rest) = lines text ++ lines rest := by
  simp only [lines, split_eq_splitOn, List.splitOn_append_cons_self]

theorem lines_of_notMem (h : '\n' ∉ text) : lines text = [text] := by
  rw [lines, split_eq_splitOn, List.splitOn_eq_singleton h]

theorem lines_intercalate (h : ∀ line ∈ pieces, '\n' ∉ line) (hne : pieces ≠ []) :
    lines (['\n'].intercalate pieces) = pieces := by
  rw [lines, split_eq_splitOn, List.splitOn_intercalate '\n' h hne]

theorem intercalate_lines (text : List Char) : ['\n'].intercalate (lines text) = text := by
  rw [lines, split_eq_splitOn, List.intercalate_splitOn]

end Lines

section Doubled

theorem splitDoubled_ne_nil (mark : Char) (text : List Char) : splitDoubled mark text ≠ [] := by
  fun_induction splitDoubled mark text <;> simp [consHead_ne_nil]

theorem splitDoubled_cons_of_ne (h : c ≠ mark) (text : List Char) :
    splitDoubled mark (c :: text) = consHead c (splitDoubled mark text) := by
  cases text with
  | nil => rfl
  | cons d text => simp [splitDoubled, h]

theorem splitDoubled_of_notMem (h : mark ∉ text) : splitDoubled mark text = [text] := by
  induction text with
  | nil => rfl
  | cons c text ih =>
      obtain ⟨hc, htext⟩ : mark ≠ c ∧ mark ∉ text := by simpa using h
      rw [splitDoubled_cons_of_ne (Ne.symm hc), ih htext]
      rfl

/-- A piece without the mark is cut off at the doubled mark that ends it. -/
theorem splitDoubled_append (h : mark ∉ piece) (rest : List Char) :
    splitDoubled mark (piece ++ mark :: mark :: rest) = piece :: splitDoubled mark rest := by
  induction piece with
  | nil => simp [splitDoubled]
  | cons c piece ih =>
      obtain ⟨hc, hpiece⟩ : mark ≠ c ∧ mark ∉ piece := by simpa using h
      rw [List.cons_append, splitDoubled_cons_of_ne (Ne.symm hc), ih hpiece]
      rfl

theorem splitDoubled_intercalate (h : ∀ piece ∈ pieces, mark ∉ piece) (hne : pieces ≠ []) :
    splitDoubled mark ([mark, mark].intercalate pieces) = pieces := by
  induction pieces with
  | nil => exact absurd rfl hne
  | cons piece pieces ih =>
      obtain ⟨hpiece, hpieces⟩ := List.forall_mem_cons.mp h
      cases pieces with
      | nil => rw [List.intercalate_singleton, splitDoubled_of_notMem hpiece]
      | cons next pieces =>
          have hjoined : [mark, mark].intercalate (piece :: next :: pieces) =
              piece ++ mark :: mark :: [mark, mark].intercalate (next :: pieces) := by
            simp [List.intercalate_cons_cons]
          rw [hjoined, splitDoubled_append hpiece, ih hpieces (by simp)]

theorem length_consHead (c : Char) (h : pieces ≠ []) :
    (consHead c pieces).length = pieces.length := by
  rw [consHead_eq_modifyHead c h, List.length_modifyHead]

/-- A doubled mark that does not begin a text occurs in it after its first character. -/
theorem occursIn_doubled_cons {d : Char} (h : ¬ (c = mark ∧ d = mark)) (text : List Char) :
    occursIn [mark, mark] (c :: d :: text) = occursIn [mark, mark] (d :: text) := by
  have hnone : after? [mark, mark] (c :: d :: text) = none := by
    simp only [after?]
    grind
  rw [occursIn, cut?, hnone]
  simp [occursIn]

/-- A doubled mark occurs in a text just if it cuts the text. -/
theorem occursIn_doubled_iff :
    occursIn [mark, mark] text = true ↔ 1 < (splitDoubled mark text).length := by
  fun_induction splitDoubled mark text with
  | case1 => simp [occursIn, cut?, after?]
  | case2 c => by_cases hc : mark = c <;> simp [occursIn, cut?, after?, hc]
  | case3 c d rest hboth =>
      have hpos := List.length_pos_iff.mpr (splitDoubled_ne_nil mark rest)
      simp [occursIn, cut?, after?, hboth.1, hboth.2, hpos]
  | case4 c d rest hnot ih =>
      rw [occursIn_doubled_cons hnot, length_consHead c (splitDoubled_ne_nil mark (d :: rest)), ih]

theorem splitDoubled_of_not_occursIn (h : occursIn [mark, mark] text = false) :
    splitDoubled mark text = [text] := by
  fun_induction splitDoubled mark text with
  | case1 => rfl
  | case2 c => rfl
  | case3 c d rest hboth => simp [occursIn, cut?, after?, hboth.1, hboth.2] at h
  | case4 c d rest hnot ih =>
      rw [occursIn_doubled_cons hnot] at h
      rw [ih h]
      rfl

theorem splitDoubled_of_not_lt (h : ¬ 1 < (splitDoubled mark text).length) :
    splitDoubled mark text = [text] := by
  apply splitDoubled_of_not_occursIn
  exact Bool.eq_false_iff.mpr fun hoccurs => h (occursIn_doubled_iff.mp hoccurs)

/-- A character other than the mark keeps together what stands on its two sides: the last piece
before it and the first piece after it are one piece. -/
theorem exists_splitDoubled_append_cons (h : c ≠ mark) (text rest : List Char) :
    ∃ before last first after, splitDoubled mark text = before ++ [last] ∧
      splitDoubled mark rest = first :: after ∧
      splitDoubled mark (text ++ c :: rest) = before ++ (last ++ c :: first) :: after := by
  obtain ⟨first, after, hrest⟩ := List.exists_cons_of_ne_nil (splitDoubled_ne_nil mark rest)
  have hcut : splitDoubled mark (c :: rest) = (c :: first) :: after := by
    rw [splitDoubled_cons_of_ne h, hrest]
    rfl
  fun_induction splitDoubled mark text with
  | case1 => exact ⟨[], [], first, after, rfl, hrest, hcut⟩
  | case2 d =>
      refine ⟨[], [d], first, after, rfl, hrest, ?_⟩
      simp [splitDoubled, h, hcut, consHead]
  | case3 d e text hboth ih =>
      obtain ⟨before, last, _, _, htext, heq, hjoined⟩ := ih
      cases hrest.symm.trans heq
      refine ⟨[] :: before, last, first, after, by rw [htext]; rfl, hrest, ?_⟩
      simp [splitDoubled, hboth.1, hboth.2, hjoined]
  | case4 d e text hnot ih =>
      obtain ⟨before, last, _, _, htext, heq, hjoined⟩ := ih
      cases hrest.symm.trans heq
      have hstep : splitDoubled mark (d :: e :: text ++ c :: rest) =
          consHead d (before ++ (last ++ c :: first) :: after) := by
        rw [← hjoined]
        simp [splitDoubled, hnot]
      rw [htext, hstep]
      cases before with
      | nil => exact ⟨[], d :: last, first, after, rfl, hrest, rfl⟩
      | cons piece before => exact ⟨(d :: piece) :: before, last, first, after, rfl, hrest, rfl⟩

end Doubled

end Narrative.Text
