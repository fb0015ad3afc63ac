import Mathlib.Data.List.DropRight
import Narrative.Text.Blank

/-!
Blanks around a text. Every text is its trimmed text with blanks on both sides, and trimming does
not see how many of them there are.
-/

namespace Narrative.Text

variable {gap mark text other : List Char} {c : Char}

theorem dropWhile_append_cons {p : Char → Bool} (h : p c = false) (text rest : List Char) :
    (text ++ c :: rest).dropWhile p = text.dropWhile p ++ c :: rest := by
  rw [List.dropWhile_append, List.dropWhile_cons_of_neg (by simp [h])]
  split
  · rename_i hempty
    rw [List.isEmpty_iff.mp hempty, List.nil_append]
  · rfl

theorem dropEndWhile_append_cons {p : Char → Bool} (h : p c = false) (text rest : List Char) :
    dropEndWhile p (text ++ c :: rest) = text ++ c :: dropEndWhile p rest := by
  have hreversed : (text ++ c :: rest).reverse = rest.reverse ++ c :: text.reverse := by simp
  rw [dropEndWhile, hreversed, dropWhile_append_cons h]
  simp [dropEndWhile]

theorem trimEnd_append_blank (h : ∀ c ∈ gap, isBlank c = true) (text : List Char) :
    trimEnd (text ++ gap) = trimEnd text := by
  have hreversed : ∀ c ∈ gap.reverse, isBlank c = true := by simpa using h
  simp only [trimEnd, dropEndWhile, List.reverse_append, List.dropWhile_append_of_pos hreversed]

theorem trim_blank_append (h : ∀ c ∈ gap, isBlank c = true) (text : List Char) :
    trim (gap ++ text) = trim text := by
  simp only [trim, List.dropWhile_append_of_pos h]

theorem trim_append_blank (h : ∀ c ∈ gap, isBlank c = true) (text : List Char) :
    trim (text ++ gap) = trim text := by
  simp only [trim, List.dropWhile_append]
  split
  · rename_i hempty
    rw [List.dropWhile_eq_nil_iff.mpr h, List.isEmpty_iff.mp hempty]
  · rw [trimEnd_append_blank h]

/-- A text is its trimmed text between blanks. -/
theorem exists_blank_around_trim (text : List Char) :
    ∃ before after, (∀ c ∈ before, isBlank c = true) ∧ (∀ c ∈ after, isBlank c = true) ∧
      text = before ++ trim text ++ after := by
  have hblank (part : List Char) : ∀ c ∈ part.takeWhile isBlank, isBlank c = true :=
    List.all_eq_true.mp List.all_takeWhile
  refine ⟨text.takeWhile isBlank, (((text.dropWhile isBlank).reverse).takeWhile isBlank).reverse,
    hblank text, by simpa using hblank (text.dropWhile isBlank).reverse, ?_⟩
  rw [List.append_assoc, trim, trimEnd, dropEndWhile, ← List.reverse_append,
    List.takeWhile_append_dropWhile, List.reverse_reverse, List.takeWhile_append_dropWhile]

theorem trim_trimEnd (text : List Char) : trim (trimEnd text) = trim text := by
  have hgap : ∀ c ∈ text.rtakeWhile isBlank, isBlank c = true :=
    fun c hc => List.mem_rtakeWhile_imp hc
  calc
    trim (trimEnd text) = trim (trimEnd text ++ text.rtakeWhile isBlank) :=
      (trim_append_blank hgap _).symm
    _ = trim text := congrArg trim List.rdropWhile_append_rtakeWhile

theorem trim_trim (text : List Char) : trim (trim text) = trim text := by
  obtain ⟨before, after, hbefore, hafter, htext⟩ := exists_blank_around_trim text
  calc
    trim (trim text) = trim (before ++ trim text ++ after) := by
      rw [trim_append_blank hafter, trim_blank_append hbefore]
    _ = trim text := by rw [← htext]

section Trimmed

theorem dropWhile_of_trim_eq (h : trim text = text) : text.dropWhile isBlank = text := by
  apply (List.dropWhile_suffix isBlank).eq_of_length_le
  calc
    text.length = (trim text).length := by rw [h]
    _ ≤ (text.dropWhile isBlank).length := (List.rdropWhile_prefix isBlank _).length_le

theorem trimEnd_of_trim_eq (h : trim text = text) : trimEnd text = text := by
  have hend := h
  rwa [trim, dropWhile_of_trim_eq h] at hend

end Trimmed

section Marks

/-- Nothing is trimmed off a mark without blanks. -/
theorem trimEnd_mark_append (h : ∀ c ∈ mark, isBlank c = false) (rest : List Char) :
    trimEnd (mark ++ rest) = mark ++ trimEnd rest := by
  induction mark with
  | nil => rfl
  | cons c mark ih =>
      obtain ⟨hc, hmark⟩ := List.forall_mem_cons.mp h
      exact (dropEndWhile_append_cons hc [] (mark ++ rest)).trans (congrArg (c :: ·) (ih hmark))

/-- What stands before a mark without blanks keeps its end, and what stands after it its
beginning. -/
theorem trim_append_mark_append (hne : mark ≠ []) (h : ∀ c ∈ mark, isBlank c = false)
    (text rest : List Char) :
    trim (text ++ (mark ++ rest)) = text.dropWhile isBlank ++ (mark ++ trimEnd rest) := by
  obtain ⟨c, others, rfl⟩ := List.exists_cons_of_ne_nil hne
  obtain ⟨hc, hothers⟩ := List.forall_mem_cons.mp h
  rw [trim, List.cons_append, dropWhile_append_cons hc, trimEnd, dropEndWhile_append_cons hc]
  exact congrArg (fun rest => text.dropWhile isBlank ++ c :: rest)
    (trimEnd_mark_append hothers rest)

end Marks

section Terminator

theorem withoutTerminator_congr (h : trim text = trim other) :
    withoutTerminator text = withoutTerminator other := by
  unfold withoutTerminator
  rw [h]

theorem isBlank_semicolon : isBlank ';' = false := by
  decide

theorem dropEndWhile_semicolons (text : List Char) (count : Nat) :
    dropEndWhile (· = ';') (text ++ List.replicate count ';') = dropEndWhile (· = ';') text := by
  simp [dropEndWhile, List.dropWhile_append_of_pos]

theorem dropEndWhile_semicolon_of_getLast? (h : text.getLast? ≠ some ';') :
    dropEndWhile (· = ';') text = text := by
  apply List.rdropWhile_eq_self_iff.mpr
  intro hne hsemicolon
  rw [List.getLast?_eq_some_getLast hne] at h
  exact h (congrArg some (by simpa using hsemicolon))

/-- A value that has no blanks around it and does not end in a semicolon is all that is left of
it, whatever blanks and semicolons come after. -/
theorem withoutTerminator_append (htrim : trim text = text) (hlast : text.getLast? ≠ some ';')
    (hgap : ∀ c ∈ gap, isBlank c = true) (count : Nat) :
    withoutTerminator (text ++ (gap ++ List.replicate count ';')) = text := by
  cases count with
  | zero =>
      rw [withoutTerminator, List.replicate_zero, List.append_nil, trim_append_blank hgap, htrim,
        dropEndWhile_semicolon_of_getLast? hlast, trimEnd_of_trim_eq htrim]
  | succ count =>
      have hfront : ((text ++ gap).dropWhile isBlank).getLast? ≠ some ';' := by
        intro hsemicolon
        have hwhole : (text ++ gap).getLast? = some ';' := by
          rw [← List.takeWhile_append_dropWhile (p := isBlank) (l := text ++ gap),
            List.getLast?_append, hsemicolon]
          rfl
        rw [List.getLast?_append, Option.or_eq_some_iff] at hwhole
        rcases hwhole with hmem | ⟨-, htext⟩
        · exact Bool.false_ne_true
            (isBlank_semicolon.symm.trans (hgap ';' (List.mem_of_getLast? hmem)))
        · exact hlast htext
      have hmark : ∀ c ∈ List.replicate (count + 1) ';', isBlank c = false := by
        intro c hc
        rw [List.eq_of_mem_replicate hc]
        exact isBlank_semicolon
      have hcut := trim_append_mark_append (by simp) hmark (text ++ gap) []
      rw [List.append_nil, List.append_assoc, trimEnd, dropEndWhile_nil, List.append_nil] at hcut
      rw [withoutTerminator, hcut, dropEndWhile_semicolons,
        dropEndWhile_semicolon_of_getLast? hfront]
      exact (trim_append_blank hgap text).trans htrim

end Terminator

end Narrative.Text
