import Narrative.Proofs.Script.Reading

/-!
Statements as they are written. Operators are looked for by kind, and their symbols overlap, so a
line is read rightly only if no other operator is found on it. Main statement: a line that is put
together from names, an operator and a value is read as the statement of these, with any blanks
between the parts and any semicolons at the end.
-/

namespace Narrative.Script

open Text

/-- The characters that operators are written with are not blank. -/
theorem isBlank_of_mem_operatorChars {c : Char} (h : c ∈ ['=', '<', '>', '!']) :
    isBlank c = false := by
  simp only [List.mem_cons, List.not_mem_nil, or_false] at h
  rcases h with rfl | rfl | rfl | rfl <;> decide

namespace Operator

variable {op earlier : Operator}

theorem symbol_ne_nil (op : Operator) : op.symbol.toList ≠ [] := by
  cases op <;> decide

theorem isBlank_symbol (op : Operator) : ∀ c ∈ op.symbol.toList, isBlank c = false := by
  have hsymbol : op.symbol.toList.all (fun c => !isBlank c) = true := by
    cases op <;> decide
  simpa using hsymbol

/-- An operator that is looked for earlier has one of the characters more often. Only `!=` need
not, and it is the only one with a `!` in it. -/
theorem exists_count_lt_of_earlier (h : earlier ∈ searchOrder.takeWhile (· ≠ op)) :
    (earlier = .notEqual ∧ '!' ∉ op.symbol.toList) ∨
      ∃ c ∈ ['=', '<', '>'], op.symbol.toList.count c < earlier.symbol.toList.count c := by
  simp only [List.exists_mem_cons_iff, List.not_mem_nil, false_and, exists_false, or_false]
  revert h
  cases op <;> cases earlier <;> decide

theorem symbol_append_ne_slash (op : Operator) {rest line : List Char} :
    op.symbol.toList ++ rest ≠ '/' :: line := by
  cases op <;> simp [symbol]

/-- The slashes of a comment all stand before the operator. -/
theorem exists_eq_of_slashes (op : Operator) {before rest comment : List Char}
    (h : before ++ (op.symbol.toList ++ rest) = '/' :: '/' :: comment) :
    ∃ more, before = '/' :: '/' :: more := by
  match before with
  | [] => exact absurd h op.symbol_append_ne_slash
  | [_] => exact absurd (List.cons.inj h).2 op.symbol_append_ne_slash
  | _ :: _ :: more =>
      simp only [List.cons_append, List.cons.injEq] at h
      obtain ⟨rfl, rfl, -⟩ := h
      exact ⟨more, rfl⟩

theorem searchOrder_eq (op : Operator) :
    searchOrder =
      searchOrder.takeWhile (· ≠ op) ++ op :: (searchOrder.dropWhile (· ≠ op)).tail := by
  cases op <;> decide

end Operator

section Operators

variable {before rest : List Char}

/-- Before an operator that begins a line, no other is found. -/
theorem findOperator?_symbol_append (op : Operator) (hrest : ∀ c ∈ ['=', '<', '>'], c ∉ rest) :
    findOperator? (op.symbol.toList ++ rest) = some (op, [], rest) := by
  have hcount : ∀ c ∈ ['=', '<', '>'], (op.symbol.toList ++ rest).count c =
      op.symbol.toList.count c := by
    intro c hc
    rw [List.count_append, List.count_eq_zero.mpr (hrest c hc), Nat.add_zero]
  apply List.findSome?_eq_some_iff.mpr
  refine ⟨_, op, _, op.searchOrder_eq, by rw [cut?_append_self]; rfl, ?_⟩
  intro earlier hearlier
  rw [Option.map_eq_none_iff]
  rcases Operator.exists_count_lt_of_earlier hearlier with ⟨rfl, hmark⟩ | ⟨c, hc, hlt⟩
  · have hnone : cut? ['!', '='] rest = none := by
      apply cut?_of_count_lt '='
      rw [List.count_eq_zero.mpr (hrest '=' (by simp))]
      decide
    exact (cut?_append_of_notMem hmark ['='] rest).trans (by rw [hnone]; rfl)
  · apply cut?_of_count_lt c
    rwa [hcount c hc]

/-- A text without the characters of operators only stands before the operator. -/
theorem findOperator?_append (hbefore : ∀ c ∈ ['=', '<', '>', '!'], c ∉ before)
    (line : List Char) :
    findOperator? (before ++ line) =
      (findOperator? line).map fun found => (found.1, before ++ found.2.1, found.2.2) := by
  unfold findOperator?
  rw [List.map_findSome?]
  congr 1
  funext op
  obtain ⟨c, symbol, hsymbol, hc⟩ : ∃ c symbol, op.symbol.toList = c :: symbol ∧
      c ∈ ['=', '<', '>', '!'] := by
    cases op <;> exact ⟨_, _, rfl, by decide⟩
  rw [Function.comp_apply, hsymbol, cut?_append_of_notMem (hbefore c hc), Option.map_map,
    Option.map_map]
  rfl

end Operators

section Paths

variable {c : Char} {line path : List Char}

theorem pathNames_blank_cons (h : isBlank c = true) (path : List Char) :
    pathNames (c :: path) = pathNames path := by
  have hc : c ≠ '.' := by
    rintro rfl
    exact absurd h (by decide)
  obtain ⟨piece, pieces, hsplit⟩ := List.exists_cons_of_ne_nil (split_ne_nil '.' path)
  have htrim : trim (c :: piece) = trim piece :=
    trim_blank_append (List.forall_mem_singleton.mpr h) piece
  simp only [pathNames, split, if_neg hc, hsplit, consHead, List.map_cons, htrim]

/-- The blanks before a path are blanks before its first name. -/
theorem pathNames_dropWhile (path : List Char) :
    pathNames (path.dropWhile isBlank) = pathNames path := by
  induction path with
  | nil => rfl
  | cons c path ih =>
      by_cases hc : isBlank c = true
      · rw [List.dropWhile_cons_of_pos hc, ih, pathNames_blank_cons hc]
      · rw [List.dropWhile_cons_of_neg hc]

/-- A path that begins like a comment has a first name that does. -/
theorem exists_pathNames_eq_of_slashes (path : List Char) :
    ∃ name names,
      pathNames ('/' :: '/' :: path) = String.ofList ('/' :: '/' :: name) :: names := by
  obtain ⟨piece, pieces, hsplit⟩ := List.exists_cons_of_ne_nil (split_ne_nil '.' path)
  have hslashes : ∀ c ∈ ['/', '/'], isBlank c = false := by
    simp only [List.forall_mem_cons, List.not_mem_nil, false_implies, implies_true, and_true]
    decide
  have htrim : trim ('/' :: '/' :: piece) = '/' :: '/' :: trimEnd piece :=
    trim_append_mark_append (List.cons_ne_nil '/' ['/']) hslashes [] piece
  refine ⟨trimEnd piece, pieces.map fun name => String.ofList (trim name), ?_⟩
  simp [pathNames, split, hsplit, consHead, htrim]

theorem isIgnored_eq_true_iff :
    isIgnored line = true ↔ trim line = [] ∨ ∃ rest, trim line = '/' :: '/' :: rest := by
  unfold isIgnored
  split
  · simp_all
  · rename_i rest h
    simp [h]
  · rename_i hnil hcomment
    simp only [Bool.false_eq_true, false_iff, not_or, not_exists]
    exact ⟨hnil, hcomment⟩

end Paths

theorem notMem_of_all_blank {gap : List Char} {c : Char} (hgap : gap.all isBlank = true)
    (hc : isBlank c = false) : c ∉ gap :=
  fun hmem => Bool.false_ne_true (hc.symm.trans (List.all_eq_true.mp hgap c hmem))

/-- A text with blanks on both sides. -/
structure Spaced where
  before : List Char
  text : List Char
  after : List Char
  before_blank : before.all isBlank = true
  after_blank : after.all isBlank = true

namespace Spaced

def chars (s : Spaced) : List Char :=
  s.before ++ s.text ++ s.after

variable {s : Spaced} {c : Char}

theorem trim_chars (s : Spaced) : trim s.chars = trim s.text := by
  rw [chars, trim_append_blank (List.all_eq_true.mp s.after_blank),
    trim_blank_append (List.all_eq_true.mp s.before_blank)]

/-- Only the text has characters that are not blank. -/
theorem notMem_chars (hc : isBlank c = false) (h : c ∉ s.text) : c ∉ s.chars := by
  simp [chars, h, notMem_of_all_blank s.before_blank hc, notMem_of_all_blank s.after_blank hc]

end Spaced

/-- Whether a text can stand as a name on a path: something without blanks around it, dots or the
characters of operators. -/
structure IsName (name : List Char) : Prop where
  ne_nil : name ≠ []
  trimmed : trim name = name
  plain : ∀ c ∈ ['.', '=', '<', '>', '!'], c ∉ name

/-- A statement as it is written: names, an operator and a value with any blanks around each,
semicolons and blanks. The blanks around the operator are those after the last name and before the
value. The first name does not begin a comment, the value does not end in a semicolon, and no
operator begins in it. -/
structure Writing where
  names : List Spaced
  operator : Operator
  value : Spaced
  semicolons : Nat
  ending : List Char
  names_ne_nil : names ≠ []
  isName : ∀ name ∈ names, IsName name.text
  not_comment : ∀ name ∈ names.head?, ¬ ['/', '/'] <+: name.text
  value_trimmed : trim value.text = value.text
  value_unterminated : value.text.getLast? ≠ some ';'
  value_plain : ∀ c ∈ ['=', '<', '>'], c ∉ value.text
  ending_blank : ending.all isBlank = true

namespace Writing

variable {c : Char}

/-- The names with dots between them. -/
def path (w : Writing) : List Char :=
  ['.'].intercalate (w.names.map Spaced.chars)

/-- All that comes after the operator. -/
def rest (w : Writing) : List Char :=
  w.value.chars ++ (List.replicate w.semicolons ';' ++ w.ending)

def line (w : Writing) : List Char :=
  w.path ++ (w.operator.symbol.toList ++ w.rest)

/-- What is written. -/
def statement (w : Writing) : Statement where
  path := w.names.map fun name => String.ofList name.text
  operator := w.operator
  value := literal w.value.text

theorem pathNames_path (w : Writing) : pathNames w.path = w.statement.path := by
  have hdot : ∀ piece ∈ w.names.map Spaced.chars, '.' ∉ piece := by
    intro piece hpiece
    obtain ⟨name, hname, rfl⟩ := List.mem_map.mp hpiece
    exact Spaced.notMem_chars (by decide) ((w.isName name hname).plain '.' (by simp))
  rw [pathNames, path, split_eq_splitOn, List.splitOn_intercalate '.' hdot
    (by simpa using w.names_ne_nil), List.map_map]
  apply List.map_congr_left
  intro name hname
  rw [Function.comp_apply, name.trim_chars, (w.isName name hname).trimmed]

/-- The names are read without the blanks before the first, too. -/
theorem pathNames_dropWhile_path (w : Writing) :
    pathNames (w.path.dropWhile isBlank) = w.statement.path := by
  rw [pathNames_dropWhile, w.pathNames_path]

theorem notMem_path (w : Writing) : ∀ c ∈ ['=', '<', '>', '!'], c ∉ w.path := by
  intro c hc
  apply notMem_intercalate
  · intro hdot
    rw [List.mem_singleton.mp hdot] at hc
    exact absurd hc (by decide)
  · intro piece hpiece
    obtain ⟨name, hname, rfl⟩ := List.mem_map.mp hpiece
    exact Spaced.notMem_chars (isBlank_of_mem_operatorChars hc)
      ((w.isName name hname).plain c (List.mem_cons_of_mem _ hc))

theorem notMem_rest (w : Writing) : ∀ c ∈ ['=', '<', '>'], c ∉ w.rest := by
  intro c hc
  have hblank : isBlank c = false :=
    isBlank_of_mem_operatorChars (List.mem_append_left ['!'] hc)
  have hvalue : c ∉ w.value.chars := Spaced.notMem_chars hblank (w.value_plain c hc)
  have hending : c ∉ w.ending := notMem_of_all_blank w.ending_blank hblank
  have hsemicolon : c ≠ ';' := by
    rintro rfl
    exact absurd hc (by decide)
  simp [rest, hvalue, hending, hsemicolon]

/-- What comes after the operator is the value, once the blanks and the semicolons are off. -/
theorem withoutTerminator_rest (w : Writing) :
    withoutTerminator (trimEnd w.rest) = w.value.text := by
  have htrim : trim (trimEnd w.rest) =
      trim (w.value.text ++ (w.value.after ++ List.replicate w.semicolons ';')) := by
    rw [trim_trimEnd, rest, Spaced.chars, ← List.append_assoc,
      trim_append_blank (List.all_eq_true.mp w.ending_blank), List.append_assoc,
      List.append_assoc, trim_blank_append (List.all_eq_true.mp w.value.before_blank)]
  rw [withoutTerminator_congr htrim, withoutTerminator_append w.value_trimmed
    w.value_unterminated (List.all_eq_true.mp w.value.after_blank)]

theorem trim_line (w : Writing) :
    trim w.line =
      w.path.dropWhile isBlank ++ (w.operator.symbol.toList ++ trimEnd w.rest) :=
  trim_append_mark_append w.operator.symbol_ne_nil w.operator.isBlank_symbol w.path w.rest

/-- Only the first name could make a comment of the line. -/
theorem isIgnored_line (w : Writing) : isIgnored w.line = false := by
  rw [Bool.eq_false_iff]
  intro hignored
  rcases isIgnored_eq_true_iff.mp hignored with hnil | ⟨comment, hcomment⟩
  · rw [w.trim_line] at hnil
    exact w.operator.symbol_ne_nil (List.append_eq_nil_iff.mp (List.append_eq_nil_iff.mp hnil).2).1
  · rw [w.trim_line] at hcomment
    obtain ⟨more, hmore⟩ := w.operator.exists_eq_of_slashes hcomment
    obtain ⟨name, names, hslashes⟩ := exists_pathNames_eq_of_slashes more
    obtain ⟨first, others, hnames⟩ := List.exists_cons_of_ne_nil w.names_ne_nil
    have hpath := w.pathNames_dropWhile_path
    rw [hmore, hslashes, statement, hnames, List.map_cons] at hpath
    apply w.not_comment first (by rw [hnames]; rfl)
    rw [← String.ofList_injective (List.cons.inj hpath).1]
    exact ⟨name, rfl⟩

end Writing

/-- A statement is read as it is written. -/
theorem Statement.ofLine_line (w : Writing) : Statement.ofLine w.line = .ok (some w.statement) := by
  have hbefore : ∀ c ∈ ['=', '<', '>', '!'], c ∉ w.path.dropWhile isBlank :=
    fun c hc hmem => w.notMem_path c hc ((List.dropWhile_sublist _).mem hmem)
  have hafter : ∀ c ∈ ['=', '<', '>'], c ∉ trimEnd w.rest :=
    fun c hc hmem => w.notMem_rest c hc ((List.rdropWhile_prefix _ _).mem hmem)
  have hnonempty : "" ∉ w.statement.path := by
    intro hmem
    obtain ⟨name, hname, hempty⟩ := List.mem_map.mp hmem
    exact (w.isName name hname).ne_nil (String.ofList_injective hempty)
  refine ofLine_eq_some_iff.mpr ⟨w.isIgnored_line, ofTrimmed_eq_ok_iff.mpr
    ⟨w.path.dropWhile isBlank, trimEnd w.rest, ?_, w.pathNames_dropWhile_path.symm, hnonempty, ?_⟩⟩
  · rw [w.trim_line, findOperator?_append hbefore, findOperator?_symbol_append _ hafter]
    simp [Writing.statement]
  · rw [w.withoutTerminator_rest, Writing.statement]

/-- A line with blanks around all of its parts. -/
theorem Statement.ofLine_line_at_spaced :
    Statement.ofLine " Hero . Stats\n.hp\t>=  !5 ;; ".toList =
      .ok (some { path := ["Hero", "Stats", "hp"], operator := .greaterOrEqual,
                  value := .text "!5" }) := by
  let w : Writing :=
    { names := [⟨[' '], "Hero".toList, [' '], by decide, by decide⟩,
        ⟨[' '], "Stats".toList, ['\n'], by decide, by decide⟩,
        ⟨[], "hp".toList, ['\t'], by decide, by decide⟩]
      operator := .greaterOrEqual
      value := ⟨[' ', ' '], "!5".toList, [' '], by decide, by decide⟩
      semicolons := 2
      ending := [' ']
      names_ne_nil := by decide
      isName := by
        intro name hname
        simp only [List.mem_cons, List.not_mem_nil, or_false] at hname
        rcases hname with rfl | rfl | rfl <;> exact ⟨by decide, by decide, by simp⟩
      not_comment := by decide
      value_trimmed := by decide
      value_unterminated := by decide
      value_plain := by simp
      ending_blank := by decide }
  have hline : w.line = " Hero . Stats\n.hp\t>=  !5 ;; ".toList := by decide
  have hstatement : w.statement =
      { path := ["Hero", "Stats", "hp"], operator := .greaterOrEqual, value := .text "!5" } := by
    decide
  rw [← hline, ← hstatement]
  exact Statement.ofLine_line w

end Narrative.Script
