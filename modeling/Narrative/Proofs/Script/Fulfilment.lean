import Narrative.Proofs.Pointwise
import Narrative.Proofs.Script.Assignment
import Narrative.Proofs.Script.Compound

/-!
What is assigned holds. A line is read in one way, be it an assignment or a condition; so after
some lines have been carried out, the guard that joins them holds, provided that none of them
undoes what another one did. That needs every literal to be equal to itself, of which a number
that is none would be the exception.
-/

namespace Narrative

namespace Binary64

theorem equal_self {x : Binary64} (h : x ≠ .nan) : x.equal x = true := by
  cases x with
  | nan => exact absurd rfl h
  | infinite negative => simp [equal]
  | finite negative significand exponent canonical => cases significand <;> simp [equal]

theorem ofMagnitude_ne_nan (negative : Bool) (significand exponent : Nat) :
    ofMagnitude negative significand exponent ≠ .nan := by
  unfold ofMagnitude
  split <;> simp

theorem nearest_ne_nan (negative : Bool) (num den : Nat) : nearest negative num den ≠ .nan := by
  unfold nearest
  dsimp only
  split
  · exact ofMagnitude_ne_nan negative _ _
  · exact ofMagnitude_ne_nan negative _ _

end Binary64

theorem Decimal.toBinary64_ne_nan (d : Decimal) : d.toBinary64 ≠ .nan := by
  unfold toBinary64
  split_ifs
  · simp [Binary64.zero]
  · simp [Binary64.zero]
  · simp
  · exact Binary64.nearest_ne_nan d.negative _ _
  · exact Binary64.nearest_ne_nan d.negative _ _

namespace Value

variable {v : Value}

theorem equal_self (h : v ≠ .number .nan) : v.equal v = true := by
  cases v with
  | bool b => simp [equal]
  | number x => exact Binary64.equal_self fun heq => h (congrArg number heq)
  | text s => simp [equal]

theorem looselyEqual_self (h : v ≠ .number .nan) : v.looselyEqual v = true := by
  apply equal_self
  cases v with
  | text s =>
      simp only [normalized]
      split_ifs <;> simp
  | _ => exact h

end Value

namespace Script

section Literals

variable {text : List Char}

theorem hexadecimal?_ne_nan (text : List Char) : hexadecimal? text ≠ some .nan := by
  unfold hexadecimal?
  split
  · dsimp only
    split
    · exact fun heq => Binary64.nearest_ne_nan _ _ _ (Option.some.inj heq)
    · simp
  · simp

theorem number?_ne_nan (text : List Char) : number? text ≠ some .nan := by
  intro h
  rcases Option.or_eq_some_iff.mp h with hdecimal | ⟨-, hother⟩
  · obtain ⟨d, -, hd⟩ := Option.map_eq_some_iff.mp hdecimal
    exact d.toBinary64_ne_nan hd
  · rcases Option.or_eq_some_iff.mp hother with hhexadecimal | ⟨-, hinfinity⟩
    · exact hexadecimal?_ne_nan text hhexadecimal
    · unfold namedInfinity? at hinfinity
      split_ifs at hinfinity <;> simp at hinfinity

/-- No literal writes a number that is none. -/
theorem literal_ne_nan (raw : List Char) : literal raw ≠ .number .nan := by
  unfold literal
  dsimp only
  split_ifs
  · simp
  · simp
  · split
    · simp
    · split
      · rename_i x hx
        rintro ⟨rfl⟩
        exact number?_ne_nan _ hx
      · simp

end Literals

section Lines

variable {line : List Char} {s : Statement}

theorem Statement.path_ne_nil_of_ofLine (h : ofLine line = .ok (some s)) : s.path ≠ [] := by
  obtain ⟨before, rest, -, hpath, -, -⟩ := ofTrimmed_eq_ok_iff.mp (ofLine_eq_some_iff.mp h).2
  simp [hpath, pathNames, Text.split_ne_nil]

theorem Statement.value_ne_nan_of_ofLine (h : ofLine line = .ok (some s)) :
    s.value ≠ .number .nan := by
  obtain ⟨before, rest, -, -, -, hvalue⟩ := ofTrimmed_eq_ok_iff.mp (ofLine_eq_some_iff.mp h).2
  rw [hvalue]
  exact literal_ne_nan (Text.withoutTerminator rest)

end Lines

section Carrying

variable {said : List Statement} {s : Statement} {q : List String}

/-- Whether the variable of one statement is neither that of another nor above or below it. -/
def Statement.Apart (s other : Statement) : Prop :=
  ¬ s.path <+: other.path ∧ ¬ other.path <+: s.path

theorem get?_setIn_self (h : s.path ≠ []) (scope : Scope) :
    (s.setIn scope).get? s.path = some s.value := by
  rw [Statement.setIn, Scope.get?_set scope h, if_pos rfl]

theorem get?_setIn_of_apart {other : Statement} (h : s.Apart other) (scope : Scope) :
    (other.setIn scope).get? s.path = scope.get? s.path := by
  have hother : other.path ≠ [] := fun heq => h.2 (heq ▸ List.nil_prefix)
  have hne : s.path ≠ other.path := fun heq => h.1 (heq ▸ List.prefix_rfl)
  rw [Statement.setIn, Scope.get?_set scope hother, if_neg hne, if_neg (not_or.mpr h)]

theorem get?_foldl_setIn_of_apart (h : ∀ other ∈ said, s.Apart other) (scope : Scope) :
    (said.foldl Statement.setIn scope).get? s.path = scope.get? s.path := by
  induction said generalizing scope with
  | nil => rfl
  | cons first said ih =>
      obtain ⟨hfirst, hothers⟩ := List.forall_mem_cons.mp h
      rw [List.foldl_cons, ih hothers, get?_setIn_of_apart hfirst]

/-- Statements that are apart from each other do not undo each other. -/
theorem get?_foldl_setIn (hapart : said.Pairwise Statement.Apart) (hpath : s.path ≠ [])
    (hmem : s ∈ said) (scope : Scope) :
    (said.foldl Statement.setIn scope).get? s.path = some s.value := by
  induction said generalizing scope with
  | nil => cases hmem
  | cons first said ih =>
      obtain ⟨hfirst, hothers⟩ := List.pairwise_cons.mp hapart
      rcases List.mem_cons.mp hmem with rfl | hmem
      · rw [List.foldl_cons, get?_foldl_setIn_of_apart hfirst, get?_setIn_self hpath]
      · exact ih hothers hmem _

end Carrying

section Lines

variable {lines : List (List Char)} {said : List Statement} {before after margin : List Char}

theorem statements_of_forall₂
    (h : List.Forall₂ (fun line s => Statement.ofLine line = .ok (some s)) lines said) :
    statements lines = .ok said := by
  have hread : lines.mapM Statement.ofLine = .ok (said.map some) :=
    Outcome.mapM_eq_ok_iff.mpr (List.forall₂_map_right_iff.mpr h)
  rw [statements, hread]
  simp [Except.map, List.reduceOption]

/-- Whether a text is blank, and all on one line. -/
def IsGap (gap : List Char) : Prop :=
  ∀ c ∈ gap, isBlank c = true ∧ c ≠ '\n'

instance (gap : List Char) : Decidable (IsGap gap) :=
  List.decidableBAll _ gap

theorem isGap_nil : IsGap [] := by
  simp [IsGap]

theorem IsGap.notMem {gap : List Char} (h : IsGap gap) :
    '\n' ∉ gap ∧ '&' ∉ gap ∧ '|' ∉ gap := by
  refine ⟨fun hmem => (h _ hmem).2 rfl, fun hmem => ?_, fun hmem => ?_⟩
  · exact absurd (h _ hmem).1 (by decide)
  · exact absurd (h _ hmem).1 (by decide)

/-- A line is read as a condition with gaps on its two sides, too. -/
theorem conditionOf_between_gaps {line : List Char} {s : Statement} (hbefore : IsGap before)
    (hafter : IsGap after) (hline : '\n' ∉ line) (h : Statement.ofLine line = .ok (some s)) :
    conditionOf (before ++ line ++ after) = .ok (some s) := by
  apply conditionOf_of_trim_eq _ _ h
  · simp [hbefore.notMem, hafter.notMem, hline]
  · rw [Text.trim_append_blank fun c hmem => (hafter c hmem).1,
      Text.trim_blank_append fun c hmem => (hbefore c hmem).1]

/-- Lines that are joined by `&&`, with gaps around it, are read as conditions one by one. -/
theorem conditions_splitDoubled_intercalate (hbefore : IsGap before) (hafter : IsGap after)
    (hmargin : IsGap margin) (hne : lines ≠ [])
    (hlines : ∀ line ∈ lines, '\n' ∉ line ∧ '&' ∉ line)
    (h : List.Forall₂ (fun line s => Statement.ofLine line = .ok (some s)) lines said) :
    conditions (Text.splitDoubled '&'
      (margin ++ (before ++ ['&', '&'] ++ after).intercalate lines)) = .ok said := by
  induction h generalizing margin with
  | nil => exact absurd rfl hne
  | @cons line s rest others hline hrest ih =>
      obtain ⟨⟨hfeed, hand⟩, hothers⟩ := List.forall_mem_cons.mp hlines
      cases hrest with
      | nil =>
          have hpart : '&' ∉ margin ++ line := by simp [hmargin.notMem, hand]
          have hread : conditionOf (margin ++ line ++ []) = .ok (some s) :=
            conditionOf_between_gaps hmargin isGap_nil hfeed hline
          rw [List.append_nil] at hread
          rw [List.intercalate_singleton, Text.splitDoubled_of_notMem hpart, conditions, hread]
          rfl
      | @cons next _ rest _ _ _ =>
          have hpart : '&' ∉ margin ++ line ++ before := by
            simp [hmargin.notMem, hbefore.notMem, hand]
          have htext :
              margin ++ (before ++ ['&', '&'] ++ after).intercalate (line :: next :: rest) =
              (margin ++ line ++ before) ++ '&' :: '&' ::
                (after ++ (before ++ ['&', '&'] ++ after).intercalate (next :: rest)) := by
            simp [List.intercalate_cons_cons]
          rw [htext, Text.splitDoubled_append hpart, conditions,
            conditionOf_between_gaps hmargin hbefore hfeed hline,
            ih hafter (by simp) hothers]
          rfl

end Lines

section Fulfilment

variable {lines : List String} {said : List Statement} {store : Store}

/-- Lines that are statements can be carried out as a text, one after another. -/
theorem assignments_intercalate
    (hread : List.Forall₂ (fun line s => Statement.ofLine line.toList = .ok (some s)) lines said)
    (hlines : ∀ line ∈ lines, '\n' ∉ line.toList) (hne : lines ≠ []) :
    assignments ("\n".intercalate lines) = .ok (said.foldl Statement.setIn .empty) := by
  have hparts : lines.map String.toList ≠ [] := by simpa using hne
  have hsaid : statements (lines.map String.toList) = .ok said :=
    statements_of_forall₂ (List.forall₂_map_left_iff.mpr hread)
  rw [assignments_eq, String.toList_intercalate]
  change (statements (Text.lines (['\n'].intercalate (lines.map String.toList)))).map _ = _
  rw [Text.lines_intercalate (by simpa using hlines) hparts, hsaid]
  rfl

/-- The guard that joins some lines asks for what the lines say. -/
theorem guardConditions_intercalate {before after : String}
    (hread : List.Forall₂ (fun line s => Statement.ofLine line.toList = .ok (some s)) lines said)
    (hlines : ∀ line ∈ lines, '\n' ∉ line.toList ∧ '&' ∉ line.toList ∧ '|' ∉ line.toList)
    (hbefore : IsGap before.toList) (hafter : IsGap after.toList) (hne : lines ≠ []) :
    guardConditions ((before ++ "&&" ++ after).intercalate lines) = .ok said := by
  have hor : '|' ∉ ((before ++ "&&" ++ after).intercalate lines).toList := by
    rw [String.toList_intercalate]
    apply Text.notMem_intercalate
    · simp [hbefore.notMem, hafter.notMem]
    · simpa using fun line hmem => (hlines line hmem).2.2
  have hparts : ∀ part ∈ lines.map String.toList, '\n' ∉ part ∧ '&' ∉ part := by
    simpa using fun line hmem => ⟨(hlines line hmem).1, (hlines line hmem).2.1⟩
  have hcut := conditions_splitDoubled_intercalate hbefore hafter isGap_nil (by simpa using hne)
    hparts (List.forall₂_map_left_iff.mpr hread)
  rw [guardConditions, guardParts_of_notMem_or hor, String.toList_intercalate]
  simpa using hcut

theorem current_assign_foldl_setIn (hapart : said.Pairwise Statement.Apart) (store : Store) :
    (store.assign (said.foldl Statement.setIn .empty)).current =
      said.foldl Statement.setIn store.current := by
  have hlater : said.Pairwise fun earlier later =>
      ¬ (earlier.path <+: later.path ∧ earlier.path ≠ later.path) :=
    hapart.imp fun h hbegins => h.1 hbegins.1
  rw [Store.assign, merge_foldl_setIn store.current (by simp [Scope.get?_empty]) hlater,
    Scope.merge_empty]

/-- What statements have assigned holds, if they are apart from each other. -/
theorem holdsIn_of_current (hapart : said.Pairwise Statement.Apart) {scope : Scope}
    (hcurrent : store.current = said.foldl Statement.setIn scope) {s : Statement} (hmem : s ∈ said)
    (hpath : s.path ≠ []) (hvalue : s.value ≠ .number .nan) : s.holdsIn store = true := by
  have hget : store.get? s.path = some s.value := by
    rw [Store.get?, hcurrent, get?_foldl_setIn hapart hpath hmem]
  simp only [Statement.holdsIn, hget, Value.looselyEqual_self hvalue]

theorem Connective.holds_of_forall (connective : Connective)
    (h : ∀ s ∈ said, s.holdsIn store = true) : connective.holds said store = true := by
  cases said with
  | nil => cases connective <;> rfl
  | cons s said =>
      cases connective with
      | all => simpa [holds] using h
      | any => simp [holds, h s]

/-- Lines that are statements, of which none undoes another, can be carried out as a text; and after
that the guard holds that joins the same lines by `&&`, whatever the variables were before. There
may be a gap on each side of the `&&`. -/
theorem guardHolds_of_assigned {before after : String} (store : Store)
    (hread : List.Forall₂ (fun line s => Statement.ofLine line.toList = .ok (some s)) lines said)
    (hlines : ∀ line ∈ lines, '\n' ∉ line.toList ∧ '&' ∉ line.toList ∧ '|' ∉ line.toList)
    (hapart : said.Pairwise fun s other => ¬ s.path <+: other.path ∧ ¬ other.path <+: s.path)
    (hbefore : IsGap before.toList) (hafter : IsGap after.toList) (hne : lines ≠ []) :
    ∃ gathered, assignments ("\n".intercalate lines) = .ok gathered ∧
      guardHolds ((before ++ "&&" ++ after).intercalate lines) (store.assign gathered) =
        .ok true := by
  refine ⟨said.foldl Statement.setIn .empty,
    assignments_intercalate hread (fun line hmem => (hlines line hmem).1) hne, ?_⟩
  have hcurrent := current_assign_foldl_setIn hapart store
  rw [guardHolds_eq, guardConditions_intercalate hread hlines hbefore hafter hne]
  apply congrArg Except.ok
  apply Connective.holds_of_forall
  intro s hmem
  obtain ⟨line, -, hline⟩ := exists_of_forall₂_of_mem hread hmem
  exact holdsIn_of_current hapart hcurrent hmem (Statement.path_ne_nil_of_ofLine hline)
    (Statement.value_ne_nan_of_ofLine hline)

end Fulfilment

/-- What is set in the evening: a lock in place of the one with a key, and two things about the
hall. -/
def eveningLines : List String :=
  ["Door.Lock = \"iron\";", " Hall . Lit>true ", "\tHall.Guests != 0x10;;"]

/-- None of it holds before, and all of it after, whatever operators the lines are written with. -/
theorem guardHolds_of_assigned_of_evening :
    ∃ gathered, assignments ("\n".intercalate eveningLines) = .ok gathered ∧
      guardHolds ((" " ++ "&&" ++ " ").intercalate eveningLines) (doorStore.assign gathered) =
        .ok true ∧
      guardHolds ((" " ++ "||" ++ " ").intercalate eveningLines) doorStore = .ok false := by
  have hread : List.Forall₂ (fun line s => Statement.ofLine line.toList = .ok (some s))
      eveningLines
      [⟨["Door", "Lock"], .assign, .text "iron"⟩, ⟨["Hall", "Lit"], .greater, .bool true⟩,
        ⟨["Hall", "Guests"], .notEqual, .number (.ofInt 16)⟩] :=
    .cons (by decide +kernel) (.cons (by decide +kernel) (.cons (by decide +kernel) .nil))
  have hgap : IsGap " ".toList := by decide
  obtain ⟨gathered, hgathered, hholds⟩ := guardHolds_of_assigned doorStore hread
    (by decide +kernel) (by decide +kernel) hgap hgap (by decide)
  exact ⟨gathered, hgathered, hholds, by decide +kernel⟩

end Script

end Narrative
