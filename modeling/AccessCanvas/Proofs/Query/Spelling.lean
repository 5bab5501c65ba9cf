import AccessCanvas.Proofs.Query.Written

/-!
The ways to write one clause. Main statement: a selector and a pattern are read as the same statement
with any spelling of the condition between them, and with any white space around it.
-/

namespace AccessCanvas

open Text

theorem Selector.ofText_congr {written other : List Char} (same : trim written = trim other) :
    ofText (.ofList written) = ofText (.ofList other) := by
  simp only [ofText, trimmed, String.toList_ofList, same]

namespace Query

def gap (run : List Char) : List Char :=
  if run = [] then [] else [' ']

section Gap

variable {run : List Char}

theorem gap_of_filled (filled : run ≠ []) : gap run = [' '] :=
  if_neg filled

theorem trim_append_gap (text : List Char) : trim (text ++ gap run) = trim text := by
  by_cases empty : run = []
  · rw [gap, if_pos empty, List.append_nil]
  · rw [gap_of_filled empty, trim_append_of_blank (by decide)]

theorem trim_gap_append (text : List Char) : trim (gap run ++ text) = trim text := by
  by_cases empty : run = []
  · rw [gap, if_pos empty, List.nil_append]
  · rw [gap_of_filled empty, List.singleton_append, trim_cons_of_blank (by decide)]

theorem normalize_gap (blank : ∀ c ∈ run, isBlank c = true) (left right : List Char) :
    normalize (left ++ (run ++ right)) = normalize (left ++ (gap run ++ right)) := by
  by_cases empty : run = []
  · subst empty
    rfl
  · rw [gap_of_filled empty]
    exact normalize_respaced blank empty (List.cons_ne_nil _ _) isBlank_of_mem_space left right

theorem IsPlain.append_gap {left right : List Char} (first : IsPlain left)
    (second : IsPlain right) : IsPlain (left ++ (gap run ++ right)) := by
  by_cases empty : run = []
  · rw [gap, if_pos empty]
    exact first.append second
  · rw [gap_of_filled empty]
    exact first.append_space second

end Gap

theorem isPlain_sign {operator : Operator} (sign : operator.condition.isWorded = false) :
    IsPlain operator.spelling where
  filled := operator.spelling_ne_nil
  normal := normalize_eq_self (isPattern_sign sign).tidy fun c member =>
    (isBoundary_sign sign c member).1
  whole := (isPattern_sign sign).whole

theorem parse_of_isFirst {raw : String} {found : Operator.Found} {entity pattern : List Char}
    (first : found.IsFirst)
    (same : normalize raw.toList = found.before ++ found.operator.spelling ++ found.after)
    (plain : IsPlain (found.before ++ found.operator.spelling ++ found.after))
    (front : trim found.before = trim entity) (before : found.before ≠ [])
    (back : trim found.after = pattern) (after : found.after ≠ []) :
    parse raw = [.make (.ofText (.ofList entity)) found.operator.condition (.ofList pattern)] := by
  have long : minClauseLength ≤ (found.before ++ found.operator.spelling ++ found.after).length := by
    have one := List.length_pos_of_ne_nil before
    have two := List.length_pos_of_ne_nil found.operator.spelling_ne_nil
    have three := List.length_pos_of_ne_nil after
    rw [List.length_append, List.length_append, minClauseLength]
    omega
  have alone := @clauses_intercalate [found.before ++ found.operator.spelling ++ found.after]
    (List.forall_mem_singleton.mpr ⟨plain, long⟩)
  rw [List.intercalate_singleton] at alone
  rw [parse, same, alone, List.map_singleton, Statement.ofClause_of_isFirst first before after,
    Selector.ofText_congr front, back]

theorem isFirst_gap {entity pattern left right : List Char} {operator : Operator}
    (sign : operator.condition.isWorded = false) (absent : Operator.Absent (entity ++ [' ']))
    (final : entity.getLast? ≠ some '!') (next : pattern.head? ≠ some '=') :
    Operator.Found.IsFirst ⟨entity ++ gap left, operator, gap right ++ pattern⟩ := by
  have before : Operator.Absent (entity ++ gap left) ∧
      (entity ++ gap left).getLast? ≠ some '!' := by
    by_cases empty : left = []
    · rw [gap, if_pos empty, List.append_nil]
      exact ⟨fun other inside => absent other (inside.trans (List.prefix_append _ _).isInfix), final⟩
    · rw [gap_of_filled empty]
      exact ⟨absent, by simp⟩
  have after : (gap right ++ pattern).head? ≠ some '=' := by
    by_cases empty : right = []
    · rwa [gap, if_pos empty, List.nil_append]
    · rw [gap_of_filled empty]
      simp
  exact Operator.isFirst_sign sign before.1 before.2 after

section Spelled

variable {entity pattern : List Char} (front : IsPlain entity) (back : IsPlain pattern)
include front back

theorem IsPlain.append_gaps {middle : List Char} (plain : IsPlain middle) (left right : List Char) :
    IsPlain (entity ++ gap left ++ middle ++ (gap right ++ pattern)) := by
  have first : IsPlain (entity ++ (gap left ++ middle)) := front.append_gap plain
  rw [List.append_assoc entity]
  exact first.append_gap back

variable {left right : List Char} (leftBlank : ∀ c ∈ left, isBlank c = true)
  (rightBlank : ∀ c ∈ right, isBlank c = true)
include leftBlank rightBlank

theorem normalize_gaps {middle : List Char} (plain : IsPlain middle) :
    normalize (entity ++ left ++ middle ++ right ++ pattern) =
      entity ++ gap left ++ middle ++ (gap right ++ pattern) := by
  have near := normalize_gap leftBlank entity (middle ++ (right ++ pattern))
  have far := normalize_gap rightBlank (entity ++ gap left ++ middle) pattern
  simp only [List.append_assoc] at near far ⊢
  have whole := (IsPlain.append_gaps front back plain left right).normal
  simp only [List.append_assoc] at whole
  rw [near, far, whole]

theorem parse_spelled_sign {operator : Operator} {raw : String}
    (sign : operator.condition.isWorded = false) (absent : Operator.Absent (entity ++ [' ']))
    (final : entity.getLast? ≠ some '!') (next : pattern.head? ≠ some '=')
    (written : raw.toList = entity ++ left ++ operator.spelling ++ right ++ pattern) :
    parse raw = [.make (.ofText (.ofList entity)) operator.condition (.ofList pattern)] := by
  have plain := isPlain_sign sign
  exact parse_of_isFirst (isFirst_gap sign absent final next)
    (written ▸ normalize_gaps front back leftBlank rightBlank plain)
    (front.append_gaps back plain left right) (trim_append_gap entity) (by simp [front.filled])
    ((trim_gap_append pattern).trans back.trim_eq) (by simp [back.filled])

theorem parse_spelled_word {condition : Condition} {raw : String}
    (worded : condition.isWorded = true) (absent : Operator.Absent (entity ++ [' ']))
    (before : left ≠ []) (after : right ≠ [])
    (written : raw.toList = entity ++ left ++ condition.text.toList ++ right ++ pattern) :
    parse raw = [.make (.ofText (.ofList entity)) condition (.ofList pattern)] := by
  obtain ⟨operator, rfl, spelled⟩ := Statement.exists_operator_of_worded worded
  have plain : IsPlain operator.condition.text.toList :=
    Statement.isPlain_condition operator.condition_ne_unsupported
  have shape : entity ++ gap left ++ operator.condition.text.toList ++ (gap right ++ pattern) =
      entity ++ operator.spelling ++ pattern := by
    rw [gap_of_filled before, gap_of_filled after, spelled]
    simp
  have first : Operator.Found.IsFirst ⟨entity, operator, pattern⟩ :=
    Operator.isFirst_word spelled absent
  exact parse_of_isFirst first
    (shape ▸ written ▸ normalize_gaps front back leftBlank rightBlank plain)
    (shape ▸ front.append_gaps back plain left right) rfl front.filled back.trim_eq back.filled

end Spelled

/-- A clause is read as one statement about its selector and its pattern, whichever spelling of the
condition stands between these and whatever white space around it, as long as the selector does not
hold an operator itself and neither side makes another sign of the one written. -/
theorem parse_spelled (entity pattern left right : String) (front : IsPlain entity.toList)
    (back : IsPlain pattern.toList) (absent : Operator.Absent (entity.toList ++ [' ']))
    (final : entity.toList.getLast? ≠ some '!') (next : pattern.toList.head? ≠ some '=')
    (leftBlank : ∀ c ∈ left.toList, isBlank c = true)
    (rightBlank : ∀ c ∈ right.toList, isBlank c = true) :
    let read (written : String) :=
      (parse (entity ++ left ++ written ++ right ++ pattern)).map fun statement =>
        (statement.selector, statement.condition, statement.pattern)
    (∀ sign ∈ ["=", "==", "==="], read sign = [(.ofText entity, .equals, pattern)]) ∧
    read "!=" = [(.ofText entity, .notEquals, pattern)] ∧
    (left ≠ "" → right ≠ "" →
      read "has" = [(.ofText entity, .has, pattern)] ∧
      read "startswith" = [(.ofText entity, .startsWith, pattern)] ∧
      read "endswith" = [(.ofText entity, .endsWith, pattern)]) := by
  intro read
  have kept : folded pattern = pattern := by
    rw [folded, back.fold_eq, String.ofList_toList]
  have fields : ∀ {written : String} {condition : Condition},
      parse (entity ++ left ++ written ++ right ++ pattern) =
        [.make (.ofText (.ofList entity.toList)) condition (.ofList pattern.toList)] →
      read written = [(.ofText entity, condition, pattern)] := by
    intro written condition parsed
    simp only [read, parsed, List.map_singleton, Statement.make, String.ofList_toList, kept]
  have sign : ∀ operator : Operator, operator.condition.isWorded = false →
      read (.ofList operator.spelling) = [(.ofText entity, operator.condition, pattern)] := by
    intro operator signed
    exact fields (parse_spelled_sign front back leftBlank rightBlank signed absent final next
      (by simp))
  have word : ∀ condition : Condition, condition.isWorded = true → left ≠ "" → right ≠ "" →
      read condition.text = [(.ofText entity, condition, pattern)] := by
    intro condition worded before after
    exact fields (parse_spelled_word front back leftBlank rightBlank worded absent
      (by simpa using before) (by simpa using after) (by simp))
  refine ⟨?_, sign .notEquals rfl, fun before after => ?_⟩
  · exact List.forall_mem_cons.mpr ⟨sign .equals rfl, List.forall_mem_cons.mpr
      ⟨sign .doubleEquals rfl, List.forall_mem_singleton.mpr (sign .tripleEquals rfl)⟩⟩
  · exact ⟨word .has rfl before after, word .startsWith rfl before after,
      word .endsWith rfl before after⟩

/-- With a tab and an ideographic space around the operator, before a pattern that starts with the
word of another one. -/
theorem parse_spelled_wide :
    let read (written : String) :=
      (parse ("all ends" ++ "\t" ++ written ++ "\u3000" ++ "has it")).map fun statement =>
        (statement.selector, statement.condition, statement.pattern)
    IsPlain "all ends".toList ∧ IsPlain "has it".toList ∧
      Operator.Absent ("all ends".toList ++ [' ']) ∧
      read "===" = [(.ofText "all ends", .equals, "has it")] ∧
      read "!=" = [(.ofText "all ends", .notEquals, "has it")] ∧
      read "startswith" = [(.ofText "all ends", .startsWith, "has it")] := by
  have front : IsPlain "all ends".toList := ⟨by decide, by decide +kernel, by decide⟩
  have back : IsPlain "has it".toList := ⟨by decide, by decide +kernel, by decide⟩
  have absent : Operator.Absent ("all ends".toList ++ [' ']) := by
    intro operator
    cases operator <;> decide
  obtain ⟨equals, notEquals, words⟩ := parse_spelled "all ends" "has it" "\t" "\u3000" front back
    absent (by decide) (by decide) (List.all_eq_true.mp (by decide))
    (List.all_eq_true.mp (by decide))
  obtain ⟨-, startsWith, -⟩ := words (by decide) (by decide)
  exact ⟨front, back, absent, equals "===" (by decide), notEquals, startsWith⟩

end Query

end AccessCanvas
