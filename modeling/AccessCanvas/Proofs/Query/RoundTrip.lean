import AccessCanvas.Proofs.Query.Clause
import AccessCanvas.Proofs.Query.Operator

/-!
Queries written out and read again. Main statements: the statements that come back are exactly the
canonical ones, and every statement that was read is canonical.
-/

namespace AccessCanvas

open Text
open Query (IsPlain)

/-- A selector that is read back from where it stands, before the condition. -/
inductive Selector.IsCanonical (condition : Condition) : Selector → Prop
  | known (key : Attribute) : IsCanonical condition (.known key)
  | unsupported {text : String} (plain : IsPlain text.toList)
      (unknown : text ≠ "name" ∧ text ≠ "tenant") (absent : Operator.Absent text.toList)
      (spaced : condition.isWorded = true → Operator.Absent (text.toList ++ [' '])) :
      IsCanonical condition (.unsupported text)

structure Statement.IsCanonical (statement : Statement) : Prop where
  supported : ∀ text, statement.condition ≠ .unsupported text
  pattern : IsPlain statement.pattern.toList
  selector : statement.selector.IsCanonical statement.condition

namespace Selector

variable {selector : Selector} {condition : Condition}

theorem IsCanonical.isPlain (canonical : selector.IsCanonical condition) :
    IsPlain selector.text.toList := by
  cases canonical with
  | known key => cases key <;> exact ⟨by decide, by decide +kernel, by decide⟩
  | unsupported plain => exact plain

theorem IsCanonical.absent_text (canonical : selector.IsCanonical condition) :
    Operator.Absent selector.text.toList := by
  cases canonical with
  | known key => cases key <;> intro operator <;> cases operator <;> decide
  | unsupported _ _ absent => exact absent

theorem IsCanonical.absent_space (canonical : selector.IsCanonical condition)
    (worded : condition.isWorded = true) : Operator.Absent (selector.text.toList ++ [' ']) := by
  cases canonical with
  | known key => cases key <;> intro operator <;> cases operator <;> decide
  | unsupported _ _ _ spaced => exact spaced worded

theorem ofText_eq {written : List Char} (plain : IsPlain (trim written)) :
    ofText (.ofList written) =
      if String.ofList (trim written) = "name" then .known .name
      else if String.ofList (trim written) = "tenant" then .known .tenant
      else .unsupported (.ofList (trim written)) := by
  have name : folded (trimmed (.ofList written)) = .ofList (trim written) := by
    simp [folded, trimmed, plain.fold_eq]
  simp only [ofText, name]

theorem ofText_of_trim {written : List Char} (canonical : selector.IsCanonical condition)
    (same : trim written = selector.text.toList) : ofText (.ofList written) = selector := by
  rw [ofText_eq (same ▸ canonical.isPlain), same, String.ofList_toList]
  cases canonical with
  | known key => cases key <;> decide
  | @unsupported text _ unknown =>
      change (if text = "name" then Selector.known .name
        else if text = "tenant" then .known .tenant else .unsupported text) = .unsupported text
      rw [if_neg unknown.1, if_neg unknown.2]

theorem isCanonical_ofText {written : List Char} (plain : IsPlain (trim written))
    (absent : Operator.Absent (trim written))
    (spaced : condition.isWorded = true → Operator.Absent (trim written ++ [' '])) :
    (ofText (.ofList written)).IsCanonical condition := by
  rw [ofText_eq plain]
  by_cases isName : String.ofList (trim written) = "name"
  · rw [if_pos isName]
    exact .known _
  · rw [if_neg isName]
    by_cases isTenant : String.ofList (trim written) = "tenant"
    · rw [if_pos isTenant]
      exact .known _
    · rw [if_neg isTenant]
      refine .unsupported ?_ ⟨isName, isTenant⟩ ?_ ?_
      all_goals rwa [String.toList_ofList]

end Selector

namespace Statement

theorem pattern_make (selector : Selector) (condition : Condition) (text : List Char) :
    (make selector condition (.ofList text)).pattern = .ofList (fold text) := by
  simp [make, Text.folded]

theorem ofClause_of_isFirst {found : Operator.Found} (first : found.IsFirst)
    (before : found.before ≠ []) (after : found.after ≠ []) :
    ofClause (found.before ++ found.operator.spelling ++ found.after) =
      make (.ofText (.ofList found.before)) found.operator.condition
        (.ofList (trim found.after)) := by
  have sides : ¬(found.before = [] ∨ found.after = []) := by simp [before, after]
  simp only [ofClause, Operator.find?_of_isFirst first, if_neg sides, Operator.ofText_spelling]

theorem isCanonical_make {selector : Selector} {condition : Condition} {text : List Char}
    (supported : ∀ written, condition ≠ .unsupported written) (plain : IsPlain text)
    (canonical : selector.IsCanonical condition) :
    (make selector condition (.ofList text)).IsCanonical where
  supported := supported
  pattern := by rwa [pattern_make, String.toList_ofList, plain.fold_eq]
  selector := canonical

theorem isCanonical_of_isFirst {found : Operator.Found} (first : found.IsFirst)
    (plain : IsPlain (found.before ++ found.operator.spelling ++ found.after))
    (before : found.before ≠ []) (after : found.after ≠ []) :
    (make (.ofText (.ofList found.before)) found.operator.condition
      (.ofList (trim found.after))).IsCanonical := by
  have tidy := plain.isTidy
  apply isCanonical_make found.operator.condition_ne_unsupported
  · obtain ⟨c, member, letter⟩ := tidy.exists_letter_right after
    exact plain.trim_part (List.suffix_append _ _).isInfix (trim_ne_nil member letter)
  · rw [List.append_assoc] at tidy plain
    obtain ⟨c, member, letter⟩ := tidy.exists_letter_left before
    apply Selector.isCanonical_ofText
    · exact plain.trim_part (List.prefix_append _ _).isInfix (trim_ne_nil member letter)
    · intro operator spelled
      exact first.absent operator (spelled.trans (trim_isInfix _))
    · intro worded
      obtain ⟨word, spelled⟩ := Operator.exists_word worded
      rw [spelled, List.cons_append] at tidy
      rw [trim_eq_self tidy.isTrimmed_left]
      exact first.absent_space spelled

theorem isCanonical_bare {clause : List Char} (plain : IsPlain clause) :
    (bare (.ofList clause)).IsCanonical :=
  isCanonical_make (fun _ => Condition.noConfusion) plain (.known _)

theorem isCanonical_ofClause {clause : List Char} (plain : IsPlain clause) :
    (ofClause clause).IsCanonical := by
  rw [ofClause]
  cases search : Operator.find? clause with
  | none => exact isCanonical_bare plain
  | some found =>
      obtain ⟨whole, first⟩ := Operator.find?_eq_some_iff.mp search
      subst whole
      simp only
      split
      · exact isCanonical_bare plain
      · next sides =>
        rw [not_or] at sides
        rw [Operator.ofText_spelling]
        exact isCanonical_of_isFirst first plain sides.1 sides.2

end Statement

namespace Query

theorem isCanonical_of_mem_parse {raw : String} {statement : Statement}
    (member : statement ∈ parse raw) : statement.IsCanonical := by
  obtain ⟨clause, belongs, rfl⟩ := List.mem_map.mp member
  exact Statement.isCanonical_ofClause (isPlain_of_mem_clauses belongs)

end Query

namespace Statement

variable {statement : Statement}

theorem toList_render (statement : Statement) :
    statement.render.toList = statement.selector.text.toList ++
      (gap statement.selector statement.condition).toList ++ statement.condition.text.toList ++
        ' ' :: statement.pattern.toList := by
  simp [render]

theorem gap_eq_of_sign {selector : Selector} {condition : Condition}
    (supported : ∀ text, condition ≠ .unsupported text) (sign : condition.isWorded = false) :
    gap selector condition = if selector.text.toList.getLast? = some '!' then " " else "" := by
  cases condition with
  | equals | notEquals => rfl
  | has | startsWith | endsWith => cases sign
  | unsupported text => exact absurd rfl (supported text)

theorem gap_eq_of_worded {selector : Selector} {condition : Condition}
    (worded : condition.isWorded = true) : gap selector condition = " " := by
  cases condition with
  | equals | notEquals | unsupported => cases worded
  | has | startsWith | endsWith => rfl

theorem exists_operator_of_sign {condition : Condition}
    (supported : ∀ text, condition ≠ .unsupported text) (sign : condition.isWorded = false) :
    ∃ operator : Operator, operator.condition = condition ∧
      operator.spelling = condition.text.toList := by
  cases condition with
  | equals => exact ⟨.equals, rfl, rfl⟩
  | notEquals => exact ⟨.notEquals, rfl, rfl⟩
  | has | startsWith | endsWith => cases sign
  | unsupported text => exact absurd rfl (supported text)

theorem exists_operator_of_worded {condition : Condition} (worded : condition.isWorded = true) :
    ∃ operator : Operator, operator.condition = condition ∧
      operator.spelling = ' ' :: (condition.text.toList ++ [' ']) := by
  cases condition with
  | has => exact ⟨.has, rfl, by decide⟩
  | startsWith => exact ⟨.startsWith, rfl, by decide⟩
  | endsWith => exact ⟨.endsWith, rfl, by decide⟩
  | equals | notEquals | unsupported => cases worded

theorem isPlain_condition {condition : Condition}
    (supported : ∀ text, condition ≠ .unsupported text) : IsPlain condition.text.toList := by
  cases condition with
  | unsupported text => exact absurd rfl (supported text)
  | equals | notEquals | has | startsWith | endsWith =>
      exact ⟨by decide, by decide +kernel, by decide⟩

theorem IsCanonical.isPlain_render (canonical : statement.IsCanonical) :
    IsPlain statement.render.toList := by
  have selector := canonical.selector.isPlain
  have condition := isPlain_condition canonical.supported
  rw [toList_render]
  refine IsPlain.append_space ?_ canonical.pattern
  have gaps : gap statement.selector statement.condition = " " ∨
      gap statement.selector statement.condition = "" := by
    cases worded : statement.condition.isWorded with
    | true => exact Or.inl (gap_eq_of_worded worded)
    | false =>
        rw [gap_eq_of_sign canonical.supported worded]
        split <;> simp
  rcases gaps with space | none
  · rw [space]
    simpa using selector.append_space condition
  · rw [none]
    simpa using selector.append condition

theorem IsCanonical.length_render (canonical : statement.IsCanonical) :
    Query.minClauseLength ≤ statement.render.toList.length := by
  have selector := List.length_pos_of_ne_nil canonical.selector.isPlain.filled
  have condition := List.length_pos_of_ne_nil (isPlain_condition canonical.supported).filled
  have pattern := List.length_pos_of_ne_nil canonical.pattern.filled
  rw [toList_render]
  simp only [List.length_append, List.length_cons, Query.minClauseLength]
  omega

theorem IsCanonical.ofClause_eq (canonical : statement.IsCanonical) {found : Operator.Found}
    (first : found.IsFirst) (same : found.operator.condition = statement.condition)
    (front : trim found.before = statement.selector.text.toList)
    (back : trim found.after = statement.pattern.toList) :
    ofClause (found.before ++ found.operator.spelling ++ found.after) = statement := by
  have before : found.before ≠ [] := by
    intro empty
    rw [empty] at front
    exact canonical.selector.isPlain.filled front.symm
  have after : found.after ≠ [] := by
    intro empty
    rw [empty] at back
    exact canonical.pattern.filled back.symm
  rw [ofClause_of_isFirst first before after, Selector.ofText_of_trim canonical.selector front,
    same, back, String.ofList_toList]
  exact ext rfl rfl statement.folded

theorem IsCanonical.ofClause_worded (canonical : statement.IsCanonical)
    (worded : statement.condition.isWorded = true) :
    ofClause statement.render.toList = statement := by
  obtain ⟨operator, same, spelled⟩ := exists_operator_of_worded worded
  have first : Operator.Found.IsFirst
      ⟨statement.selector.text.toList, operator, statement.pattern.toList⟩ :=
    Operator.isFirst_word spelled (canonical.selector.absent_space worded)
  have read := canonical.ofClause_eq first same canonical.selector.isPlain.trim_eq
    canonical.pattern.trim_eq
  rw [toList_render, gap_eq_of_worded worded]
  simpa [spelled] using read

theorem IsCanonical.ofClause_sign (canonical : statement.IsCanonical)
    (sign : statement.condition.isWorded = false) :
    ofClause statement.render.toList = statement := by
  obtain ⟨operator, same, spelled⟩ := exists_operator_of_sign canonical.supported sign
  have signed : operator.condition.isWorded = false := same ▸ sign
  have absent := canonical.selector.absent_text
  have trimmed := canonical.selector.isPlain.trim_eq
  have pattern : trim (' ' :: statement.pattern.toList) = statement.pattern.toList := by
    rw [trim_cons_of_blank (by decide), canonical.pattern.trim_eq]
  rw [toList_render, gap_eq_of_sign canonical.supported sign, ← spelled]
  split
  · next exclaimed =>
    have first : Operator.Found.IsFirst
        ⟨statement.selector.text.toList ++ [' '], operator, ' ' :: statement.pattern.toList⟩ :=
      Operator.isFirst_sign signed (absent.append_space exclaimed) (by simp) (by simp)
    exact canonical.ofClause_eq first same ((trim_append_of_blank (by decide) _).trans trimmed)
      pattern
  · next calm =>
    rw [String.toList_empty, List.append_nil]
    exact canonical.ofClause_eq (Operator.isFirst_sign signed absent calm (by simp)) same trimmed
      pattern

theorem IsCanonical.ofClause_render (canonical : statement.IsCanonical) :
    ofClause statement.render.toList = statement := by
  cases worded : statement.condition.isWorded with
  | true => exact canonical.ofClause_worded worded
  | false => exact canonical.ofClause_sign worded

end Statement

namespace Query

theorem toList_render (query : Query) :
    (render query).toList = [separator, ' '].intercalate (query.map (·.render.toList)) := by
  rw [render, String.toList_intercalate, List.map_map]
  rfl

theorem parse_render {query : Query} (canonical : ∀ statement ∈ query, statement.IsCanonical) :
    parse (render query) = query := by
  have plain : ∀ row ∈ query.map (·.render.toList), IsPlain row ∧ minClauseLength ≤ row.length := by
    intro row member
    obtain ⟨statement, belongs, rfl⟩ := List.mem_map.mp member
    exact ⟨(canonical statement belongs).isPlain_render, (canonical statement belongs).length_render⟩
  rw [parse, toList_render, normalize_intercalate fun row member => (plain row member).1,
    clauses_intercalate plain, List.map_map]
  conv_rhs => rw [← List.map_id query]
  exact List.map_congr_left fun statement member => (canonical statement member).ofClause_render

/-- Of all lists of statements, the ones read back from what is written are the canonical ones. -/
theorem parse_render_eq_self_iff (query : Query) :
    parse (render query) = query ↔ ∀ statement ∈ query, statement.IsCanonical := by
  constructor
  · intro same statement member
    rw [← same] at member
    exact isCanonical_of_mem_parse member
  · exact parse_render

-- a selector may end in the word of an operator, as long as no space follows
example : (parse "x has!= y").map (·.selector.text) = ["x has"] := by decide +kernel

example : (parse "x has != y").map (·.selector.text) = ["x"] := by decide +kernel

/-- A query that was read is read back from what is written for it. -/
theorem parse_render_parse (raw : String) : parse (render (parse raw)) = parse raw :=
  parse_render fun _ member => isCanonical_of_mem_parse member

end Query

end AccessCanvas
