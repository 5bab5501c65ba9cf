import Mathlib.Data.List.Infix
import AccessCanvas.Query.Operator
import AccessCanvas.Query.Statement

/-!
The search for an operator in a clause. Main statement: what is found is the operator that starts
first, and of those that start there the first in the list of all operators.
-/

namespace AccessCanvas.Operator

@[simp] theorem spelling_startsWith :
    spelling .startsWith = [' ', 's', 't', 'a', 'r', 't', 's', 'w', 'i', 't', 'h', ' '] := rfl

@[simp] theorem spelling_endsWith :
    spelling .endsWith = [' ', 'e', 'n', 'd', 's', 'w', 'i', 't', 'h', ' '] := rfl

@[simp] theorem spelling_has : spelling .has = [' ', 'h', 'a', 's', ' '] := rfl

@[simp] theorem spelling_tripleEquals : spelling .tripleEquals = ['=', '=', '='] := rfl

@[simp] theorem spelling_doubleEquals : spelling .doubleEquals = ['=', '='] := rfl

@[simp] theorem spelling_notEquals : spelling .notEquals = ['!', '='] := rfl

@[simp] theorem spelling_equals : spelling .equals = ['='] := rfl

def condition : Operator → Condition
  | .startsWith => .startsWith
  | .endsWith => .endsWith
  | .has => .has
  | .tripleEquals | .doubleEquals | .equals => .equals
  | .notEquals => .notEquals

/-- The condition is what the spelling stands for in a clause. -/
theorem ofText_spelling (operator : Operator) :
    Condition.ofText (.ofList operator.spelling) = operator.condition := by
  cases operator <;> decide +kernel

theorem condition_ne_unsupported (operator : Operator) (text : String) :
    operator.condition ≠ .unsupported text := by
  cases operator <;> exact Condition.noConfusion

theorem exists_word {operator : Operator} (worded : operator.condition.isWorded = true) :
    ∃ word, operator.spelling = ' ' :: word := by
  cases operator with
  | startsWith => exact ⟨_, spelling_startsWith⟩
  | endsWith => exact ⟨_, spelling_endsWith⟩
  | has => exact ⟨_, spelling_has⟩
  | tripleEquals | doubleEquals | notEquals | equals => cases worded

theorem eq_of_mem_sign {operator : Operator} (sign : operator.condition.isWorded = false) {c : Char}
    (member : c ∈ operator.spelling) : c = '=' ∨ c = '!' := by
  cases operator with
  | startsWith | endsWith | has => cases sign
  | tripleEquals | doubleEquals | equals => exact Or.inl (by simpa using member)
  | notEquals => simpa [or_comm] using member

theorem mem_all (operator : Operator) : operator ∈ all := by
  cases operator <;> decide

theorem spelling_ne_nil (operator : Operator) : operator.spelling ≠ [] := by
  cases operator <;> simp

theorem atStart?_eq_none_iff {text : List Char} :
    atStart? text = none ↔ ∀ operator : Operator, ¬operator.spelling <+: text := by
  simp only [atStart?, List.find?_eq_none, List.isPrefixOf_iff_prefix]
  exact ⟨fun none operator => none operator (mem_all operator), fun none operator _ => none operator⟩

def Absent (text : List Char) : Prop :=
  ∀ operator : Operator, ¬operator.spelling <:+: text

theorem Absent.not_mem {text : List Char} (absent : Absent text) : '=' ∉ text := by
  intro member
  obtain ⟨left, right, rfl⟩ := List.append_of_mem member
  exact absent .equals ⟨left, right, by simp⟩

/-- A text that starts with an operator, and in which no operator starts before its place. -/
structure Found.IsFirst (found : Found) : Prop where
  here : atStart? (found.operator.spelling ++ found.after) = some found.operator
  earliest : ∀ part, part <:+ found.before → part ≠ [] →
    atStart? (part ++ found.operator.spelling ++ found.after) = none

theorem find?_of_isFirst {found : Found} (first : found.IsFirst) :
    find? (found.before ++ found.operator.spelling ++ found.after) = some found := by
  obtain ⟨before, operator, after⟩ := found
  induction before with
  | nil =>
      have here := first.here
      obtain ⟨c, rest, spelled⟩ := List.exists_cons_of_ne_nil operator.spelling_ne_nil
      simp only [List.nil_append] at here ⊢
      rw [spelled, List.cons_append] at here ⊢
      rw [find?, here]
      simp only [← List.cons_append, ← spelled, List.drop_left]
  | cons c rest ih =>
      have none := first.earliest (c :: rest) List.suffix_rfl (by simp)
      have later := ih ⟨first.here, fun part ends =>
        first.earliest part (ends.trans (List.suffix_cons c rest))⟩
      simp only [List.cons_append] at none later ⊢
      rw [find?, none, later]
      rfl

theorem isFirst_of_find? {clause : List Char} {found : Found} (first : find? clause = some found) :
    found.IsFirst := by
  induction clause generalizing found with
  | nil => simp [find?] at first
  | cons c rest ih =>
      have whole := find?_parts first
      rw [find?] at first
      split at first
      · next operator starts =>
        simp only [Option.some.injEq] at first
        subst first
        refine ⟨?_, ?_⟩
        · rw [List.nil_append] at whole
          rw [whole]
          exact starts
        · intro part ends filled
          exact absurd (List.suffix_nil.mp ends) filled
      · next none =>
        obtain ⟨inner, found?, rfl⟩ := Option.map_eq_some_iff.mp first
        have later := ih found?
        refine ⟨later.here, ?_⟩
        intro part ends filled
        rcases List.suffix_cons_iff.mp ends with rfl | shorter
        · rwa [← whole] at none
        · exact later.earliest part shorter filled

theorem find?_eq_some_iff {clause : List Char} {found : Found} :
    find? clause = some found ↔
      found.before ++ found.operator.spelling ++ found.after = clause ∧ found.IsFirst := by
  constructor
  · intro first
    exact ⟨find?_parts first, isFirst_of_find? first⟩
  · rintro ⟨rfl, first⟩
    exact find?_of_isFirst first

theorem Found.IsFirst.absent {found : Found} (first : found.IsFirst) : Absent found.before := by
  rintro operator ⟨left, right, whole⟩
  have none := first.earliest (operator.spelling ++ right) ⟨left, by simp [← whole]⟩
    (by simp [operator.spelling_ne_nil])
  refine atStart?_eq_none_iff.mp none operator ⟨right ++ found.operator.spelling ++ found.after, ?_⟩
  simp

theorem Found.IsFirst.absent_space {found : Found} (first : found.IsFirst) {word : List Char}
    (worded : found.operator.spelling = ' ' :: word) : Absent (found.before ++ [' ']) := by
  intro operator inside
  rcases List.infix_concat_iff.mp inside with ends | inner
  · rcases List.suffix_concat_iff.mp ends with empty | ⟨part, spelled, suffix⟩
    · exact operator.spelling_ne_nil empty
    · have filled : part ≠ [] := by
        rintro rfl
        cases operator <;> simp at spelled
      refine atStart?_eq_none_iff.mp (first.earliest part suffix filled) operator ?_
      rw [spelled, worded]
      exact ⟨word ++ found.after, by simp⟩
  · exact first.absent operator inner

theorem front_of_spelling {operator : Operator} {front back : List Char} {d : Char}
    (spelled : operator.spelling = front ++ d :: back) (sign : d = '=' ∨ d = '!') :
    front = [] ∨ front = ['!'] ∨ '=' ∈ front := by
  have shape : operator.spelling.head? = some '=' ∨ operator.spelling = ['!', '='] := by
    have member : d ∈ operator.spelling := by simp [spelled]
    rcases sign with rfl | rfl <;> revert member <;> cases operator <;> decide
  cases front with
  | nil => exact Or.inl rfl
  | cons a more =>
      rcases shape with equal | unequal
      · rw [spelled, List.cons_append, List.head?_cons, Option.some.injEq] at equal
        exact Or.inr (Or.inr (by simp [equal]))
      · rw [unequal, List.cons_append, List.cons.injEq] at spelled
        cases more with
        | nil => exact Or.inr (Or.inl (by rw [← spelled.1]))
        | cons b later => simp at spelled

theorem Absent.append_space {text : List Char} (absent : Absent text)
    (final : text.getLast? = some '!') : Absent (text ++ [' ']) := by
  intro operator inside
  rcases List.infix_concat_iff.mp inside with ends | inner
  · rcases List.suffix_concat_iff.mp ends with empty | ⟨part, spelled, ⟨front, whole⟩⟩
    · exact operator.spelling_ne_nil empty
    · have filled : part ≠ [] := by
        rintro rfl
        cases operator <;> simp at spelled
      rw [← whole, List.getLast?_append_of_ne_nil _ filled] at final
      have letter : operator.spelling.getLast? = some ' ' →
          operator.spelling.dropLast.getLast? ≠ some '!' := by
        cases operator <;> decide
      exact letter (by simp [spelled]) (by simpa [spelled] using final)
  · exact absent operator inner

theorem atStart?_sign {operator : Operator} (sign : operator.condition.isWorded = false)
    {after : List Char} (next : after.head? ≠ some '=') :
    atStart? (operator.spelling ++ after) = some operator := by
  cases operator with
  | startsWith | endsWith | has => cases sign
  | tripleEquals | doubleEquals | notEquals | equals =>
      cases after with
      | nil => rfl
      | cons c rest =>
          have apart : '=' ≠ c := fun same => next (congrArg some same.symm)
          simp [atStart?, all, List.isPrefixOf, apart]

theorem isFirst_sign {before after : List Char} {operator : Operator}
    (sign : operator.condition.isWorded = false) (absent : Absent before)
    (final : before.getLast? ≠ some '!') (next : after.head? ≠ some '=') :
    Found.IsFirst ⟨before, operator, after⟩ := by
  refine ⟨atStart?_sign sign next, ?_⟩
  intro part ends filled
  have plain : '=' ∉ part := fun member => absent.not_mem (ends.subset member)
  have calm : part ≠ ['!'] := by
    rintro rfl
    obtain ⟨rest, rfl⟩ := ends
    simp at final
  rw [atStart?_eq_none_iff]
  intro other spelled
  rw [List.append_assoc] at spelled
  obtain ⟨rest, whole⟩ := spelled
  rcases List.append_eq_append_iff.mp whole with ⟨inner, same, -⟩ | ⟨crossing, same, cut⟩
  · exact absent other (List.IsInfix.trans ⟨[], inner, by simp [same]⟩ ends.isInfix)
  · obtain ⟨d, back, rfl⟩ : ∃ d back, crossing = d :: back := by
      refine List.exists_cons_of_ne_nil ?_
      rintro rfl
      exact absent other (by simpa [same] using ends.isInfix)
    have head : d = '=' ∨ d = '!' := by
      obtain ⟨c, rest, spelled⟩ := List.exists_cons_of_ne_nil operator.spelling_ne_nil
      rw [spelled, List.cons_append, List.cons_append, List.cons.injEq] at cut
      exact eq_of_mem_sign sign (by simp [spelled, cut.1])
    rcases front_of_spelling same head with empty | lone | spelled
    · exact filled empty
    · exact calm lone
    · exact plain spelled

theorem no_inner_space {operator : Operator} {front back : List Char}
    (spelled : operator.spelling = front ++ ' ' :: back) (before : front ≠ []) : back = [] := by
  have inner : ' ' ∉ operator.spelling.tail.dropLast := by cases operator <;> decide
  obtain ⟨a, more, rfl⟩ := List.exists_cons_of_ne_nil before
  rw [spelled, List.cons_append, List.tail_cons] at inner
  cases back with
  | nil => rfl
  | cons d rest =>
      rw [List.dropLast_append_of_ne_nil (by simp)] at inner
      simp at inner

theorem isFirst_word {before after word : List Char} {operator : Operator}
    (worded : operator.spelling = ' ' :: word) (absent : Absent (before ++ [' '])) :
    Found.IsFirst ⟨before, operator, after⟩ := by
  constructor
  · cases operator with
    | startsWith | endsWith | has => rfl
    | tripleEquals | doubleEquals | notEquals | equals => simp at worded
  · intro part ends filled
    have inside : part ++ [' '] <:+: before ++ [' '] := by
      obtain ⟨front, rfl⟩ := ends
      exact ⟨front, [], by simp⟩
    rw [atStart?_eq_none_iff]
    intro other spelled
    have space : part ++ [' '] <+: part ++ operator.spelling ++ after :=
      ⟨word ++ after, by simp [worded]⟩
    rcases List.prefix_or_prefix_of_prefix spelled space with short | ⟨back, long⟩
    · exact absent other (short.isInfix.trans inside)
    · rw [List.append_assoc, List.singleton_append] at long
      have whole := no_inner_space long.symm filled
      subst whole
      exact absent other (by rwa [← long])

end AccessCanvas.Operator
