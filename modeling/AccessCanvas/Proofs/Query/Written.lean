import AccessCanvas.Proofs.Query.Conjunction
import AccessCanvas.Proofs.Query.RoundTrip

/-!
Clauses written around a text of any case. Main statements: a selector, a condition and such a text
are read as the statement made of them, whatever operators the text holds; so are two such texts
with a sign between them.
-/

namespace AccessCanvas

open Text

namespace Query

theorem words_normalize (raw : List Char) : words (normalize raw) = (words raw).map fold := by
  rw [normalize_eq_intercalate]
  refine words_intercalate fun row member => ?_
  obtain ⟨word, belongs, rfl⟩ := List.mem_map.mp member
  exact (isWord_of_mem_words belongs).fold

theorem normalize_append_normalize (left right : List Char) :
    normalize (left ++ ' ' :: normalize right) = normalize (left ++ ' ' :: right) := by
  have again : ((words right).map fold).map fold = (words right).map fold := by
    rw [List.map_map]
    exact List.map_congr_left fun word _ => fold_fold word
  rw [normalize_eq_intercalate (left ++ ' ' :: normalize right),
    normalize_eq_intercalate (left ++ ' ' :: right), words_append_blank (by decide),
    words_append_blank (by decide), words_normalize, List.map_append, List.map_append, again]

theorem normalize_congr {raw other : List Char} (same : words raw = words other) :
    normalize raw = normalize other := by
  rw [normalize, normalize, squeeze, squeeze, same]

section Run

variable {run : List Char} (blank : ∀ c ∈ run, isBlank c = true)
include blank

theorem normalize_run_append (text : List Char) : normalize (run ++ text) = normalize text :=
  normalize_congr (words_run_append blank text)

theorem normalize_append_run (text : List Char) : normalize (text ++ run) = normalize text := by
  apply normalize_congr
  by_cases empty : run = []
  · rw [empty, List.append_nil]
  · have after := words_append_run empty blank text []
    rwa [List.append_nil, show words [] = [] from rfl, List.append_nil] at after

theorem normalize_respaced {other : List Char} (filled : run ≠ []) (otherFilled : other ≠ [])
    (otherBlank : ∀ c ∈ other, isBlank c = true) (left right : List Char) :
    normalize (left ++ (run ++ right)) = normalize (left ++ (other ++ right)) := by
  apply normalize_congr
  rw [words_append_run filled blank, words_append_run otherFilled otherBlank]

end Run

theorem isBlank_of_mem_space : ∀ c ∈ [' '], isBlank c = true :=
  List.all_eq_true.mp (by decide)

theorem parse_congr {raw other : String} (same : normalize raw.toList = normalize other.toList) :
    parse raw = parse other := by
  rw [parse, parse, same]

theorem parse_space_append (raw : String) : parse (" " ++ raw) = parse raw := by
  apply parse_congr
  rw [String.toList_append]
  exact normalize_run_append isBlank_of_mem_space raw.toList

/-- A text that a clause can ask for: there is something in it, no separator, and no white space but
single spaces between its words. -/
structure IsPattern (text : List Char) : Prop where
  filled : text ≠ []
  tidy : IsTidy text
  whole : separator ∉ text

namespace IsPattern

variable {text : List Char} (pattern : IsPattern text)
include pattern

theorem normalize_eq : normalize text = fold text := by
  rw [normalize, squeeze_eq_self pattern.tidy]

theorem isPlain_fold : IsPlain (fold text) where
  filled := foldAfter_ne_nil pattern.filled
  normal := by
    rw [← pattern.normalize_eq]
    exact normalize_eq_self (isTidy_normalize text) fun _ => isSmall_of_mem_normalize
  whole member := pattern.whole (mem_of_mem_fold (Or.inr (Or.inl rfl)) member)

end IsPattern

theorem IsPattern.append {left right : List Char} (first : IsPattern left)
    (second : IsPattern right) : IsPattern (left ++ right) where
  filled := by simp [first.filled]
  tidy := first.tidy.append second.tidy
  whole := by simp [first.whole, second.whole]

end Query

def Statement.written (selector : Selector) (condition : Condition) (text : String) : String :=
  selector.text ++ gap selector condition ++ condition.text ++ " " ++ text

namespace Query

variable {selector : Selector} {condition : Condition} {text : String}

theorem parse_written (supported : ∀ written, condition ≠ .unsupported written)
    (canonical : selector.IsCanonical condition) (pattern : IsPattern text.toList) :
    parse (Statement.written selector condition text) = [.make selector condition text] := by
  have folded : (Statement.make selector condition text).pattern.toList = normalize text.toList := by
    rw [pattern.normalize_eq]
    simp [Statement.make, Text.folded]
  have statement : (Statement.make selector condition text).IsCanonical :=
    ⟨supported, by rw [folded, pattern.normalize_eq]; exact pattern.isPlain_fold, canonical⟩
  have front : (Statement.written selector condition text).toList =
      (selector.text ++ Statement.gap selector condition ++ condition.text).toList ++
        ' ' :: text.toList := by
    simp [Statement.written]
  have rendered : (render [.make selector condition text]).toList =
      (selector.text ++ Statement.gap selector condition ++ condition.text).toList ++
        ' ' :: normalize text.toList := by
    rw [← folded]
    simp [render, Statement.render, Statement.make]
  have same : parse (Statement.written selector condition text) =
      parse (render [.make selector condition text]) := by
    apply parse_congr
    rw [front, rendered, normalize_append_normalize]
  rw [same]
  exact parse_render (by simpa using statement)

theorem parse_asked (key : Attribute) {phrase : String}
    (supported : ∀ written, condition ≠ .unsupported written)
    (spelled : Statement.gap (.known key) condition ++ condition.text ++ " " = phrase)
    (pattern : IsPattern text.toList) :
    parse ((Selector.known key).text ++ phrase ++ text) = [.make (.known key) condition text] := by
  rw [← parse_written supported (.known key) pattern, ← spelled]
  simp only [Statement.written, String.append_assoc]

theorem parse_of_isPattern (pattern : IsPattern text.toList)
    (long : minClauseLength ≤ (fold text.toList).length) :
    parse text = [.ofClause (fold text.toList)] := by
  rw [parse, clauses_normalize, pieces_of_not_mem pattern.whole, List.map_singleton,
    pattern.normalize_eq, List.filter_cons_of_pos (by simpa using long), List.filter_nil,
    List.map_singleton]

section Sign

variable {operator : Operator} (sign : operator.condition.isWorded = false)
include sign

theorem isPattern_sign : IsPattern operator.spelling := by
  have letters : ∀ c ∈ operator.spelling, isBlank c = false := by
    intro c member
    rcases Operator.eq_of_mem_sign sign member with rfl | rfl <;> rfl
  refine ⟨operator.spelling_ne_nil, IsWord.isTidy ⟨operator.spelling_ne_nil, letters⟩, ?_⟩
  intro member
  rcases Operator.eq_of_mem_sign sign member with same | same <;> cases same

theorem isBoundary_sign : ∀ c ∈ operator.spelling, IsBoundary c := by
  intro c member
  rcases Operator.eq_of_mem_sign sign member with rfl | rfl
  · exact isBoundary_equals
  · exact isBoundary_exclamation

theorem parse_sign {entity pattern : String} (front : IsPattern entity.toList)
    (back : IsPattern pattern.toList) (absent : Operator.Absent (fold entity.toList))
    (final : entity.toList.getLast? ≠ some '!') (next : pattern.toList.head? ≠ some '=') :
    parse (entity ++ .ofList operator.spelling ++ pattern) =
      [.make (.ofText (folded entity)) operator.condition pattern] := by
  have whole : (entity ++ .ofList operator.spelling ++ pattern).toList =
      entity.toList ++ (operator.spelling ++ pattern.toList) := by
    simp
  have folds : fold (entity ++ .ofList operator.spelling ++ pattern).toList =
      fold entity.toList ++ operator.spelling ++ fold pattern.toList := by
    rw [whole, fold_append_boundaries (isBoundary_sign sign) operator.spelling_ne_nil,
      List.append_assoc]
  have first : Operator.Found.IsFirst ⟨fold entity.toList, operator, fold pattern.toList⟩ :=
    Operator.isFirst_sign sign absent
      (fun ends => final (mem_getLast?_of_fold (by decide) ends))
      (fun starts => next (mem_head?_of_fold (by decide) starts))
  have filled := front.isPlain_fold.filled
  have asked := back.isPlain_fold.filled
  have long : minClauseLength ≤
      (fold (entity ++ .ofList operator.spelling ++ pattern).toList).length := by
    have one := List.length_pos_of_ne_nil filled
    have two := List.length_pos_of_ne_nil operator.spelling_ne_nil
    have three := List.length_pos_of_ne_nil asked
    rw [folds, List.length_append, List.length_append, minClauseLength]
    omega
  rw [parse_of_isPattern (whole ▸ front.append ((isPattern_sign sign).append back)) long, folds,
    Statement.ofClause_of_isFirst first filled asked, back.isPlain_fold.trim_eq]
  exact congrArg (fun statement => [statement])
    (Statement.ext rfl rfl (Text.folded_folded pattern))

end Sign

-- the operators in the text are not looked at
example : (parse "name= =A has  B").map (·.pattern) = ["=a has b"] := by decide +kernel

end Query

end AccessCanvas
