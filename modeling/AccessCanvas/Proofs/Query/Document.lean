import AccessCanvas.Proofs.Json.Ensured
import AccessCanvas.Proofs.Json.Record
import AccessCanvas.Proofs.Text.Folding
import AccessCanvas.Query.Document

/-!
Queries written to documents. A selector or a condition is settled when its own text stands for it.
Main statements: every query is read back with the selectors and the conditions that their texts
stand for, so that settled ones come back as they were; and they are settled however the statements
came about.
-/

namespace AccessCanvas

open Json (Reads Ensures)
open Text (folded trimmed folded_trimmed_folded_trimmed)

namespace Selector

def IsSettled (selector : Selector) : Prop :=
  ofText selector.text = selector

instance (selector : Selector) : Decidable selector.IsSettled := by
  unfold IsSettled
  infer_instance

theorem ofText_folded (written : String) : ofText (folded (trimmed written)) = ofText written := by
  simp only [ofText, folded_trimmed_folded_trimmed]

theorem eq_folded_of_unsupported {written text : String}
    (read : ofText written = .unsupported text) : text = folded (trimmed written) := by
  simp only [ofText] at read
  split at read
  · cases read
  split at read
  · cases read
  · exact (Selector.unsupported.inj read).symm

theorem isSettled_ofText (written : String) : (ofText written).IsSettled := by
  cases read : ofText written with
  | known key => cases key <;> decide
  | unsupported text =>
      rw [IsSettled, Selector.text, eq_folded_of_unsupported read, ofText_folded, read,
        eq_folded_of_unsupported read]

end Selector

namespace Condition

def IsSettled (condition : Condition) : Prop :=
  ofText condition.text = condition

instance (condition : Condition) : Decidable condition.IsSettled := by
  unfold IsSettled
  infer_instance

theorem ofText_folded (written : String) : ofText (folded (trimmed written)) = ofText written := by
  simp only [ofText, folded_trimmed_folded_trimmed]

theorem eq_folded_of_unsupported {written text : String}
    (read : ofText written = .unsupported text) : text = folded (trimmed written) := by
  simp only [ofText] at read
  split at read
  · cases read
  split at read
  · cases read
  split at read
  · cases read
  split at read
  · cases read
  split at read
  · cases read
  · exact (Condition.unsupported.inj read).symm

theorem isSettled_of_supported {condition : Condition}
    (supported : ∀ text, condition ≠ .unsupported text) : condition.IsSettled := by
  cases condition with
  | unsupported text => exact absurd rfl (supported text)
  | equals | notEquals | has | startsWith | endsWith => decide

theorem isSettled_ofText (written : String) : (ofText written).IsSettled := by
  by_cases supported : ∀ text, ofText written ≠ .unsupported text
  · exact isSettled_of_supported supported
  · push Not at supported
    obtain ⟨text, read⟩ := supported
    rw [IsSettled, read, Condition.text, eq_folded_of_unsupported read, ofText_folded, read,
      eq_folded_of_unsupported read]

end Condition

namespace Statement

structure IsSettled (statement : Statement) : Prop where
  selector : statement.selector.IsSettled
  condition : statement.condition.IsSettled

def reread (statement : Statement) : Statement :=
  make (.ofText statement.selector.text) (.ofText statement.condition.text) statement.pattern

theorem reread_eq_self_iff {statement : Statement} :
    statement.reread = statement ↔ statement.IsSettled := by
  simp only [ext_iff, reread, make, statement.folded, and_true]
  constructor
  · rintro ⟨selector, condition⟩
    exact ⟨selector, condition⟩
  · rintro ⟨selector, condition⟩
    exact ⟨selector, condition⟩

theorem reads_encode (statement : Statement) :
    Reads form.reader statement.encode statement.reread :=
  Json.Form.reads_reader
    (.cons (Json.Form.choose_eq rfl rfl) ((Json.reads_text statement.selector.text).map _)
      (.cons (Json.Form.choose_eq rfl rfl) ((Json.reads_text statement.condition.text).map _)
        (.cons (Json.Form.choose_eq rfl rfl) ((Json.reads_text statement.pattern).map _) (.nil _))))
    rfl

theorem isSettled_make {selector : Selector} {condition : Condition} (first : selector.IsSettled)
    (second : condition.IsSettled) (pattern : String) :
    (make selector condition pattern).IsSettled :=
  ⟨first, second⟩

theorem isSettled_bare (pattern : String) : (bare pattern).IsSettled := by
  have selector : (Selector.known .name).IsSettled := by decide
  have condition : Condition.equals.IsSettled := by decide
  exact isSettled_make selector condition pattern

theorem isSettled_ofClause (clause : List Char) : (ofClause clause).IsSettled := by
  rw [ofClause]
  split
  · exact isSettled_bare _
  · split
    · exact isSettled_bare _
    · exact isSettled_make (Selector.isSettled_ofText _) (Condition.isSettled_ofText _) _

structure Draft.IsSettled (draft : Draft) : Prop where
  selector : ∀ selector ∈ draft.selector, selector.IsSettled
  condition : ∀ condition ∈ draft.condition, condition.IsSettled

theorem ensures_reader : Ensures form.reader IsSettled := by
  -- whichever members were read, in whichever order, the draft holds only what texts stand for
  refine Json.Form.ensures_reader Draft.IsSettled ⟨by simp [form], by simp [form]⟩ ?_ ?_
  · intro part member draft settled
    simp only [form, List.mem_cons, List.not_mem_nil, or_false] at member
    rcases member with rfl | rfl | rfl
    · refine Json.ensures_map fun written => ⟨?_, settled.condition⟩
      simpa using Selector.isSettled_ofText written
    · refine Json.ensures_map fun written => ⟨settled.selector, ?_⟩
      simpa using Condition.isSettled_ofText written
    · exact Json.ensures_map fun written => ⟨settled.selector, settled.condition⟩
  · intro absent draft statement settled made
    obtain ⟨selector?, condition?, pattern?⟩ := draft
    simp only [form, Json.demanded] at made
    cases selector? with
    | none => cases made
    | some selector =>
        cases condition? with
        | none => cases made
        | some condition =>
            obtain ⟨pattern, -, rfl⟩ := Text.exists_of_map_eq_ok made
            exact ⟨settled.selector selector rfl, settled.condition condition rfl⟩

end Statement

namespace Query

theorem isSettled_of_mem_parse {raw : String} {statement : Statement}
    (member : statement ∈ parse raw) : statement.IsSettled := by
  obtain ⟨clause, -, rfl⟩ := List.mem_map.mp member
  exact Statement.isSettled_ofClause clause

theorem isSettled_of_mem_ofDocument {written : String} {query : Query}
    (accepted : ofDocument written = .ok query) : ∀ statement ∈ query, statement.IsSettled :=
  Json.good_of_document (Json.ensures_list Statement.ensures_reader) accepted

end Query

namespace Statement

/-- The ways to come by a statement: from a query, from texts, or from a document. -/
inductive IsObtained : Statement → Prop
  | parsed {raw : String} {statement : Statement} (member : statement ∈ Query.parse raw) :
      IsObtained statement
  | made (selector condition pattern : String) :
      IsObtained (make (.ofText selector) (.ofText condition) pattern)
  | read {written : String} {query : Query} {statement : Statement}
      (accepted : Query.ofDocument written = .ok query) (member : statement ∈ query) :
      IsObtained statement

theorem IsObtained.isSettled {statement : Statement} (obtained : statement.IsObtained) :
    statement.IsSettled := by
  cases obtained with
  | parsed member => exact Query.isSettled_of_mem_parse member
  | made selector condition pattern =>
      exact isSettled_make (Selector.isSettled_ofText selector)
        (Condition.isSettled_ofText condition) pattern
  | read accepted member => exact Query.isSettled_of_mem_ofDocument accepted statement member

end Statement

namespace Query

theorem ofDocument_document_eq (query : Query) :
    ofDocument query.document = .ok (query.map Statement.reread) := by
  have each : List.Forall₂ (Reads Statement.form.reader) (query.map Statement.encode)
      (query.map Statement.reread) := by
    rw [List.forall₂_map_left_iff, List.forall₂_map_right_iff, List.forall₂_same]
    intro statement _
    exact statement.reads_encode
  exact Json.document_pretty (Json.reads_list each)

theorem ofDocument_document_eq_self_iff (query : Query) :
    ofDocument query.document = .ok query ↔ ∀ statement ∈ query, statement.IsSettled := by
  rw [ofDocument_document_eq, Except.ok.injEq]
  conv_lhs => rhs; rw [← List.map_id query]
  simp only [List.map_inj_left, id, Statement.reread_eq_self_iff]

example : ¬(Condition.unsupported "==").IsSettled := by decide

/-- A query is read back from its document, however its statements came about. -/
theorem ofDocument_document_of_obtained (query : Query)
    (obtained : ∀ statement ∈ query, statement.IsObtained) :
    ofDocument query.document = .ok query := by
  rw [ofDocument_document_eq_self_iff]
  intro statement member
  exact (obtained statement member).isSettled

theorem ofDocument_document_mixed :
    let rough : Query := [.make (.unsupported " TENANT ") (.unsupported "===") "A\"B"]
    let query := parse "x has SSO" ++
      .make (.ofText " ID ") (.ofText "NotEquals") "İ " :: rough.map Statement.reread
    (∀ statement ∈ query, statement.IsObtained) ∧ ofDocument query.document = .ok query := by
  intro rough query
  have obtained : ∀ statement ∈ query, statement.IsObtained := by
    intro statement member
    rcases List.mem_append.mp member with parsed | others
    · exact .parsed parsed
    rcases List.mem_cons.mp others with rfl | read
    · exact .made " ID " "NotEquals" "İ "
    · exact .read (ofDocument_document_eq rough) read
  exact ⟨obtained, ofDocument_document_of_obtained query obtained⟩

end Query

end AccessCanvas
