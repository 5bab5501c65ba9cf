import AccessCanvas.Proofs.Query.Written
import AccessCanvas.Proofs.Relation.Explorer
import AccessCanvas.Sample

/-!
Statements that are not understood. Main statement: a query with such a statement is answered with
nothing, wherever the statement stands, and a clause about an attribute that does not exist is read
as one whatever is written before and after it.
-/

namespace AccessCanvas

open Text

def Statement.IsUnsupported (statement : Statement) : Prop :=
  (∃ text, statement.selector = .unsupported text) ∨
    ∃ text, statement.condition = .unsupported text

theorem Statement.IsUnsupported.accepts_eq_false {statement : Statement}
    (unsupported : statement.IsUnsupported) (node : Node) : statement.accepts node = false := by
  rw [accepts]
  rcases unsupported with ⟨text, selector⟩ | ⟨text, condition⟩
  · rw [selector]
  · cases statement.selector with
    | known key =>
        rw [condition]
        exact Bool.and_false _
    | unsupported written => rfl

namespace Query

theorem accepts_of_isUnsupported {query : Query} {statement : Statement}
    (member : statement ∈ query) (unsupported : statement.IsUnsupported) (node : Node) :
    query.accepts node = false :=
  List.all_eq_false.mpr ⟨statement, member, by simp [unsupported.accepts_eq_false node]⟩

theorem answer_of_rejected {query : Query} (rejected : ∀ node, query.accepts node = false)
    (index : Adjacency) : query.answer index = ⟨[], []⟩ := by
  have none : index.lookup.toList.filter query.accepts = [] :=
    List.filter_eq_nil_iff.mpr fun node _ => by simp [rejected node]
  rw [answer, seeds, Network.answer, none]
  rfl

theorem exists_operator_of_spelled {sign : String} (known : sign ∈ ["=", "==", "===", "!="]) :
    ∃ operator : Operator,
      operator.condition.isWorded = false ∧ .ofList operator.spelling = sign := by
  simp only [List.mem_cons, List.not_mem_nil, or_false] at known
  rcases known with rfl | rfl | rfl | rfl
  · exact ⟨.equals, rfl, rfl⟩
  · exact ⟨.doubleEquals, rfl, rfl⟩
  · exact ⟨.tripleEquals, rfl, rfl⟩
  · exact ⟨.notEquals, rfl, rfl⟩

end Query

theorem Selector.ofText_folded_of_unknown {entity : String}
    (plain : Query.IsPlain (fold entity.toList))
    (unknown : folded entity ≠ "name" ∧ folded entity ≠ "tenant") :
    ofText (folded entity) = .unsupported (folded entity) := by
  have trimmed : trim (fold entity.toList) = fold entity.toList := plain.trim_eq
  rw [folded] at unknown ⊢
  rw [ofText_eq (trimmed.symm ▸ plain), trimmed, if_neg unknown.1, if_neg unknown.2]

namespace Explorer

/-- A query with a statement that is not understood is answered with nothing. So is a text with a
clause about an unknown attribute, whatever stands in it before and after that clause. -/
theorem search_of_unsupported (orientation : Orientation) (canvas : Canvas) :
    let explorer : Explorer := { orientation }
    (∀ query : Query, (∃ statement ∈ query, statement.IsUnsupported) →
      query.answer (explorer.index canvas) = ⟨[], []⟩) ∧
    ∀ left entity sign pattern right : String, sign ∈ ["=", "==", "===", "!="] →
      Query.IsPattern entity.toList → Query.IsPattern pattern.toList →
      entity.toList.getLast? ≠ some '!' → pattern.toList.head? ≠ some '=' →
      folded entity ≠ "name" ∧ folded entity ≠ "tenant" →
      Operator.Absent (fold entity.toList ++ [' ']) →
      explorer.search canvas (left ++ ";" ++ (entity ++ sign ++ pattern) ++ ";" ++ right) = [] := by
  intro explorer
  refine ⟨fun query ⟨statement, member, unsupported⟩ =>
    Query.answer_of_rejected (Query.accepts_of_isUnsupported member unsupported) _, ?_⟩
  intro left entity sign pattern right known front back final next unknown absent
  obtain ⟨operator, signed, rfl⟩ := Query.exists_operator_of_spelled known
  have alone : Operator.Absent (fold entity.toList) := fun other inside =>
    absent other (inside.trans (List.prefix_append _ _).isInfix)
  have clause := Query.parse_sign signed front back alone final next
  rw [Selector.ofText_folded_of_unknown front.isPlain_fold unknown] at clause
  have rejected : ∀ node, (Query.parse (left ++ ";" ++
      (entity ++ .ofList operator.spelling ++ pattern) ++ ";" ++ right)).accepts node = false := by
    intro node
    rw [Query.accepts_parse_join, Query.accepts_parse_join, clause,
      Query.accepts_of_isUnsupported List.mem_cons_self (Or.inl ⟨_, rfl⟩), Bool.and_false,
      Bool.false_and]
  rw [search, answer, Query.answer_of_rejected rejected]
  rfl

/-- With a mistyped attribute not even the artifacts that differ from the pattern are found. -/
theorem search_of_unsupported_mistyped :
    Query.answer [.bare "a", .make (.unsupported "tennant") .notEquals "x"]
        (index {} Sample.chainWithIsland) = ⟨[], []⟩ ∧
      search {} Sample.chainWithIsland
        ("name=a" ++ ";" ++ ("Tennant" ++ "!=" ++ "X has Y") ++ ";" ++ "b") = [] := by
  have entity : Query.IsPattern "Tennant".toList :=
    ⟨by decide, squeeze_eq_self_iff.mp (by decide), by decide⟩
  have pattern : Query.IsPattern "X has Y".toList :=
    ⟨by decide, squeeze_eq_self_iff.mp (by decide), by decide⟩
  have absent : Operator.Absent (fold "Tennant".toList ++ [' ']) := by
    intro operator
    cases operator <;> decide +kernel
  obtain ⟨answered, searched⟩ := search_of_unsupported .undirected Sample.chainWithIsland
  constructor
  · refine answered _ ⟨.make (.unsupported "tennant") .notEquals "x", ?_, Or.inl ⟨_, rfl⟩⟩
    exact List.mem_cons_of_mem _ List.mem_cons_self
  · exact searched "name=a" "Tennant" "!=" "X has Y" "b" (by decide) entity pattern (by decide)
      (by decide) (by decide +kernel) absent

end Explorer

end AccessCanvas
