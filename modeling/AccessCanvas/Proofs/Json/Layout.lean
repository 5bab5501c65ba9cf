import Mathlib.Data.List.Forall2
import AccessCanvas.Json.Nested
import AccessCanvas.Proofs.Json.Text

/-!
Reading what was written. A text spells a value whatever white space stands between its parts; a
reader reads the value when, from every text that spells it, it makes one result and leaves what
follows. Main statements: a value is spelled when it is laid out; the readers of texts, choices,
lists and whole documents read what they are made for.
-/

namespace AccessCanvas.Json

def IsBlankText (text : List Char) : Prop :=
  ∀ c ∈ text, isBlank c = true

theorem isBlankText_nil : IsBlankText [] := by
  simp [IsBlankText]

theorem isBlankText_space : IsBlankText [' '] := by
  simp [IsBlankText, isBlank]

theorem isBlankText_indentation (level : Nat) : IsBlankText (Value.indentation level) := by
  intro c member
  rw [Value.indentation, List.mem_cons, List.mem_replicate] at member
  rcases member with rfl | ⟨-, rfl⟩ <;> rfl

theorem skipBlanks_append {before : List Char} (blank : IsBlankText before) {c : Char}
    (solid : isBlank c = false) (rest : List Char) :
    skipBlanks (before ++ c :: rest) = c :: rest := by
  rw [skipBlanks, List.dropWhile_append_of_pos blank, List.dropWhile_cons_of_neg (by simp [solid])]

/-- What stands before an entry: white space, with a comma in it when the entry is not the first. -/
inductive IsLead : (first : Bool) → List Char → Prop
  | first {gap : List Char} (blank : IsBlankText gap) : IsLead true gap
  | later {before after : List Char} (front : IsBlankText before) (back : IsBlankText after) :
      IsLead false (before ++ ',' :: after)

namespace Value

mutual

inductive Spells : Value → List Char → Prop
  | null : Spells .null "null".toList
  | boolean (value : Bool) : Spells (.boolean value) (if value then "true" else "false").toList
  | number (value : Number) : Spells (.number value) value.text.toList
  | text (value : String) : Spells (.text value) (quotation value.toList)
  | list {items : List Value} {inside : List Char} (each : SpellsItems true items inside) :
      Spells (.list items) ('[' :: inside)
  | object {members : List (String × Value)} {inside : List Char}
      (each : SpellsMembers true members inside) : Spells (.object members) ('{' :: inside)

inductive SpellsItems : (first : Bool) → List Value → List Char → Prop
  | nil {first : Bool} {gap : List Char} (blank : IsBlankText gap) :
      SpellsItems first [] (gap ++ [']'])
  | cons {first : Bool} {item : Value} {later : List Value} {lead text rest : List Char}
      (leads : IsLead first lead) (spelled : Spells item text)
      (others : SpellsItems false later rest) :
      SpellsItems first (item :: later) (lead ++ (text ++ rest))

inductive SpellsMembers : (first : Bool) → List (String × Value) → List Char → Prop
  | nil {first : Bool} {gap : List Char} (blank : IsBlankText gap) :
      SpellsMembers first [] (gap ++ ['}'])
  | cons {first : Bool} {name : String} {value : Value} {later : List (String × Value)}
      {lead before after text rest : List Char} (leads : IsLead first lead)
      (front : IsBlankText before) (back : IsBlankText after) (spelled : Spells value text)
      (others : SpellsMembers false later rest) :
      SpellsMembers first ((name, value) :: later)
        (lead ++ (quotation name.toList ++ (before ++ ':' :: (after ++ (text ++ rest)))))

end

theorem isLead_indentation (level : Nat) : IsLead false (',' :: indentation level) :=
  .later isBlankText_nil (isBlankText_indentation level)

mutual

theorem spells_layout (level : Nat) : (value : Value) → Spells value (value.layout level)
  | .null => by rw [layout]; exact .null
  | .boolean value => by rw [layout]; exact .boolean value
  | .number value => by rw [layout]; exact .number value
  | .text value => by rw [layout]; exact .text value
  | .list [] => by rw [layout]; exact .list (.nil isBlankText_nil)
  | .list (item :: items) => by
      have inside := SpellsItems.cons (.first (isBlankText_indentation (level + 1)))
        (spells_layout (level + 1) item) (spells_layoutItems (level + 1) level items)
      rw [layout]
      simpa using Spells.list inside
  | .object [] => by rw [layout]; exact .object (.nil isBlankText_nil)
  | .object ((name, value) :: members) => by
      have inside : SpellsMembers true ((name, value) :: members) _ :=
        .cons (.first (isBlankText_indentation (level + 1))) isBlankText_nil isBlankText_space
          (spells_layout (level + 1) value) (spells_layoutMembers (level + 1) level members)
      rw [layout]
      simpa using Spells.object inside

theorem spells_layoutItems (level outer : Nat) : (items : List Value) →
    SpellsItems false items (layoutItems level items ++ (indentation outer ++ [']']))
  | [] => by rw [layoutItems]; exact .nil (isBlankText_indentation outer)
  | item :: items => by
      have inside := SpellsItems.cons (isLead_indentation level) (spells_layout level item)
        (spells_layoutItems level outer items)
      rw [layoutItems]
      simpa using inside

theorem spells_layoutMembers (level outer : Nat) : (members : List (String × Value)) →
    SpellsMembers false members (layoutMembers level members ++ (indentation outer ++ ['}']))
  | [] => by rw [layoutMembers]; exact .nil (isBlankText_indentation outer)
  | (name, value) :: members => by
      have inside : SpellsMembers false ((name, value) :: members) _ :=
        .cons (isLead_indentation level) isBlankText_nil isBlankText_space
          (spells_layout level value) (spells_layoutMembers level outer members)
      rw [layoutMembers]
      simpa using inside

end

end Value

structure Reads (reader : Reader α) (value : Value) (result : α) : Prop where
  /-- The value starts with a character that ends neither white space nor a list. -/
  solid : ∀ {text}, value.Spells text → ∃ c rest, text = c :: rest ∧ isBlank c = false ∧ c ≠ ']'
  run_eq : ∀ {text}, value.Spells text → ∀ {before}, IsBlankText before → ∀ rest,
    reader.run (before ++ (text ++ rest)) = .ok (result, rest)

theorem Reads.map {reader : Reader α} {value : Value} {result : α} (reads : Reads reader value result)
    (change : α → β) : Reads (reader.map change) value (change result) where
  solid := reads.solid
  run_eq spelled _ blank rest := by
    simp only [Text.Reader.map, reads.run_eq spelled blank rest]

section Scalars

theorem Reads.of_text {reader : Reader α} {name : String} {result : α}
    (run : ∀ {before}, IsBlankText before → ∀ rest,
      reader.run (before ++ '"' :: (name.toList.flatMap written ++ '"' :: rest)) =
        .ok (result, rest)) : Reads reader (.text name) result where
  solid spelled := by
    cases spelled
    exact ⟨'"', name.toList.flatMap written ++ ['"'], by simp [quotation], rfl, by decide⟩
  run_eq spelled _ blank rest := by
    cases spelled
    rw [quotation_append]
    exact run blank rest

variable {options : List (String × α)} {name : String} {value : α}

theorem textAs_quoted (expected : String) {before : List Char} (blank : IsBlankText before)
    (name : String) (rest : List Char) :
    (textAs expected).run (before ++ '"' :: (name.toList.flatMap written ++ '"' :: rest)) =
      .ok (name, rest) := by
  simp only [textAs, skipBlanks_append blank (show isBlank '"' = false from rfl)]
  exact stringBody_quoted name rest

theorem variant_quoted (named : optionNamed options name = .ok value) {before : List Char}
    (blank : IsBlankText before) (rest : List Char) :
    (variant options).run (before ++ '"' :: (name.toList.flatMap written ++ '"' :: rest)) =
      .ok (value, rest) := by
  simp only [variant, textAs_quoted _ blank, named]
  rfl

theorem reads_text (name : String) : Reads text (.text name) name :=
  .of_text fun blank => textAs_quoted "a string" blank name

theorem reads_variant (named : optionNamed options name = .ok value) :
    Reads (variant options) (.text name) value :=
  .of_text fun blank => variant_quoted named blank

theorem reads_choice (named : optionNamed options name = .ok value) :
    Reads (choice options) (.text name) value := by
  refine .of_text fun blank rest => ?_
  simp only [choice, skipBlanks_append blank (show isBlank '"' = false from rfl)]
  exact variant_quoted named isBlankText_nil rest

theorem optionNamed_byWord {word : α → String} {values : List α} (distinct : (values.map word).Nodup)
    {value : α} (listed : value ∈ values) :
    optionNamed (Text.byWord word values) (word value) = .ok value := by
  induction values with
  | nil => simp at listed
  | cons head later ih =>
      rw [List.map_cons, List.nodup_cons] at distinct
      rw [optionNamed, Text.byWord, List.map_cons, List.find?_cons]
      rcases List.mem_cons.mp listed with rfl | member
      · simp
      · have other : (word head == word value) = false := by
          rw [beq_eq_false_iff_ne]
          intro same
          exact distinct.1 (same ▸ List.mem_map_of_mem member)
        have found := ih distinct.2 member
        rw [optionNamed, Text.byWord] at found
        simp only [other]
        split at found
        · next option here =>
          rw [here]
          exact found
        · cases found

theorem afterWord_append (word rest : List Char) : afterWord word (word ++ rest) = .ok rest := by
  induction word with
  | nil => cases rest <;> rfl
  | cons letter later ih =>
      rw [List.cons_append, afterWord, if_pos rfl]
      exact ih

theorem scalarHead_word {letter : Char} {letters : String} {value : Value}
    (word : wordOf? letter = some (letters, value)) (rest : List Char) :
    scalarHead (letter :: (letters.toList ++ rest)) = .ok (value, rest) := by
  simp only [scalarHead, word, afterWord_append]
  rfl

theorem scalarHead_text (name : String) (rest : List Char) :
    scalarHead ('"' :: (name.toList.flatMap written ++ '"' :: rest)) = .ok (.text name, rest) := by
  simp only [scalarHead, show wordOf? '"' = none from rfl, show startsNumber '"' = false from rfl,
    stringBody_quoted]
  rfl

theorem run_any_scalar (levels : Nat) {before : List Char} (blank : IsBlankText before) {c : Char}
    (solid : isBlank c = false) (scalar : c ≠ '[' ∧ c ≠ '{') (rest : List Char) :
    (any levels).run (before ++ c :: rest) = scalarHead (c :: rest) := by
  have outermost : ∃ inner, any levels = anyWithin inner := by
    cases levels with
    | zero => exact ⟨none, rfl⟩
    | succ levels => exact ⟨some (any levels), rfl⟩
  obtain ⟨inner, same⟩ := outermost
  simp only [same, anyWithin, skipBlanks_append blank solid, if_neg scalar.1, if_neg scalar.2]

theorem reads_any_text (levels : Nat) (name : String) :
    Reads (any levels) (.text name) (.text name) := by
  refine .of_text fun blank rest => ?_
  rw [run_any_scalar levels blank rfl (by decide)]
  exact scalarHead_text name rest

theorem reads_any_boolean (levels : Nat) (value : Bool) :
    Reads (any levels) (.boolean value) (.boolean value) := by
  have spelled : ∃ letter letters, wordOf? letter = some (letters, .boolean value) ∧
      (if value then "true" else "false").toList = letter :: letters.toList ∧
      isBlank letter = false ∧ letter ≠ ']' ∧ letter ≠ '[' ∧ letter ≠ '{' := by
    cases value
    · exact ⟨'f', "alse", rfl, rfl, by decide⟩
    · exact ⟨'t', "rue", rfl, rfl, by decide⟩
  obtain ⟨letter, letters, word, whole, solid, inside, scalar⟩ := spelled
  constructor
  · intro text spelled
    cases spelled
    exact ⟨letter, letters.toList, whole, solid, inside⟩
  · intro text spelled before blank rest
    cases spelled
    rw [whole, List.cons_append, run_any_scalar levels blank solid scalar]
    exact scalarHead_word word rest

end Scalars

section Lists

theorem nextItem_end {gap : List Char} (blank : IsBlankText gap) (first : Bool)
    (rest : List Char) : nextItem first (gap ++ ']' :: rest) = .ok (.finished rest) := by
  rw [nextItem, skipBlanks_append blank rfl]
  rfl

theorem nextItem_lead {first : Bool} {lead : List Char} (leads : IsLead first lead) {c : Char}
    (solid : isBlank c = false) (more : c ≠ ']') (rest : List Char) :
    nextItem first (lead ++ c :: rest) = .ok (.entry (c :: rest)) := by
  cases leads with
  | first blank =>
      rw [nextItem, skipBlanks_append blank solid]
      simp [more]
  | later front back =>
      rw [List.append_assoc, List.cons_append, nextItem, skipBlanks_append front rfl]
      simp [skipBlanks_append back solid, more]

variable {item : Reader α} {first : Bool} {text start rest after : List Char}

theorem items_finished (ahead : nextItem first text = .ok (.finished rest)) :
    items item first text = .ok ([], rest) := by
  rw [items]
  split
  · next other => exact absurd (ahead.symm.trans other) (by simp)
  · next other => simp_all
  · next other => exact absurd (ahead.symm.trans other) (by simp)

theorem items_entry {value : α} {values : List α} (ahead : nextItem first text = .ok (.entry start))
    (read : item.run start = .ok (value, rest))
    (later : items item false rest = .ok (values, after)) :
    items item first text = .ok (value :: values, after) := by
  rw [items]
  split
  · next other => exact absurd (ahead.symm.trans other) (by simp)
  · next other => exact absurd (ahead.symm.trans other) (by simp)
  · next other =>
    cases ahead.symm.trans other
    split
    · next failed => exact absurd (read.symm.trans failed) (by simp)
    · next made =>
      cases read.symm.trans made
      simp only [later]

theorem items_spelled {values : List Value} {results : List α}
    (each : List.Forall₂ (Reads item) values results) (spelled : Value.SpellsItems first values text)
    (rest : List Char) : items item first (text ++ rest) = .ok (results, rest) := by
  induction each generalizing first text with
  | nil =>
      obtain ⟨blank⟩ := spelled
      rw [List.append_assoc]
      exact items_finished (nextItem_end blank first rest)
  | cons reads _ ih =>
      obtain _ | ⟨leads, head, others⟩ := spelled
      obtain ⟨c, after, whole, solid, inside⟩ := reads.solid head
      have read := reads.run_eq head isBlankText_nil
      rw [List.append_assoc, List.append_assoc]
      subst whole
      exact items_entry (nextItem_lead leads solid inside _) (read _) (ih others)

theorem reads_list {values : List Value} {results : List α}
    (each : List.Forall₂ (Reads item) values results) :
    Reads (list item) (.list values) results where
  solid spelled := by
    cases spelled
    exact ⟨'[', _, rfl, rfl, by decide⟩
  run_eq spelled _ blank rest := by
    cases spelled with
    | list inside =>
        simp only [list, List.cons_append, skipBlanks_append blank (show isBlank '[' = false from rfl)]
        exact items_spelled each inside rest

theorem reads_list_map {encode : α → Value} {results : List α}
    (each : ∀ result ∈ results, Reads item (encode result) result) :
    Reads (list item) (.list (results.map encode)) results :=
  reads_list (List.forall₂_map_left_iff.mpr (List.forall₂_same.mpr each))

end Lists

theorem document_spelled {reader : Reader α} {value : Value} {result : α}
    (reads : Reads reader value result) {before text after : List Char} (front : IsBlankText before)
    (spelled : value.Spells text) (back : IsBlankText after) :
    document reader (.ofList (before ++ (text ++ after))) = .ok result := by
  have rest : skipBlanks after = [] := by
    rw [skipBlanks, ← List.append_nil after, List.dropWhile_append_of_pos back, List.dropWhile_nil]
  rw [document, String.toList_ofList, reads.run_eq spelled front]
  simp only [rest]
  rfl

theorem document_pretty_append {reader : Reader α} {value : Value} {result : α}
    (reads : Reads reader value result) {after : String} (blank : IsBlankText after.toList) :
    document reader (value.pretty ++ after) = .ok result := by
  have read := document_spelled reads isBlankText_nil (value.spells_layout 0) blank
  rwa [List.nil_append, String.ofList_append, String.ofList_toList] at read

theorem document_pretty {reader : Reader α} {value : Value} {result : α}
    (reads : Reads reader value result) : document reader value.pretty = .ok result := by
  rw [← String.append_empty (s := value.pretty)]
  exact document_pretty_append reads isBlankText_nil

end AccessCanvas.Json
