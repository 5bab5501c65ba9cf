import AccessCanvas.Json.Record

/-!
What holds of every value that a reader makes, whatever text it reads. Main statement: when every
member of a form keeps what holds of the draft, it holds of the draft that the record is made from.
-/

namespace AccessCanvas.Json

def Ensures (reader : Reader α) (good : α → Prop) : Prop :=
  ∀ {text rest : List Char} {value : α}, reader.run text = .ok (value, rest) → good value

theorem ensures_map {reader : Reader α} {change : α → β} {good : β → Prop}
    (each : ∀ value, good (change value)) : Ensures (reader.map change) good := by
  intro text rest value read
  simp only [Text.Reader.map] at read
  split at read
  · cases read
  · cases read
    exact each _

theorem ensures_items {item : Reader α} {good : α → Prop} (each : Ensures item good) {first : Bool}
    {text rest : List Char} {values : List α} (read : items item first text = .ok (values, rest)) :
    ∀ value ∈ values, good value := by
  fun_induction items item first text generalizing values with
  | case1 | case3 | case4 => cases read
  | case2 =>
      cases read
      simp
  | case5 _ _ _ _ _ _ inner _ _ found ih =>
      cases read
      rw [List.forall_mem_cons]
      exact ⟨each inner, ih found⟩

theorem ensures_list {item : Reader α} {good : α → Prop} (each : Ensures item good) :
    Ensures (list item) fun values => ∀ value ∈ values, good value := by
  intro text rest values read
  simp only [list] at read
  split at read
  · cases read
  · split at read
    · exact ensures_items each read
    · cases read

theorem good_of_document {reader : Reader α} {good : α → Prop} (each : Ensures reader good)
    {written : String} {value : α} (accepted : document reader written = .ok value) : good value := by
  rw [document] at accepted
  split at accepted
  · cases accepted
  · next read =>
    split at accepted
    · cases accepted
      exact each read
    · cases accepted

section Drafts

variable {kept : σ → Prop}

theorem kept_members {choose : String → σ → Except Fault (Reader σ)}
    (each : ∀ {name : String} {draft : σ} {reader : Reader σ}, kept draft →
      choose name draft = .ok reader → Ensures reader kept)
    {first : Bool} {draft result : σ} {text rest : List Char} (start : kept draft)
    (read : members choose first draft text = .ok (result, rest)) : kept result := by
  fun_induction members choose first draft text with
  | case1 | case3 | case4 | case5 | case6 => cases read
  | case2 =>
      cases read
      exact start
  | case7 _ _ _ _ _ _ _ _ _ chosen _ _ _ _ inner ih =>
      exact ih (each start chosen inner) read

namespace Form

variable {form : Form σ (Reader σ) record}

theorem kept_inOrder {parts : List (Member σ (Reader σ))}
    (each : ∀ part ∈ parts, ∀ {draft : σ}, kept draft → Ensures (part.fill draft) kept)
    {first : Bool} {draft result : σ} {text rest : List Char} (start : kept draft)
    (read : inOrder parts first draft text = .ok (result, rest)) : kept result := by
  induction parts generalizing first draft text with
  | nil =>
      obtain ⟨after, -, same⟩ := Text.exists_of_map_eq_ok read
      cases same
      exact start
  | cons part later ih =>
      rw [inOrder] at read
      split at read
      · cases read
      · cases read
        exact start
      · split at read
        · cases read
        · next inner =>
          exact ih (fun other member => each other (List.mem_cons_of_mem _ member))
            (each part List.mem_cons_self start inner) read

theorem kept_of_choose (each : ∀ part ∈ form.members, ∀ {draft : σ}, kept draft →
      Ensures (part.fill draft) kept) {name : String} {draft : σ} {reader : Reader σ}
    (start : kept draft) (chosen : form.choose name draft = .ok reader) : Ensures reader kept := by
  rw [choose, select] at chosen
  split at chosen
  · cases chosen
    exact ensures_map fun _ => start
  · next part listed =>
    split at chosen
    · cases chosen
    · cases chosen
      exact each part (List.mem_of_find?_eq_some listed) start

theorem ensures_reader {good : record → Prop} (kept : σ → Prop) (blank : kept form.blank)
    (each : ∀ part ∈ form.members, ∀ {draft : σ}, kept draft → Ensures (part.fill draft) kept)
    (complete : ∀ {absent : Nat → String → Fault} {draft : σ} {result : record}, kept draft →
      form.complete absent draft = .ok result → good result) : Ensures form.reader good := by
  intro text rest result read
  simp only [reader] at read
  split at read
  · cases read
  · split at read
    · split at read
      · cases read
      · next filled =>
        obtain ⟨made, completed, same⟩ := Text.exists_of_map_eq_ok read
        cases same
        exact complete (kept_members (kept_of_choose each) blank filled) completed
    · split at read
      · split at read
        · cases read
        · next filled =>
          obtain ⟨made, completed, same⟩ := Text.exists_of_map_eq_ok read
          cases same
          exact complete (kept_inOrder each blank filled) completed
      · cases read

end Form

end Drafts

end AccessCanvas.Json
