import AccessCanvas.Json.Record
import AccessCanvas.Proofs.Json.Layout

/-!
Objects and records. Main statement: a form reads an object when its members, taken one after the
other, fill a draft that makes a record.
-/

namespace AccessCanvas.Json

theorem nextMember_end {gap : List Char} (blank : IsBlankText gap) (first : Bool)
    (rest : List Char) : nextMember first (gap ++ '}' :: rest) = .ok (.finished rest) := by
  rw [nextMember, skipBlanks_append blank rfl]
  rfl

theorem nextMember_lead {first : Bool} {lead : List Char} (leads : IsLead first lead)
    (rest : List Char) : nextMember first (lead ++ '"' :: rest) = .ok (.entry rest) := by
  cases leads with
  | first blank =>
      rw [nextMember, skipBlanks_append blank rfl]
      rfl
  | later front back =>
      rw [List.append_assoc, List.cons_append, nextMember, skipBlanks_append front rfl]
      simp [skipBlanks_append back (show isBlank '"' = false from rfl)]

theorem afterColon_append {gap : List Char} (blank : IsBlankText gap) (rest : List Char) :
    afterColon (gap ++ ':' :: rest) = .ok rest := by
  rw [afterColon, skipBlanks_append blank rfl]
  rfl

section Members

variable {choose : String → σ → Except Fault (Reader σ)} {first : Bool} {draft result : σ}

theorem members_finished {text rest : List Char}
    (ahead : nextMember first text = .ok (.finished rest)) :
    members choose first draft text = .ok (draft, rest) := by
  rw [members]
  split
  · next other => exact absurd (ahead.symm.trans other) (by simp)
  · next other => simp_all
  · next other => exact absurd (ahead.symm.trans other) (by simp)

theorem members_entry {text start afterName content rest : List Char} {name : String} {next : σ}
    {reader : Reader σ} (ahead : nextMember first text = .ok (.entry start))
    (named : stringBody start = .ok (name, afterName)) (chosen : choose name draft = .ok reader)
    (colon : afterColon afterName = .ok content) (read : reader.run content = .ok (next, rest)) :
    members choose first draft text = members choose false next rest := by
  rw [members]
  split
  · next other => exact absurd (ahead.symm.trans other) (by simp)
  · next other => exact absurd (ahead.symm.trans other) (by simp)
  · next other =>
    cases ahead.symm.trans other
    split
    · next failed => exact absurd (named.symm.trans failed) (by simp)
    · next spelled =>
      cases named.symm.trans spelled
      split
      · next failed => exact absurd (chosen.symm.trans failed) (by simp)
      · next picked =>
        cases chosen.symm.trans picked
        split
        · next failed => exact absurd (colon.symm.trans failed) (by simp)
        · next passed =>
          cases colon.symm.trans passed
          split
          · next failed => exact absurd (read.symm.trans failed) (by simp)
          · next made =>
            cases read.symm.trans made
            rfl

inductive Fills (choose : String → σ → Except Fault (Reader σ)) : σ → List (String × Value) → σ → Prop
  | nil (draft : σ) : Fills choose draft [] draft
  | cons {draft next result : σ} {name : String} {value : Value} {reader : Reader σ}
      {later : List (String × Value)} (chosen : choose name draft = .ok reader)
      (reads : Reads reader value next) (rest : Fills choose next later result) :
      Fills choose draft ((name, value) :: later) result

theorem members_spelled {entries : List (String × Value)} {text : List Char}
    (fills : Fills choose draft entries result) (spelled : Value.SpellsMembers first entries text)
    (rest : List Char) : members choose first draft (text ++ rest) = .ok (result, rest) := by
  -- the draft of a later member is the one that the members before it filled
  induction fills generalizing first text with
  | nil =>
      obtain ⟨blank⟩ := spelled
      rw [List.append_assoc]
      exact members_finished (nextMember_end blank first rest)
  | @cons draft next result name value reader later chosen reads _ ih =>
      obtain _ | ⟨leads, front, back, content, others⟩ := spelled
      simp only [List.append_assoc, quotation_append, List.cons_append]
      rw [members_entry (nextMember_lead leads _) (stringBody_quoted name _) chosen
        (afterColon_append front _) (reads.run_eq content back _)]
      exact ih others

theorem solid_object {entries : List (String × Value)} {text : List Char}
    (spelled : (Value.object entries).Spells text) :
    ∃ c rest, text = c :: rest ∧ isBlank c = false ∧ c ≠ ']' := by
  cases spelled
  exact ⟨'{', _, rfl, rfl, by decide⟩

end Members

namespace Form

variable {form : Form draft (Reader draft) record} {member : Member draft (Reader draft)}

theorem choose_eq {name : String} {sofar : draft}
    (listed : form.members.find? (·.name == name) = some member) (fresh : member.given sofar = false) :
    form.choose name sofar = .ok (member.fill sofar) := by
  rw [choose, select, listed]
  simp only [fresh]
  rfl

theorem reads_reader {entries : List (String × Value)} {filled : draft} {result : record}
    (fills : Fills form.choose form.blank entries filled)
    (complete : form.complete (fun _ => .missingField) filled = .ok result) :
    Reads form.reader (.object entries) result where
  solid := solid_object
  run_eq spelled _ blank rest := by
    cases spelled with
    | object inside =>
        simp only [reader, List.cons_append,
          skipBlanks_append blank (show isBlank '{' = false from rfl),
          members_spelled fills inside rest, complete]
        rfl

end Form

end AccessCanvas.Json
