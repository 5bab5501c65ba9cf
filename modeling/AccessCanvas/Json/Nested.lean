import AccessCanvas.Json.Reader

/-!
Lists and objects. What an entry is read as depends only on its place: for lists one reader serves
every item, for objects the reader of a member is chosen by its name and by what was read before.
-/

namespace AccessCanvas.Json

def items (item : Reader α) (first : Bool) (text : List Char) : Except Fault (List α × List Char) :=
  match _ahead : nextItem first text with
  | .error fault => .error fault
  | .ok (.finished rest) => .ok ([], rest)
  | .ok (.entry start) =>
    match _read : item.run start with
    | .error fault => .error fault
    | .ok (value, rest) =>
      match items item false rest with
      | .error fault => .error fault
      | .ok (values, after) => .ok (value :: values, after)
termination_by text.length
decreasing_by exact Nat.lt_of_lt_of_le (item.consumes _read) (nextItem_entry _ahead)

theorem length_items_lt {item : Reader α} {first : Bool} {text rest : List Char}
    {values : List α} (read : items item first text = .ok (values, rest)) :
    rest.length < text.length := by
  fun_induction items item first text generalizing values with
  | case1 => cases read
  | case2 _ _ _ ahead =>
    cases read
    exact nextItem_finished ahead
  | case3 => cases read
  | case4 => cases read
  | case5 _ _ _ ahead _ _ inner _ _ found step =>
    cases read
    have first := nextItem_entry ahead
    have second := item.consumes inner
    have third := step found
    omega

def list (item : Reader α) : Reader (List α) where
  run text :=
    match skipBlanks text with
    | [] => .error .endOfValue
    | c :: rest =>
      if c = '[' then items item true rest else .error (unexpected "a sequence" (c :: rest))
  consumes {text _ _} read := by
    have shorter := length_skipBlanks_le text
    split at read
    · cases read
    · next seen =>
      rw [seen, List.length_cons] at shorter
      split at read
      · have inner := length_items_lt read
        omega
      · cases read

/-- The members of an object up to its end. A draft holds what was read so far; `choose` gives the
reader of a member, which makes the next draft. -/
def members (choose : String → σ → Except Fault (Reader σ)) (first : Bool) (draft : σ)
    (text : List Char) : Except Fault (σ × List Char) :=
  match _ahead : nextMember first text with
  | .error fault => .error fault
  | .ok (.finished rest) => .ok (draft, rest)
  | .ok (.entry start) =>
    match _name : stringBody start with
    | .error fault => .error fault
    | .ok (name, afterName) =>
      match choose name draft with
      | .error fault => .error fault
      | .ok reader =>
        match _colon : afterColon afterName with
        | .error fault => .error fault
        | .ok content =>
          match _read : reader.run content with
          | .error fault => .error fault
          | .ok (next, rest) => members choose false next rest
termination_by text.length
decreasing_by
  have first := nextMember_entry _ahead
  have second := length_stringBody_lt _name
  have third := length_afterColon_lt _colon
  have fourth := reader.consumes _read
  omega

theorem length_members_lt {choose : String → σ → Except Fault (Reader σ)} {first : Bool}
    {draft result : σ} {text rest : List Char}
    (read : members choose first draft text = .ok (result, rest)) : rest.length < text.length := by
  fun_induction members choose first draft text with
  | case1 => cases read
  | case2 _ _ _ _ ahead =>
    cases read
    exact nextMember_finished ahead
  | case3 => cases read
  | case4 => cases read
  | case5 => cases read
  | case6 => cases read
  | case7 _ _ _ _ ahead _ _ name reader _ _ colon _ _ inner step =>
    have first := nextMember_entry ahead
    have second := length_stringBody_lt name
    have third := length_afterColon_lt colon
    have fourth := reader.consumes inner
    have fifth := step read
    omega

def anyWithin (inner : Option (Reader Value)) : Reader Value where
  run text :=
    match skipBlanks text with
    | [] => .error .endOfValue
    | c :: rest =>
      if c = '[' then
        match inner with
        | none => .error .tooDeep
        | some reader => (items reader true rest).map fun (values, after) => (.list values, after)
      else if c = '{' then
        match inner with
        | none => .error .tooDeep
        | some reader =>
          (members (fun name draft => .ok (reader.map fun value => draft ++ [(name, value)]))
            true [] rest).map fun (entries, after) => (.object entries, after)
      else scalarHead (c :: rest)
  consumes {text _ _} read := by
    have shorter := length_skipBlanks_le text
    split at read
    · cases read
    · next seen =>
      rw [seen, List.length_cons] at shorter
      split at read
      · split at read
        · cases read
        · obtain ⟨parts, found, same⟩ := Text.exists_of_map_eq_ok read
          cases same
          have inside := length_items_lt found
          omega
      · split at read
        · split at read
          · cases read
          · obtain ⟨parts, found, same⟩ := Text.exists_of_map_eq_ok read
            cases same
            have inside := length_members_lt found
            omega
        · have inside := length_scalarHead_lt read
          rw [List.length_cons] at inside
          omega

def any : (levels : Nat) → Reader Value
  | 0 => anyWithin none
  | levels + 1 => anyWithin (some (any levels))

/-- The number of levels that values which are kept may be nested in, counted from the outside of
the document. -/
def maxDepth : Nat := 127

end AccessCanvas.Json
