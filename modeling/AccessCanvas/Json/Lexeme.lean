import AccessCanvas.Json.Fault
import AccessCanvas.Text.Reader

/-! The smallest parts of a document: white space, words, and what stands between values. -/

namespace AccessCanvas.Json

abbrev Reader := Text.Reader Fault

def isBlank (c : Char) : Bool :=
  c == ' ' || c == '\n' || c == '\t' || c == '\r'

def skipBlanks (text : List Char) : List Char :=
  text.dropWhile isBlank

theorem length_skipBlanks_le (text : List Char) : (skipBlanks text).length ≤ text.length :=
  (List.dropWhile_sublist _).length_le

def afterWord : (word text : List Char) → Except Fault (List Char)
  | [], text => .ok text
  | _ :: _, [] => .error .endOfValue
  | letter :: letters, c :: rest =>
    if letter = c then afterWord letters rest else .error .expectedWord

theorem length_afterWord_le {word text rest : List Char} (read : afterWord word text = .ok rest) :
    rest.length ≤ text.length := by
  induction word generalizing text with
  | nil =>
    simp only [afterWord, Except.ok.injEq] at read
    simp [read]
  | cons letter letters step =>
    cases text with
    | nil => simp [afterWord] at read
    | cons c after =>
      rw [afterWord] at read
      split at read
      · have shorter := step read
        simp only [List.length_cons]
        omega
      · cases read

def afterColon (text : List Char) : Except Fault (List Char) :=
  match skipBlanks text with
  | [] => .error .endOfObject
  | ':' :: rest => .ok rest
  | _ => .error .expectedColon

theorem length_afterColon_lt {text rest : List Char} (read : afterColon text = .ok rest) :
    rest.length < text.length := by
  have shorter := length_skipBlanks_le text
  rw [afterColon] at read
  split at read
  · cases read
  · next seen =>
    simp only [Except.ok.injEq] at read
    subst read
    rw [seen, List.length_cons] at shorter
    omega
  · cases read

inductive Ahead where
  | finished (rest : List Char)
  | entry (text : List Char)

def nextItem (first : Bool) (text : List Char) : Except Fault Ahead :=
  match skipBlanks text with
  | [] => .error .endOfList
  | c :: rest =>
    if c = ']' then .ok (.finished rest)
    else if first then .ok (.entry (c :: rest))
    else if c = ',' then
      match skipBlanks rest with
      | ']' :: _ => .error .trailingComma
      | item => .ok (.entry item)
    else .error .expectedListEnd

/-- What comes next in an object: its end, or the text after the quote that opens a name. -/
def nextMember (first : Bool) (text : List Char) : Except Fault Ahead :=
  match skipBlanks text with
  | [] => .error .endOfObject
  | c :: rest =>
    if c = '}' then .ok (.finished rest)
    else if first then
      if c = '"' then .ok (.entry rest) else .error .keyNotText
    else if c = ',' then
      match skipBlanks rest with
      | [] => .error .endOfValue
      | d :: name =>
        if d = '"' then .ok (.entry name)
        else if d = '}' then .error .trailingComma
        else .error .keyNotText
    else .error .expectedObjectEnd

def afterList (text : List Char) : Except Fault (List Char) :=
  match skipBlanks text with
  | [] => .error .endOfList
  | c :: rest =>
    if c = ']' then .ok rest
    else if c = ',' then
      match skipBlanks rest with
      | ']' :: _ => .error .trailingComma
      | _ => .error .trailingCharacters
    else .error .trailingCharacters

theorem nextItem_finished {first : Bool} {text rest : List Char}
    (read : nextItem first text = .ok (.finished rest)) : rest.length < text.length := by
  have shorter := length_skipBlanks_le text
  rw [nextItem] at read
  split at read
  · cases read
  · next seen =>
    rw [seen, List.length_cons] at shorter
    split at read
    · simp only [Except.ok.injEq, Ahead.finished.injEq] at read
      subst read
      omega
    · split at read
      · cases read
      · split at read
        · split at read <;> cases read
        · cases read

theorem nextItem_entry {first : Bool} {text item : List Char}
    (read : nextItem first text = .ok (.entry item)) : item.length ≤ text.length := by
  have shorter := length_skipBlanks_le text
  rw [nextItem] at read
  split at read
  · cases read
  · next c rest seen =>
    rw [seen] at shorter
    split at read
    · cases read
    · split at read
      · simp only [Except.ok.injEq, Ahead.entry.injEq] at read
        subst read
        exact shorter
      · split at read
        · split at read
          · cases read
          · simp only [Except.ok.injEq, Ahead.entry.injEq] at read
            subst read
            have again := length_skipBlanks_le rest
            rw [List.length_cons] at shorter
            omega
        · cases read

theorem nextMember_finished {first : Bool} {text rest : List Char}
    (read : nextMember first text = .ok (.finished rest)) : rest.length < text.length := by
  have shorter := length_skipBlanks_le text
  rw [nextMember] at read
  split at read
  · cases read
  · next seen =>
    rw [seen, List.length_cons] at shorter
    repeat' split at read
    all_goals try cases read
    omega

theorem nextMember_entry {first : Bool} {text name : List Char}
    (read : nextMember first text = .ok (.entry name)) : name.length < text.length := by
  have shorter := length_skipBlanks_le text
  rw [nextMember] at read
  split at read
  · cases read
  · next c rest seen =>
    rw [seen, List.length_cons] at shorter
    have again := length_skipBlanks_le rest
    repeat' split at read
    all_goals try cases read
    · omega
    · next _ inner =>
      rw [inner, List.length_cons] at again
      omega

theorem length_afterList_lt {text rest : List Char} (read : afterList text = .ok rest) :
    rest.length < text.length := by
  have shorter := length_skipBlanks_le text
  rw [afterList] at read
  split at read
  · cases read
  · next seen =>
    rw [seen, List.length_cons] at shorter
    repeat' split at read
    all_goals try cases read
    omega

end AccessCanvas.Json
