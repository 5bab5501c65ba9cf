import AccessCanvas.Text.Blank
import AccessCanvas.Text.Fold
import AccessCanvas.Text.Unprintable

/-!
Strings: trimmed and folded, searched for one another, and as a message shows them.
-/

namespace AccessCanvas.Text

def trimmed (text : String) : String :=
  .ofList (trim text.toList)

def folded (text : String) : String :=
  .ofList (fold text.toList)

theorem folded_folded (text : String) : folded (folded text) = folded text := by
  simp [folded, fold_fold]

def isVacant (text : String) : Bool :=
  (trim text.toList).isEmpty

def occursIn (part : List Char) : List Char → Bool
  | [] => part.isEmpty
  | c :: rest => part.isPrefixOf (c :: rest) || occursIn part rest

theorem occursIn_iff (part text : List Char) : occursIn part text = true ↔ part <:+: text := by
  induction text with
  | nil => simp [occursIn]
  | cons c rest step =>
    rw [occursIn, Bool.or_eq_true, step, List.isPrefixOf_iff_prefix, List.infix_cons_iff]

def byteCount : List Char → Nat
  | [] => 0
  | c :: rest => c.utf8Size + byteCount rest

theorem byteCount_append (left right : List Char) :
    byteCount (left ++ right) = byteCount left + byteCount right := by
  induction left with
  | nil => simp [byteCount]
  | cons c rest step => rw [List.cons_append, byteCount, byteCount, step, Nat.add_assoc]

def isUnprintable (c : Char) : Bool :=
  covered unprintableRanges c.toNat

def hexadecimal (code : Nat) : List Char :=
  Nat.toDigits 16 code

def spelled (c : Char) : List Char :=
  if c = '"' then ['\\', '"']
  else if c = '\\' then ['\\', '\\']
  else if c = '\n' then ['\\', 'n']
  else if c = '\r' then ['\\', 'r']
  else if c = '\t' then ['\\', 't']
  else if c = '\x00' then ['\\', '0']
  else if isUnprintable c then ['\\', 'u', '{'] ++ hexadecimal c.toNat ++ ['}']
  else [c]

def quoted (text : String) : String :=
  .ofList (['"'] ++ text.toList.flatMap spelled ++ ['"'])

def ticked (word : String) : String :=
  "`" ++ word ++ "`"

def listing : List String → String
  | [] => "nothing"
  | [only] => ticked only
  | [first, second] => ticked first ++ " or " ++ ticked second
  | words => "one of " ++ ", ".intercalate (words.map ticked)

def byWord (word : α → String) (values : List α) : List (String × α) :=
  values.map fun value => (word value, value)

end AccessCanvas.Text
