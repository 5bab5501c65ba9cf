import AccessCanvas.Json.Text

/-!
Texts between quotes. Main statement: whatever characters a text has, it is read back from what is
written for it, and what stands after the closing quote is left over.
-/

namespace AccessCanvas.Json

theorem textBody_skipped (skipped text : List Char) :
    textBody skipped.length (skipped ++ text) = textBody 0 text := by
  induction skipped with
  | nil => rfl
  | cons c later ih =>
      rw [List.length_cons, List.cons_append, textBody]
      exact ih

theorem textBody_escaped {spelling text : List Char} {c : Char}
    (escaped : escape (spelling ++ text) = .ok (c, spelling.length)) :
    textBody 0 ('\\' :: (spelling ++ text)) =
      (textBody 0 text).map fun (body, rest) => (c :: body, rest) := by
  have backslash : '\\' ≠ '"' := by decide
  rw [textBody, if_neg backslash, if_pos rfl, escaped]
  simp only [textBody_skipped]
  cases textBody 0 text <;> rfl

theorem textBody_plain {c : Char} (quote : c ≠ '"') (backslash : c ≠ '\\') (graphic : ¬c.toNat < 0x20)
    (text : List Char) :
    textBody 0 (c :: text) = (textBody 0 text).map fun (body, rest) => (c :: body, rest) := by
  rw [textBody, if_neg quote, if_neg backslash, if_neg graphic]
  cases textBody 0 text <;> rfl

theorem hexValue?_digitChar : ∀ digit < 16,
    hexValue? (Nat.digitChar digit) = some digit ∧ (Nat.digitChar digit).utf8Size = 1 := by
  decide

theorem hexCode_control {code : Nat} (control : code < 0x20) (text : List Char) :
    hexCode ('0' :: '0' :: Nat.digitChar (code / 16) :: Nat.digitChar (code % 16) :: text) =
      .ok code := by
  obtain ⟨zero, zeroSize⟩ : hexValue? '0' = some 0 ∧ '0'.utf8Size = 1 :=
    hexValue?_digitChar 0 (by omega)
  obtain ⟨high, highSize⟩ := hexValue?_digitChar (code / 16) (by omega)
  obtain ⟨low, lowSize⟩ := hexValue?_digitChar (code % 16) (by omega)
  let spelling := ['0', '0', Nat.digitChar (code / 16), Nat.digitChar (code % 16)]
  have front : (spelling ++ text).take 4 = spelling := rfl
  have size : AccessCanvas.Text.byteCount spelling = 4 := by
    simp [spelling, AccessCanvas.Text.byteCount, zeroSize, highSize, lowSize]
  have values : spelling.mapM hexValue? = some [0, 0, code / 16, code % 16] := by
    simp [spelling, zero, high, low]
  have sum : ((0 * 16 + 0) * 16 + code / 16) * 16 + code % 16 = code := by omega
  change hexCode (spelling ++ text) = .ok code
  rw [hexCode, front, size, if_neg (Nat.lt_irrefl 4), values]
  exact congrArg Except.ok sum

theorem escape_short {letter c : Char} (plain : letter ≠ 'u') (short : shortEscape? letter = some c)
    (text : List Char) : escape (letter :: text) = .ok (c, 1) := by
  rw [escape, if_neg plain, short]

theorem escape_control {code : Nat} (control : code < 0x20) (text : List Char) :
    escape ('u' :: '0' :: '0' :: Nat.digitChar (code / 16) :: Nat.digitChar (code % 16) :: text) =
      .ok (Char.ofNat code, 5) := by
  have low : ¬(0xDC00 ≤ code && code ≤ 0xDFFF) = true := by simp; omega
  have basic : (code < 0xD800 || 0xDBFF < code) = true := by simp; omega
  rw [escape, if_pos rfl, codeEscape, hexCode_control control]
  simp only [if_neg low, if_pos basic]

theorem textBody_written (c : Char) (text : List Char) :
    textBody 0 (written c ++ text) =
      (textBody 0 text).map fun (body, rest) => (c :: body, rest) := by
  rw [written]
  by_cases quote : c = '"'
  · subst quote
    exact textBody_escaped (escape_short (by decide) rfl text)
  rw [if_neg quote]
  by_cases backslash : c = '\\'
  · subst backslash
    exact textBody_escaped (escape_short (by decide) rfl text)
  rw [if_neg backslash]
  -- the short escapes, each a backslash and a letter
  split
  · next same => exact same ▸ textBody_escaped (escape_short (by decide) rfl text)
  split
  · next same => exact same ▸ textBody_escaped (escape_short (by decide) rfl text)
  split
  · next same => exact same ▸ textBody_escaped (escape_short (by decide) rfl text)
  split
  · next same => exact same ▸ textBody_escaped (escape_short (by decide) rfl text)
  split
  · next same => exact same ▸ textBody_escaped (escape_short (by decide) rfl text)
  split
  · next control =>
    have escaped := escape_control control text
    rw [Char.ofNat_toNat] at escaped
    exact textBody_escaped escaped
  · next graphic => exact textBody_plain quote backslash graphic text

theorem textBody_quoted (text rest : List Char) :
    textBody 0 (text.flatMap written ++ '"' :: rest) = .ok (text, rest) := by
  induction text with
  | nil => rfl
  | cons c later ih =>
      rw [List.flatMap_cons, List.append_assoc, textBody_written, ih]
      rfl

theorem quotation_append (text rest : List Char) :
    quotation text ++ rest = '"' :: (text.flatMap written ++ '"' :: rest) := by
  simp [quotation]

theorem stringBody_quoted (text : String) (rest : List Char) :
    stringBody (text.toList.flatMap written ++ '"' :: rest) = .ok (text, rest) := by
  rw [stringBody, textBody_quoted]
  simp

end AccessCanvas.Json
