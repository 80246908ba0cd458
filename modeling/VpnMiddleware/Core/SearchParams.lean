import Mathlib.Algebra.GroupWithZero.Nat
import Mathlib.Data.List.Basic
import VpnMiddleware.Core.WebText

/-!
# Query strings

`URLSearchParams` as a reader: pieces between `&`, the name before the first
`=`, `+` for a blank, percent-decoding and UTF-8 with replacement characters.
What a percent-encoder writes is read back.
-/

namespace VpnMiddleware.SearchParams

open VpnMiddleware.WebText

/-! ## UTF-8 with replacement -/

/-- The ranges of the bytes that may follow a first byte; `none` starts no
sequence. -/
def continuations (first : UInt8) : Option (List (ℕ × ℕ)) :=
  let value := first.toNat
  if value ≤ 0x7F then some []
  else if 0xC2 ≤ value ∧ value ≤ 0xDF then some [(0x80, 0xBF)]
  else if value = 0xE0 then some [(0xA0, 0xBF), (0x80, 0xBF)]
  else if value = 0xED then some [(0x80, 0x9F), (0x80, 0xBF)]
  else if 0xE1 ≤ value ∧ value ≤ 0xEF then some [(0x80, 0xBF), (0x80, 0xBF)]
  else if value = 0xF0 then some [(0x90, 0xBF), (0x80, 0xBF), (0x80, 0xBF)]
  else if 0xF1 ≤ value ∧ value ≤ 0xF3 then
    some [(0x80, 0xBF), (0x80, 0xBF), (0x80, 0xBF)]
  else if value = 0xF4 then some [(0x80, 0x8F), (0x80, 0xBF), (0x80, 0xBF)]
  else none

/-- How many bytes continue a sequence. -/
def continued : List (ℕ × ℕ) → List UInt8 → ℕ
  | (low, high) :: ranges, byte :: bytes =>
      if low ≤ byte.toNat ∧ byte.toNat ≤ high then continued ranges bytes + 1
      else 0
  | _, _ => 0

/-- The character of a complete sequence. -/
def sequenceChar (first : UInt8) (rest : List UInt8) : Char :=
  let lead := if rest = [] then first.toNat
    else first.toNat % 2 ^ (6 - rest.length)
  Char.ofNat (rest.foldl (fun value byte => value * 64 + byte.toNat % 64) lead)

/-- Every maximal part of a sequence that breaks off is one replacement
character. -/
def decodeReplacing : List UInt8 → List Char
  | [] => []
  | first :: rest =>
      match continuations first with
      | none => '\uFFFD' :: decodeReplacing rest
      | some ranges =>
          let count := continued ranges rest
          let c :=
            if count = ranges.length then sequenceChar first (rest.take count)
            else '\uFFFD'
          c :: decodeReplacing (rest.drop count)
  termination_by bytes => bytes.length
  decreasing_by all_goals simp; try omega

def utf8Bytes (text : List Char) : List UInt8 :=
  text.flatMap String.utf8EncodeChar

/-- The UTF-8 decoder that does not fail; a byte order mark stays. -/
def utf8DecodeReplacing (bytes : List UInt8) : List Char :=
  match (ByteArray.mk bytes.toArray).utf8Decode? with
  | some chars => chars.toList
  | none => decodeReplacing bytes

@[simp]
theorem utf8DecodeReplacing_utf8Bytes (text : List Char) :
    utf8DecodeReplacing (utf8Bytes text) = text := by
  have hbytes : ByteArray.mk (utf8Bytes text).toArray = text.utf8Encode := by
    apply ByteArray.ext
    rw [List.utf8Encode, List.data_toByteArray]
    rfl
  rw [utf8DecodeReplacing, hbytes, List.utf8Decode?_utf8Encode]

/-! ## Form decoding -/

def hexValue (c : Char) : Option ℕ :=
  if '0' ≤ c ∧ c ≤ '9' then some (c.toNat - 48)
  else if 'A' ≤ c ∧ c ≤ 'F' then some (c.toNat - 55)
  else if 'a' ≤ c ∧ c ≤ 'f' then some (c.toNat - 87)
  else none

/-- The bytes of a name or a value: `%` and two digits are a byte, `+` is a
blank. -/
def formBytes : List Char → List UInt8
  | [] => []
  | '%' :: high :: low :: rest =>
      match hexValue high, hexValue low with
      | some upper, some lower =>
          UInt8.ofNat (upper * 16 + lower) :: formBytes rest
      | _, _ => 0x25 :: formBytes (high :: low :: rest)
  | c :: rest => String.utf8EncodeChar (if c = '+' then ' ' else c) ++ formBytes rest

def formDecode (text : List Char) : String :=
  String.ofList (utf8DecodeReplacing (formBytes text))

/-- The name and the value of a piece. -/
def readPiece (piece : List Char) : String × String :=
  (formDecode (piece.takeWhile (· != '=')),
    formDecode ((piece.dropWhile (· != '=')).drop 1))

/-- A leading question mark is not part of the query. -/
def dropQuestionMark : List Char → List Char
  | '?' :: rest => rest
  | text => text

/-- The entries of `new URLSearchParams(text)`. -/
def searchParams (text : List Char) : List (String × String) :=
  (((dropQuestionMark text).splitOn '&').filter (· ≠ [])).map readPiece

/-! ## Percent encoders -/

/-- Characters with a meaning in a query string. -/
def reserved : List Char := ['%', '&', '=', '+', '?']

/-- A percent-encoder, by the characters that it leaves alone. -/
structure Encoder where
  keep : Char → Bool
  escapes : ∀ c ∈ reserved, keep c = false

/-- `encodeURIComponent`. -/
def componentEncoder : Encoder where
  keep c := c.isAlphanum || componentMarks.contains c
  escapes := by simp [reserved, componentMarks]

namespace Encoder

variable (encoder : Encoder)

def encodeChar (c : Char) : List Char :=
  if encoder.keep c then [c] else (String.utf8EncodeChar c).flatMap percentByte

def encode (text : String) : List Char := text.toList.flatMap encoder.encodeChar

def encodeField (field : String × String) : List Char :=
  encoder.encode field.1 ++ '=' :: encoder.encode field.2

/-- The fields, joined by `&`. -/
def encodeFields (fields : List (String × String)) : List Char :=
  ['&'].intercalate (fields.map encoder.encodeField)

end Encoder

/-! ## Reading back -/

private theorem hexDigits_read (value : Fin 16) :
    hexValue (hexDigit value.val) = some value.val ∧
      hexDigit value.val ∉ reserved := by
  revert value
  decide +kernel

theorem hexValue_hexDigit {value : ℕ} (hvalue : value < 16) :
    hexValue (hexDigit value) = some value :=
  (hexDigits_read ⟨value, hvalue⟩).1

theorem hexDigit_not_reserved {value : ℕ} (hvalue : value < 16) :
    hexDigit value ∉ reserved :=
  (hexDigits_read ⟨value, hvalue⟩).2

theorem formBytes_percentByte (byte : UInt8) (rest : List Char) :
    formBytes (percentByte byte ++ rest) = byte :: formBytes rest := by
  have hbyte := byte.toNat_lt
  have hupper := @hexValue_hexDigit (byte.toNat / 16) (by omega)
  have hlower := @hexValue_hexDigit (byte.toNat % 16) (by omega)
  have hvalue : byte.toNat / 16 * 16 + byte.toNat % 16 = byte.toNat := by omega
  simp only [percentByte, List.cons_append, List.nil_append, formBytes, hupper,
    hlower, hvalue, UInt8.ofNat_toNat]

theorem formBytes_percentBytes (bytes : List UInt8) (rest : List Char) :
    formBytes (bytes.flatMap percentByte ++ rest) = bytes ++ formBytes rest := by
  induction bytes with
  | nil => rfl
  | cons byte bytes ih =>
      rw [List.flatMap_cons, List.append_assoc, formBytes_percentByte, ih]
      rfl

theorem formBytes_plain {c : Char} (hpercent : c ≠ '%') (hplus : c ≠ '+')
    (rest : List Char) :
    formBytes (c :: rest) = String.utf8EncodeChar c ++ formBytes rest := by
  rw [formBytes]
  · rw [if_neg hplus]
  · intro high low rest' heq
    exact absurd heq hpercent

/-- A text without escapes is itself. -/
theorem formDecode_plain {text : List Char}
    (hplain : ∀ c ∈ text, c ≠ '%' ∧ c ≠ '+') :
    formDecode text = String.ofList text := by
  have hbytes : formBytes text = utf8Bytes text := by
    induction text with
    | nil => rfl
    | cons c text ih =>
        rw [List.forall_mem_cons] at hplain
        rw [formBytes_plain hplain.1.1 hplain.1.2, ih hplain.2]
        rfl
  rw [formDecode, hbytes, utf8DecodeReplacing_utf8Bytes]

/-! ## Pieces -/

theorem mem_intercalate {separator c : Char} {pieces : List (List Char)}
    (hc : c ∈ [separator].intercalate pieces) :
    c = separator ∨ ∃ piece ∈ pieces, c ∈ piece := by
  induction pieces with
  | nil => cases hc
  | cons first pieces ih =>
      cases pieces with
      | nil =>
          rw [List.intercalate_singleton] at hc
          exact Or.inr ⟨first, List.mem_cons_self, hc⟩
      | cons second rest =>
          rw [List.intercalate_cons_cons, List.mem_append, List.mem_append,
            List.mem_singleton] at hc
          rcases hc with (hfirst | heq) | hlater
          · exact Or.inr ⟨first, List.mem_cons_self, hfirst⟩
          · exact Or.inl heq
          · rcases ih hlater with heq | ⟨piece, hpiece, hmem⟩
            · exact Or.inl heq
            · exact Or.inr ⟨piece, List.mem_cons_of_mem _ hpiece, hmem⟩

theorem readPiece_append {name value : List Char} (hname : '=' ∉ name) :
    readPiece (name ++ '=' :: value) = (formDecode name, formDecode value) := by
  have hpos : ∀ c ∈ name, (c != '=') = true := by
    intro c hc
    rw [bne_iff_ne]
    rintro rfl
    exact hname hc
  have htake : (name ++ '=' :: value).takeWhile (· != '=') = name := by
    rw [List.takeWhile_append_of_pos hpos]
    simp
  have hdrop : (name ++ '=' :: value).dropWhile (· != '=') = '=' :: value := by
    rw [List.dropWhile_append_of_pos hpos]
    simp
  rw [readPiece, htake, hdrop, List.drop_one, List.tail_cons]

theorem dropQuestionMark_eq_self {text : List Char} (hquestion : '?' ∉ text) :
    dropQuestionMark text = text := by
  simp only [dropQuestionMark]
  split
  · exact absurd List.mem_cons_self hquestion
  · rfl

/-- Joined pieces are read one by one. -/
theorem searchParams_intercalate (pieces : List (List Char))
    (hpieces : ∀ piece ∈ pieces, piece ≠ [] ∧ '&' ∉ piece)
    (hquestion : '?' ∉ ['&'].intercalate pieces) :
    searchParams (['&'].intercalate pieces) = pieces.map readPiece := by
  rw [searchParams, dropQuestionMark_eq_self hquestion]
  by_cases hnil : pieces = []
  · subst hnil
    rfl
  · have hfilter : pieces.filter (· ≠ []) = pieces := by
      rw [List.filter_eq_self]
      intro piece hpiece
      simpa using (hpieces piece hpiece).1
    rw [List.splitOn_intercalate '&' (fun piece hpiece => (hpieces piece hpiece).2)
      hnil, hfilter]

namespace Encoder

variable {encoder : Encoder}

theorem formBytes_encodeChar (c : Char) (rest : List Char) :
    formBytes (encoder.encodeChar c ++ rest) =
      String.utf8EncodeChar c ++ formBytes rest := by
  rw [encodeChar]
  cases hkeep : encoder.keep c with
  | true =>
      have hc : c ∉ reserved := by
        intro hreserved
        rw [encoder.escapes c hreserved] at hkeep
        cases hkeep
      have hpercent : c ≠ '%' := fun heq => hc (by simp [heq, reserved])
      have hplus : c ≠ '+' := fun heq => hc (by simp [heq, reserved])
      exact formBytes_plain hpercent hplus rest
  | false => exact formBytes_percentBytes _ rest

theorem formBytes_encode (text : List Char) :
    formBytes (text.flatMap encoder.encodeChar) = utf8Bytes text := by
  induction text with
  | nil => rfl
  | cons c text ih =>
      rw [List.flatMap_cons, formBytes_encodeChar, ih]
      rfl

/-- An encoded text is decoded. -/
@[simp]
theorem formDecode_encode (text : String) : formDecode (encoder.encode text) = text := by
  rw [formDecode, encode, formBytes_encode, utf8DecodeReplacing_utf8Bytes,
    String.ofList_toList]

/-- What a reader acts on does not occur in an encoded text. -/
theorem not_mem_encode {text : String} {c : Char} (hc : c ∈ ['&', '=', '+', '?']) :
    c ∉ encoder.encode text := by
  have hreserved : c ∈ reserved := List.mem_cons_of_mem _ hc
  have hpercent : c ≠ '%' := by
    rintro rfl
    revert hc
    decide
  rw [encode, List.mem_flatMap]
  rintro ⟨d, -, hd⟩
  rw [encodeChar] at hd
  split at hd
  · rename_i hkeep
    rw [List.mem_singleton] at hd
    subst hd
    rw [encoder.escapes c hreserved] at hkeep
    cases hkeep
  · obtain ⟨byte, -, hbyte⟩ := List.mem_flatMap.mp hd
    have hlt := byte.toNat_lt
    simp only [percentByte, List.mem_cons, List.not_mem_nil, or_false] at hbyte
    rcases hbyte with hsign | hhigh | hlow
    · exact hpercent hsign
    · subst hhigh
      exact hexDigit_not_reserved (by omega) hreserved
    · subst hlow
      exact hexDigit_not_reserved (by omega) hreserved

theorem readPiece_encodeField (field : String × String) :
    readPiece (encoder.encodeField field) = field := by
  rw [encodeField, readPiece_append (not_mem_encode (by simp)), formDecode_encode,
    formDecode_encode]

theorem encodeField_ne_nil (field : String × String) :
    encoder.encodeField field ≠ [] := by
  simp [encodeField]

theorem not_mem_encodeField {field : String × String} {c : Char}
    (hc : c ∈ ['&', '?']) : c ∉ encoder.encodeField field := by
  have hmem : c ∈ ['&', '=', '+', '?'] := by
    revert hc
    simp only [List.mem_cons, List.not_mem_nil, or_false]
    rintro (rfl | rfl) <;> simp
  have hequals : c ≠ '=' := by
    rintro rfl
    revert hc
    decide
  rw [encodeField, List.mem_append, List.mem_cons]
  rintro (hname | heq | hvalue)
  · exact not_mem_encode hmem hname
  · exact hequals heq
  · exact not_mem_encode hmem hvalue

theorem mem_encodeFields {fields : List (String × String)} {c : Char}
    (hc : c ∈ encoder.encodeFields fields) :
    c = '&' ∨ ∃ field ∈ fields, c ∈ encoder.encodeField field := by
  rcases mem_intercalate hc with rfl | ⟨piece, hpiece, hmem⟩
  · exact Or.inl rfl
  · obtain ⟨field, hfield, rfl⟩ := List.mem_map.mp hpiece
    exact Or.inr ⟨field, hfield, hmem⟩

/-- Encoded fields are read back, in order. -/
theorem searchParams_encodeFields (fields : List (String × String)) :
    searchParams (encoder.encodeFields fields) = fields := by
  have hquestion : '?' ∉ encoder.encodeFields fields := by
    intro hmem
    rcases mem_encodeFields hmem with heq | ⟨field, -, hfield⟩
    · cases heq
    · exact not_mem_encodeField (by simp) hfield
  rw [encodeFields, searchParams_intercalate _ ?_ hquestion]
  · rw [List.map_map]
    conv_rhs => rw [← List.map_id fields]
    congr 1
    funext field
    exact readPiece_encodeField field
  · intro piece hpiece
    obtain ⟨field, -, rfl⟩ := List.mem_map.mp hpiece
    exact ⟨encodeField_ne_nil field, not_mem_encodeField (by simp)⟩

end Encoder

/-! ## The last occurrence of a marker -/

/-- A text cut before the last occurrence of a marker. -/
def splitAtLast (marker : List Char) : List Char → Option (List Char × List Char)
  | [] => if marker = [] then some ([], []) else none
  | c :: rest =>
      match splitAtLast marker rest with
      | some (before, after) => some (c :: before, after)
      | none =>
          if marker.isPrefixOf (c :: rest) then some ([], c :: rest) else none

section LastOccurrence

variable {marker text before after : List Char}

theorem splitAtLast_eq_some (hsplit : splitAtLast marker text = some (before, after)) :
    text = before ++ after ∧ marker <+: after := by
  induction text generalizing before after with
  | nil =>
      rw [splitAtLast] at hsplit
      split at hsplit
      · rename_i hmarker
        obtain ⟨rfl, rfl⟩ : before = [] ∧ after = [] := by simpa using hsplit.symm
        exact ⟨rfl, by simp [hmarker]⟩
      · cases hsplit
  | cons c rest ih =>
      rw [splitAtLast] at hsplit
      split at hsplit
      · rename_i front back hrest
        obtain ⟨rfl, rfl⟩ : c :: front = before ∧ back = after := by
          simpa using hsplit
        obtain ⟨rfl, hmarker⟩ := ih hrest
        exact ⟨rfl, hmarker⟩
      · split at hsplit
        · rename_i hmarker
          obtain ⟨rfl, rfl⟩ : [] = before ∧ c :: rest = after := by
            simpa using hsplit
          exact ⟨rfl, List.isPrefixOf_iff_prefix.mp hmarker⟩
        · cases hsplit

theorem splitAtLast_eq_none (hnone : ¬ marker <:+: text) :
    splitAtLast marker text = none := by
  cases hsplit : splitAtLast marker text with
  | none => rfl
  | some pair =>
      obtain ⟨before, after⟩ := pair
      obtain ⟨rfl, rest, rfl⟩ := splitAtLast_eq_some hsplit
      exact absurd ⟨before, rest, by simp⟩ hnone

theorem not_infix_of_splitAtLast_eq_none (hmarker : marker ≠ [])
    (hnone : splitAtLast marker text = none) : ¬ marker <:+: text := by
  induction text with
  | nil =>
      intro hoccurs
      exact hmarker (List.infix_nil.mp hoccurs)
  | cons c rest ih =>
      rw [splitAtLast] at hnone
      split at hnone
      · cases hnone
      · rename_i hrest
        split at hnone
        · cases hnone
        · rename_i hleads
          rw [List.infix_cons_iff, not_or]
          exact ⟨fun h => hleads (List.isPrefixOf_iff_prefix.mpr h), ih hrest⟩

/-- No marker follows the one that is found. -/
theorem splitAtLast_last (hmarker : marker ≠ [])
    (hsplit : splitAtLast marker text = some (before, after)) :
    ¬ marker <:+: after.drop 1 := by
  induction text generalizing before after with
  | nil =>
      rw [splitAtLast, if_neg hmarker] at hsplit
      cases hsplit
  | cons c rest ih =>
      rw [splitAtLast] at hsplit
      split at hsplit
      · rename_i front back hrest
        obtain ⟨rfl, rfl⟩ : c :: front = before ∧ back = after := by
          simpa using hsplit
        exact ih hrest
      · rename_i hrest
        split at hsplit
        · obtain ⟨rfl, rfl⟩ : [] = before ∧ c :: rest = after := by
            simpa using hsplit
          exact not_infix_of_splitAtLast_eq_none hmarker hrest
        · cases hsplit

/-- The marker that no other one follows is found. -/
theorem splitAtLast_append {c : Char} {rest : List Char}
    (hmarker : marker <+: c :: rest) (hlast : ¬ marker <:+: rest) :
    splitAtLast marker (before ++ c :: rest) = some (before, c :: rest) := by
  induction before with
  | nil =>
      rw [List.nil_append, splitAtLast, splitAtLast_eq_none hlast]
      simp [List.isPrefixOf_iff_prefix.mpr hmarker]
  | cons d before ih => rw [List.cons_append, splitAtLast, ih]

end LastOccurrence

end VpnMiddleware.SearchParams
