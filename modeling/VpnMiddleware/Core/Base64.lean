import Mathlib.Data.List.Basic

/-!
# Base64

The encoder pads with `=`.  The decoder takes the standard and the URL-safe
digits, wants the padding, and refuses a last digit with stray bits.
-/

namespace VpnMiddleware.Base64

def alphabet : List Char :=
  "ABCDEFGHIJKLMNOPQRSTUVWXYZabcdefghijklmnopqrstuvwxyz0123456789+/".toList

/-- The digit of a six-bit value. -/
def digit (value : ℕ) : Char := alphabet.getD value 'A'

/-- The six-bit value of a digit. -/
def sextet (c : Char) : Option ℕ :=
  if c = '-' then some 62
  else if c = '_' then some 63
  else if c ∈ alphabet then some (alphabet.idxOf c)
  else none

/-- Three bytes are four digits; what is left at the end is padded. -/
def encode : List UInt8 → List Char
  | [] => []
  | [a] => [digit (a.toNat / 4), digit (a.toNat % 4 * 16), '=', '=']
  | [a, b] =>
      [digit (a.toNat / 4), digit (a.toNat % 4 * 16 + b.toNat / 16),
        digit (b.toNat % 16 * 4), '=']
  | a :: b :: c :: rest =>
      digit (a.toNat / 4) :: digit (a.toNat % 4 * 16 + b.toNat / 16) ::
        digit (b.toNat % 16 * 4 + c.toNat / 64) :: digit (c.toNat % 64) ::
        encode rest

/-- The URL-safe digits, unpadded. -/
def encodeUrl (bytes : List UInt8) : List Char :=
  ((encode bytes).filter (· != '=')).map fun c =>
    if c = '+' then '-' else if c = '/' then '_' else c

/-- The three bytes of a group of four six-bit values. -/
def firstByte (first second : ℕ) : UInt8 := UInt8.ofNat (first * 4 + second / 16)

def secondByte (second third : ℕ) : UInt8 :=
  UInt8.ofNat (second % 16 * 16 + third / 4)

def thirdByte (third fourth : ℕ) : UInt8 :=
  UInt8.ofNat (third % 4 * 64 + fourth)

def decode : List Char → Option (List UInt8)
  | [] => some []
  | w :: x :: y :: z :: rest => do
      let first ← sextet w
      let second ← sextet x
      if z = '=' ∧ y = '=' then
        if rest = [] ∧ second % 16 = 0 then some [firstByte first second]
        else none
      else do
        let third ← sextet y
        if z = '=' then
          if rest = [] ∧ third % 4 = 0 then
            some [firstByte first second, secondByte second third]
          else none
        else do
          let fourth ← sextet z
          let bytes ← decode rest
          some (firstByte first second :: secondByte second third ::
            thirdByte third fourth :: bytes)
  | _ => none

/-! ## Reading back -/

private theorem length_alphabet : alphabet.length = 64 := by decide +kernel

private theorem nodup_alphabet : alphabet.Nodup := by decide +kernel

private theorem alphabet_plain :
    alphabet.all (fun c => c != '-' && c != '_' && c != '=') = true := by
  decide +kernel

private theorem digit_eq {value : ℕ} (hvalue : value < alphabet.length) :
    digit value = alphabet[value] := by
  simp [digit, List.getD, hvalue]

private theorem digit_mem {value : ℕ} (hvalue : value < 64) :
    digit value ∈ alphabet := by
  rw [← length_alphabet] at hvalue
  rw [digit_eq hvalue]
  exact List.getElem_mem hvalue

private theorem digit_plain {value : ℕ} (hvalue : value < 64) :
    (digit value ≠ '-' ∧ digit value ≠ '_') ∧ digit value ≠ '=' := by
  simpa using List.all_eq_true.mp alphabet_plain _ (digit_mem hvalue)

@[simp]
theorem sextet_digit {value : ℕ} (hvalue : value < 64) :
    sextet (digit value) = some value := by
  obtain ⟨⟨hdash, hunderscore⟩, -⟩ := digit_plain hvalue
  rw [sextet, if_neg hdash, if_neg hunderscore, if_pos (digit_mem hvalue)]
  rw [← length_alphabet] at hvalue
  rw [digit_eq hvalue, nodup_alphabet.idxOf_getElem]

@[simp]
theorem digit_ne_pad {value : ℕ} (hvalue : value < 64) : digit value ≠ '=' :=
  (digit_plain hvalue).2

private theorem ofNat_eq {n : ℕ} {byte : UInt8} (heq : n = byte.toNat) :
    UInt8.ofNat n = byte := by
  rw [heq, UInt8.ofNat_toNat]

theorem firstByte_eq (a : UInt8) {next : ℕ} (hnext : next < 16) :
    firstByte (a.toNat / 4) (a.toNat % 4 * 16 + next) = a := by
  apply ofNat_eq
  omega

theorem secondByte_eq (b : UInt8) {before next : ℕ} (hnext : next < 4) :
    secondByte (before * 16 + b.toNat / 16) (b.toNat % 16 * 4 + next) = b := by
  have hb := b.toNat_lt
  apply ofNat_eq
  omega

theorem thirdByte_eq (c : UInt8) {before : ℕ} :
    thirdByte (before * 4 + c.toNat / 64) (c.toNat % 64) = c := by
  have hc := c.toNat_lt
  apply ofNat_eq
  omega

/-- Decoding gives back the encoded bytes. -/
theorem decode_encode : ∀ bytes : List UInt8, decode (encode bytes) = some bytes
  | [] => rfl
  | [a] => by
      have ha := a.toNat_lt
      have hfirst : a.toNat / 4 < 64 := by omega
      have hsecond : a.toNat % 4 * 16 < 64 := by omega
      have hbyte := @firstByte_eq a 0 (by omega)
      rw [Nat.add_zero] at hbyte
      simp [encode, decode, sextet_digit hfirst, sextet_digit hsecond, hbyte]
  | [a, b] => by
      have ha := a.toNat_lt
      have hb := b.toNat_lt
      have hfirst : a.toNat / 4 < 64 := by omega
      have hnext : b.toNat / 16 < 16 := by omega
      have hsecond : a.toNat % 4 * 16 + b.toNat / 16 < 64 := by omega
      have hthird : b.toNat % 16 * 4 < 64 := by omega
      have hbyte := @secondByte_eq b (a.toNat % 4) 0 (by omega)
      rw [Nat.add_zero] at hbyte
      simp [encode, decode, sextet_digit hfirst, sextet_digit hsecond,
        sextet_digit hthird, digit_ne_pad hthird, firstByte_eq a hnext, hbyte]
  | a :: b :: c :: rest => by
      have ha := a.toNat_lt
      have hb := b.toNat_lt
      have hc := c.toNat_lt
      have hfirst : a.toNat / 4 < 64 := by omega
      have hnext : b.toNat / 16 < 16 := by omega
      have hsecond : a.toNat % 4 * 16 + b.toNat / 16 < 64 := by omega
      have hlast : c.toNat / 64 < 4 := by omega
      have hthird : b.toNat % 16 * 4 + c.toNat / 64 < 64 := by omega
      have hfourth : c.toNat % 64 < 64 := by omega
      simp [encode, decode, sextet_digit hfirst, sextet_digit hsecond,
        sextet_digit hthird, sextet_digit hfourth, digit_ne_pad hfourth,
        firstByte_eq a hnext, secondByte_eq b hlast, thirdByte_eq c,
        decode_encode rest]

/-! ## Digits and padding -/

/-- The digits of some bytes, without padding. -/
def digits (bytes : List UInt8) : List Char :=
  (encode bytes).filter (· != '=')

/-- The bytes of six-bit values; bits that fill no byte are dropped. -/
def bytesOf : List ℕ → List UInt8
  | w :: x :: y :: z :: rest =>
      firstByte w x :: secondByte x y :: thirdByte y z :: bytesOf rest
  | [w, x, y] => [firstByte w x, secondByte x y]
  | [w, x] => [firstByte w x]
  | _ => []

/-- Digits that stand before their padding. -/
def paddingFor (digitCount : ℕ) : List Char :=
  if digitCount % 4 = 2 then ['=', '=']
  else if digitCount % 4 = 3 then ['=']
  else []

theorem eq_pad_of_mem_paddingFor {digitCount : ℕ} {c : Char}
    (hc : c ∈ paddingFor digitCount) : c = '=' := by
  rw [paddingFor] at hc
  split at hc
  · simpa using hc
  · split at hc
    · simpa using hc
    · cases hc

private theorem digits_of_four {w x y z : Char} {rest : List UInt8}
    {bytes : List UInt8} (hw : w ≠ '=') (hx : x ≠ '=') (hy : y ≠ '=')
    (hz : z ≠ '=') (hencode : encode bytes = w :: x :: y :: z :: encode rest) :
    digits bytes = w :: x :: y :: z :: digits rest := by
  simp [digits, hencode, hw, hx, hy, hz]

/-- The values of the digits, their number and their padding, read along the
groups of the encoder. -/
theorem digits_spec : ∀ bytes : List UInt8,
    bytesOf ((digits bytes).filterMap sextet) = bytes ∧
    encode bytes = digits bytes ++ paddingFor (digits bytes).length ∧
    ∀ c ∈ digits bytes, c ∈ alphabet
  | [] => ⟨rfl, rfl, by simp [digits, encode]⟩
  | [a] => by
      have ha := a.toNat_lt
      have hfirst : a.toNat / 4 < 64 := by omega
      have hsecond : a.toNat % 4 * 16 < 64 := by omega
      have hbyte := @firstByte_eq a 0 (by omega)
      rw [Nat.add_zero] at hbyte
      have hdigits : digits [a] =
          [digit (a.toNat / 4), digit (a.toNat % 4 * 16)] := by
        simp [digits, encode, digit_ne_pad hfirst, digit_ne_pad hsecond]
      rw [hdigits]
      refine ⟨?_, rfl, ?_⟩
      · simp [bytesOf, sextet_digit hfirst, sextet_digit hsecond, hbyte]
      · simp [digit_mem hfirst, digit_mem hsecond]
  | [a, b] => by
      have ha := a.toNat_lt
      have hb := b.toNat_lt
      have hfirst : a.toNat / 4 < 64 := by omega
      have hnext : b.toNat / 16 < 16 := by omega
      have hsecond : a.toNat % 4 * 16 + b.toNat / 16 < 64 := by omega
      have hthird : b.toNat % 16 * 4 < 64 := by omega
      have hbyte := @secondByte_eq b (a.toNat % 4) 0 (by omega)
      rw [Nat.add_zero] at hbyte
      have hdigits : digits [a, b] = [digit (a.toNat / 4),
          digit (a.toNat % 4 * 16 + b.toNat / 16), digit (b.toNat % 16 * 4)] := by
        simp [digits, encode, digit_ne_pad hfirst, digit_ne_pad hsecond,
          digit_ne_pad hthird]
      rw [hdigits]
      refine ⟨?_, rfl, ?_⟩
      · simp [bytesOf, sextet_digit hfirst, sextet_digit hsecond,
          sextet_digit hthird, firstByte_eq a hnext, hbyte]
      · simp [digit_mem hfirst, digit_mem hsecond,
          digit_mem hthird]
  | a :: b :: c :: rest => by
      have ha := a.toNat_lt
      have hb := b.toNat_lt
      have hc := c.toNat_lt
      have hfirst : a.toNat / 4 < 64 := by omega
      have hnext : b.toNat / 16 < 16 := by omega
      have hsecond : a.toNat % 4 * 16 + b.toNat / 16 < 64 := by omega
      have hlast : c.toNat / 64 < 4 := by omega
      have hthird : b.toNat % 16 * 4 + c.toNat / 64 < 64 := by omega
      have hfourth : c.toNat % 64 < 64 := by omega
      obtain ⟨hbytes, hpadding, hmem⟩ := digits_spec rest
      have hdigits := digits_of_four (digit_ne_pad hfirst) (digit_ne_pad hsecond)
        (digit_ne_pad hthird) (digit_ne_pad hfourth)
        (show encode (a :: b :: c :: rest) = _ from rfl)
      rw [hdigits]
      refine ⟨?_, ?_, ?_⟩
      · simp [bytesOf, sextet_digit hfirst, sextet_digit hsecond,
          sextet_digit hthird, sextet_digit hfourth, firstByte_eq a hnext,
          secondByte_eq b hlast, thirdByte_eq c, hbytes]
      · have hlength : paddingFor (digits rest).length =
            paddingFor ((digits rest).length + 1 + 1 + 1 + 1) := by
          simp [paddingFor, Nat.add_assoc]
        simp only [encode, List.cons_append, List.length_cons]
        rw [← hlength, ← hpadding]
      · simp only [List.forall_mem_cons]
        exact ⟨digit_mem hfirst, digit_mem hsecond,
          digit_mem hthird, digit_mem hfourth, hmem⟩

theorem bytesOf_digits (bytes : List UInt8) :
    bytesOf ((digits bytes).filterMap sextet) = bytes := (digits_spec bytes).1

theorem encode_eq_digits_append (bytes : List UInt8) :
    encode bytes = digits bytes ++ paddingFor (digits bytes).length :=
  (digits_spec bytes).2.1

theorem mem_alphabet_of_mem_digits {bytes : List UInt8} {c : Char}
    (hc : c ∈ digits bytes) : c ∈ alphabet := (digits_spec bytes).2.2 c hc

theorem encode_length_mod : ∀ bytes : List UInt8, (encode bytes).length % 4 = 0
  | [] => rfl
  | [_] => by simp [encode]
  | [_, _] => by simp [encode]
  | _ :: _ :: _ :: rest => by
      have hrest := encode_length_mod rest
      simp only [encode, List.length_cons]
      omega

/-- No group ends in a single digit. -/
theorem digits_length_mod (bytes : List UInt8) : (digits bytes).length % 4 ≠ 1 := by
  intro hone
  have hlength := encode_length_mod bytes
  have hpadding : paddingFor (digits bytes).length = [] := by
    simp [paddingFor, hone]
  rw [encode_eq_digits_append, hpadding, List.append_nil] at hlength
  omega

/-- The URL-safe spelling of a digit. -/
def urlDigit (c : Char) : Char :=
  if c = '+' then '-' else if c = '/' then '_' else c

theorem encodeUrl_eq (bytes : List UInt8) :
    encodeUrl bytes = (digits bytes).map urlDigit := rfl

@[simp]
theorem sextet_urlDigit (c : Char) : sextet (urlDigit c) = sextet c := by
  by_cases hplus : c = '+'
  · subst hplus
    decide
  by_cases hslash : c = '/'
  · subst hslash
    decide
  simp [urlDigit, hplus, hslash]

/-- The URL-safe digits carry all the bytes. -/
theorem bytesOf_encodeUrl (bytes : List UInt8) :
    bytesOf ((encodeUrl bytes).filterMap sextet) = bytes := by
  have hvalues : (encodeUrl bytes).filterMap sextet =
      (digits bytes).filterMap sextet := by
    rw [encodeUrl_eq, List.filterMap_map]
    congr 1
    funext c
    exact sextet_urlDigit c
  rw [hvalues, bytesOf_digits]

theorem encodeUrl_injective : Function.Injective encodeUrl := by
  intro left right heq
  rw [← bytesOf_encodeUrl left, heq, bytesOf_encodeUrl]

theorem encode_eq_nil_iff {bytes : List UInt8} :
    encode bytes = [] ↔ bytes = [] := by
  constructor
  · intro hnil
    have hsome := decode_encode bytes
    rw [hnil] at hsome
    exact (Option.some.inj hsome).symm
  · rintro rfl
    rfl

end VpnMiddleware.Base64
