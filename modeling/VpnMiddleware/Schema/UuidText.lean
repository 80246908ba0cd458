import VpnMiddleware.Schema.Types
import Mathlib.Data.List.Basic

/-!
# The text form of a `uuid` column

`uuidIn` is the input function of PostgreSQL's `uuid` type: optional braces
around 32 hexadecimal digits, with an optional hyphen after every second byte.
`uuidOut` is its output function.  Text that the server wrote is read back
unchanged, and no text shorter than 32 characters is accepted.
-/

namespace VpnMiddleware.UuidText

open VpnMiddleware.Schema

/-- One hexadecimal digit, in either case. -/
def hexValue (c : Char) : Option (Fin 16) :=
  if '0' ≤ c ∧ c ≤ '9' then some (Fin.ofNat 16 (c.toNat - 48))
  else if 'a' ≤ c ∧ c ≤ 'f' then some (Fin.ofNat 16 (c.toNat - 87))
  else if 'A' ≤ c ∧ c ≤ 'F' then some (Fin.ofNat 16 (c.toNat - 55))
  else none

def hexOfNat (value : ℕ) : Fin 16 :=
  Fin.ofNat 16 value

/-- The digits of the nil UUID. -/
theorem length_zeros : (List.replicate 32 (hexOfNat 0)).length = 32 := rfl

def hexDigit (digit : Fin 16) : Char :=
  Nat.digitChar digit

/-- Skip a hyphen where the input function allows one. -/
def skipHyphen (allowed : Bool) : List Char → List Char
  | '-' :: text => if allowed then text else '-' :: text
  | text => text

/-- The loop over the remaining bytes; `index` is the number of bytes read. -/
def uuidBytes : ℕ → ℕ → List Char → Option (List (Fin 16) × List Char)
  | 0, _, text => some ([], text)
  | remaining + 1, index, high :: low :: text => do
      let highValue ← hexValue high
      let lowValue ← hexValue low
      let (digits, rest) ← uuidBytes remaining (index + 1)
        (skipHyphen (index % 2 == 1 && remaining != 0) text)
      some (highValue :: lowValue :: digits, rest)
  | _ + 1, _, _ => none

theorem length_uuidBytes {remaining : ℕ} :
    ∀ {index : ℕ} {text rest : List Char} {digits : List (Fin 16)},
      uuidBytes remaining index text = some (digits, rest) →
        digits.length = 2 * remaining ∧ 2 * remaining + rest.length ≤ text.length := by
  induction remaining with
  | zero =>
      intro index text rest digits hbytes
      simp only [uuidBytes, Option.some.injEq, Prod.mk.injEq] at hbytes
      obtain ⟨rfl, rfl⟩ := hbytes
      simp
  | succ remaining ih =>
      intro index text rest digits hbytes
      match text with
      | [] => simp [uuidBytes] at hbytes
      | [_] => simp [uuidBytes] at hbytes
      | high :: low :: text =>
          simp only [uuidBytes, Option.bind_eq_bind, Option.bind_eq_some_iff,
            Option.some.injEq, Prod.mk.injEq, Prod.exists] at hbytes
          obtain ⟨_, _, _, _, tail, rest', hrest, rfl, rfl⟩ := hbytes
          obtain ⟨hlength, hbound⟩ := ih hrest
          have hskip : ∀ allowed : Bool,
              (skipHyphen allowed text).length ≤ text.length := by
            intro allowed
            simp only [skipHyphen]
            split
            · split <;> simp
            · exact le_rfl
          have := hskip (index % 2 == 1 && remaining != 0)
          simp only [List.length_cons]
          omega

/-- `uuid_in`. -/
def uuidIn (text : String) : Option Uuid :=
  match text.toList with
  | '{' :: inner =>
      match hbytes : uuidBytes 16 0 inner with
      | some (digits, ['}']) => some ⟨digits, (length_uuidBytes hbytes).1⟩
      | _ => none
  | chars =>
      match hbytes : uuidBytes 16 0 chars with
      | some (digits, []) => some ⟨digits, (length_uuidBytes hbytes).1⟩
      | _ => none

/-- `uuid_out`: lower case, grouped 8-4-4-4-12. -/
def uuidOut (value : Uuid) : String :=
  let text := value.digits.map hexDigit
  String.ofList (text.take 8 ++ '-' :: ((text.drop 8).take 4 ++
    '-' :: ((text.drop 12).take 4 ++ '-' :: ((text.drop 16).take 4 ++
      '-' :: text.drop 20))))

/-! ## Reading back -/

@[simp]
theorem hexValue_hexDigit (digit : Fin 16) :
    hexValue (hexDigit digit) = some digit := by
  revert digit
  decide

theorem skipHyphen_hexDigit (allowed : Bool) (digit : Fin 16)
    (text : List Char) :
    skipHyphen allowed (hexDigit digit :: text) = hexDigit digit :: text := by
  have hne : ∀ digit : Fin 16, hexDigit digit ≠ '-' := by decide
  simp only [skipHyphen]
  split
  · rename_i heq
    rw [List.cons.injEq] at heq
    exact absurd heq.1 (hne digit)
  · rfl

/-- A group of digits is read byte by byte; after its last byte a hyphen may
be skipped. -/
theorem uuidBytes_group (count : ℕ) :
    ∀ (remaining index : ℕ) (group : List (Fin 16)) (text : List Char),
      group.length = 2 * (count + 1) →
        uuidBytes (count + 1 + remaining) index (group.map hexDigit ++ text) =
          (uuidBytes remaining (index + count + 1)
            (skipHyphen ((index + count) % 2 == 1 && remaining != 0) text)).map
              fun result => (group ++ result.1, result.2) := by
  induction count with
  | zero =>
      intro remaining index group text hlength
      match group with
      | [high, low] =>
          rw [show 0 + 1 + remaining = remaining + 1 by omega]
          simp only [List.map_cons, List.map_nil, List.cons_append,
            List.nil_append, uuidBytes, hexValue_hexDigit, Option.bind_eq_bind,
            Option.bind_some, Nat.add_zero]
          cases uuidBytes remaining (index + 1)
            (skipHyphen (index % 2 == 1 && remaining != 0) text) <;> rfl
  | succ count ih =>
      intro remaining index group text hlength
      match group with
      | high :: low :: digit :: group =>
          rw [show count + 1 + 1 + remaining = (count + 1 + remaining) + 1 by
            omega]
          simp only [List.map_cons, List.cons_append, uuidBytes,
            hexValue_hexDigit, Option.bind_eq_bind, Option.bind_some,
            skipHyphen_hexDigit]
          have hgroup := ih remaining (index + 1) (digit :: group) text
            (by simp only [List.length_cons] at hlength ⊢; omega)
          simp only [List.map_cons, List.cons_append] at hgroup
          rw [hgroup, show index + 1 + count = index + (count + 1) by omega]
          cases uuidBytes remaining (index + (count + 1) + 1)
            (skipHyphen ((index + (count + 1)) % 2 == 1 && remaining != 0)
              text) <;> rfl

private theorem uuidBytes_hyphen (count remaining index : ℕ)
    {group digits : List (Fin 16)} {text : List Char}
    (hlength : group.length = 2 * (count + 1))
    (hodd : (index + count) % 2 = 1) (hmore : remaining ≠ 0)
    (htext : uuidBytes remaining (index + count + 1) text = some (digits, [])) :
    uuidBytes (count + 1 + remaining) index
        (group.map hexDigit ++ '-' :: text) = some (group ++ digits, []) := by
  rw [uuidBytes_group count remaining index group _ hlength]
  simp [skipHyphen, hodd, hmore, htext]

private theorem uuidBytes_uuidOut (value : Uuid) :
    uuidBytes 16 0 (uuidOut value).toList = some (value.digits, []) := by
  obtain ⟨digits, hlength⟩ := value
  have hfifth : uuidBytes 6 10 ((digits.drop 20).map hexDigit) =
      some (digits.drop 20, []) := by
    have hgroup := uuidBytes_group 5 0 10 (digits.drop 20) []
      (by simp [hlength])
    simpa [skipHyphen, uuidBytes] using hgroup
  have hfourth := uuidBytes_hyphen 1 6 8
    (show ((digits.drop 16).take 4).length = 2 * (1 + 1) by simp [hlength])
    (by decide) (by decide) hfifth
  have hthird := uuidBytes_hyphen 1 8 6
    (show ((digits.drop 12).take 4).length = 2 * (1 + 1) by simp [hlength])
    (by decide) (by decide) hfourth
  have hsecond := uuidBytes_hyphen 1 10 4
    (show ((digits.drop 8).take 4).length = 2 * (1 + 1) by simp [hlength])
    (by decide) (by decide) hthird
  have hfirst := uuidBytes_hyphen 3 12 0
    (show (digits.take 8).length = 2 * (3 + 1) by simp [hlength])
    (by decide) (by decide) hsecond
  have hjoin : digits.take 8 ++ ((digits.drop 8).take 4 ++
      ((digits.drop 12).take 4 ++ ((digits.drop 16).take 4 ++
        digits.drop 20))) = digits := by
    rw [show digits.drop 20 = (digits.drop 16).drop 4 by simp,
      List.take_append_drop,
      show digits.drop 16 = (digits.drop 12).drop 4 by simp,
      List.take_append_drop,
      show digits.drop 12 = (digits.drop 8).drop 4 by simp,
      List.take_append_drop, List.take_append_drop]
  rw [hjoin] at hfirst
  simpa only [uuidOut, String.toList_ofList, List.map_take, List.map_drop]
    using hfirst

/-- PostgreSQL reads the text it prints for a uuid back to that uuid. -/
theorem uuidIn_uuidOut (value : Uuid) : uuidIn (uuidOut value) = some value := by
  have hbytes := uuidBytes_uuidOut value
  have hhead : ∀ inner, (uuidOut value).toList ≠ '{' :: inner := by
    intro inner heq
    rw [heq] at hbytes
    cases inner with
    | nil => simp [uuidBytes] at hbytes
    | cons low inner => simp [uuidBytes, hexValue] at hbytes
  rw [uuidIn]
  split
  · rename_i inner heq
    exact absurd heq (hhead inner)
  · split
    · rename_i digits hdigits
      rw [hbytes] at hdigits
      simp only [Option.some.injEq, Prod.mk.injEq, and_true] at hdigits
      subst hdigits
      rfl
    · rename_i hother
      exact absurd hbytes (hother value.digits)

/-- A text of fewer than 32 characters is not a uuid. -/
theorem uuidIn_eq_none_of_short {text : String} (hshort : text.length < 32) :
    uuidIn text = none := by
  have hlength : text.toList.length < 32 := by
    rwa [String.length_toList]
  rw [uuidIn]
  split
  · rename_i inner heq
    split
    · rename_i digits hbytes
      have := (length_uuidBytes hbytes).2
      rw [heq] at hlength
      simp only [List.length_cons] at hlength
      omega
    · rfl
  · split
    · rename_i digits hbytes
      have := (length_uuidBytes hbytes).2
      omega
    · rfl

end VpnMiddleware.UuidText
