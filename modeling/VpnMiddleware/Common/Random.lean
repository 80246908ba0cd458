import VpnMiddleware.Schema.UuidText
import Mathlib.Algebra.GroupWithZero.Nat

/-!
# Random tokens

`randomBytes(n)` is the first `n` values of an arbitrary byte source.  The
three generators of the backend read their text off such a source: base-62
strings for panel usernames and passwords, base64url nonces and version-4
uuids.
-/

namespace VpnMiddleware.Random

open VpnMiddleware.Schema VpnMiddleware.UuidText

/-- A byte source; every call of a generator gets its own. -/
abbrev Bytes := ℕ → UInt8

def base62Alphabet : List Char :=
  "ABCDEFGHIJKLMNOPQRSTUVWXYZabcdefghijklmnopqrstuvwxyz0123456789".toList

/-- `base62(len)`. -/
def base62 (len : ℕ) (bytes : Bytes) : String :=
  String.ofList ((List.range len).map fun i =>
    base62Alphabet.getD ((bytes i).toNat % 62) 'A')

def base64urlAlphabet : List Char :=
  "ABCDEFGHIJKLMNOPQRSTUVWXYZabcdefghijklmnopqrstuvwxyz0123456789-_".toList

/-- The digit at a six-bit position of a byte string, most significant bits
first; bits past its end are zero. -/
def base64Digit (len : ℕ) (bytes : Bytes) (position : ℕ) : ℕ :=
  let byteAt i := if i < len then (bytes i).toNat else 0
  let start := position * 6 / 8
  (byteAt start * 256 + byteAt (start + 1)) / 2 ^ (10 - position * 6 % 8) % 64

/-- `randomBytes(bytes).toString('base64url')`: no padding. -/
def randomUrlToken (len : ℕ) (bytes : Bytes) : String :=
  String.ofList ((List.range ((len * 8 + 5) / 6)).map fun i =>
    base64urlAlphabet.getD (base64Digit len bytes i) 'A')

/-- `randomUUID()`: random digits with the version and variant bits set. -/
def randomUUID (bytes : Bytes) : Uuid where
  digits := (List.range 32).map fun i =>
    let digit := if i % 2 = 0 then (bytes (i / 2)).toNat / 16
      else (bytes (i / 2)).toNat % 16
    if i = 12 then hexOfNat 4
    else if i = 16 then hexOfNat (8 + digit % 4)
    else hexOfNat digit
  length_digits := by simp

theorem length_base62 (len : ℕ) (bytes : Bytes) :
    (base62 len bytes).length = len := by
  simp [base62]

end VpnMiddleware.Random
