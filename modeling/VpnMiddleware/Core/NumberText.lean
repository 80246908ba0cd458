import Mathlib.Algebra.GroupWithZero.Nat
import Mathlib.Data.Rat.Init
import VpnMiddleware.Core.WebText

/-!
# Numbers in texts

`Number(text)` of JavaScript.  A number is kept exactly; a text without one and
an infinity give none.
-/

namespace VpnMiddleware.NumberText

open VpnMiddleware.WebText

/-- The value of a digit. -/
def digitIn (base : ℕ) (c : Char) : Option ℕ :=
  let value :=
    if c.isDigit then some (c.toNat - 48)
    else if c.isLower then some (c.toNat - 87)
    else if c.isUpper then some (c.toNat - 55)
    else none
  value.filter fun value => decide (value < base)

/-- A run of digits, at least one. -/
def wholeNumber (base : ℕ) (text : List Char) : Option ℕ :=
  if text.isEmpty then none
  else text.foldlM (fun value c =>
    (digitIn base c).map fun digit => value * base + digit) 0

def signedWhole : List Char → Option ℤ
  | '-' :: digits => (wholeNumber 10 digits).map fun value => -(value : ℤ)
  | '+' :: digits => (wholeNumber 10 digits).map fun value => (value : ℤ)
  | digits => (wholeNumber 10 digits).map fun value => (value : ℤ)

/-- The exponent at the end of a number, if there is one. -/
def readExponent : List Char → Option ℤ
  | [] => some 0
  | c :: digits => if c == 'e' || c == 'E' then signedWhole digits else none

/-- `digits * 10 ^ exponent`. -/
def scale (digits : ℕ) (exponent : ℤ) : ℚ :=
  if 0 ≤ exponent then ((digits * 10 ^ exponent.toNat : ℕ) : ℚ)
  else mkRat digits (10 ^ (-exponent).toNat)

/-- A point and the digits after it. -/
def readPoint : List Char → List Char × List Char
  | '.' :: rest => (rest.takeWhile Char.isDigit, rest.dropWhile Char.isDigit)
  | rest => ([], rest)

/-- Digits with a point among or around them, and an exponent. -/
def unsignedDecimal (text : List Char) : Option ℚ := do
  let whole := text.takeWhile Char.isDigit
  let (fraction, rest) := readPoint (text.dropWhile Char.isDigit)
  let digits ← wholeNumber 10 (whole ++ fraction)
  let exponent ← readExponent rest
  some (scale digits (exponent - fraction.length))

def trim (text : List Char) : List Char :=
  ((text.dropWhile isSpace).reverse.dropWhile isSpace).reverse

/-- `Number(text)`. -/
def stringToNumber (text : String) : Option ℚ :=
  match trim text.toList with
  | [] => some 0
  | '0' :: 'x' :: digits | '0' :: 'X' :: digits =>
      (wholeNumber 16 digits).map fun value => (value : ℚ)
  | '0' :: 'o' :: digits | '0' :: 'O' :: digits =>
      (wholeNumber 8 digits).map fun value => (value : ℚ)
  | '0' :: 'b' :: digits | '0' :: 'B' :: digits =>
      (wholeNumber 2 digits).map fun value => (value : ℚ)
  | '-' :: digits => (unsignedDecimal digits).map fun value => -value
  | '+' :: digits => unsignedDecimal digits
  | digits => unsignedDecimal digits

example : stringToNumber " 17e-1\n" = some (17 / 10) := by decide +kernel

end VpnMiddleware.NumberText
