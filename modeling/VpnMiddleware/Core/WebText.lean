import Mathlib.Data.Int.Notation
import Mathlib.Data.List.Basic
import Mathlib.Data.Nat.Notation

/-!
# Texts on the web

UTF-8, percent encoding of URL components and form fields, and ISO 8601
instants, as the standard libraries of JavaScript and Dart write and read them.
Instants are milliseconds since the epoch.
-/

namespace VpnMiddleware.WebText

/-! ## UTF-8 -/

/-- `Buffer.from(text, 'utf8')`, `utf8.encode(text)`. -/
def utf8Encode (text : String) : List UInt8 := text.toUTF8.data.toList

/-- Drop a byte order mark. -/
def dropMark : List Char → List Char
  | c :: rest => if c.toNat = 0xFEFF then rest else c :: rest
  | [] => []

/-- `utf8.decode(bytes)`; `none` on malformed input. -/
def utf8Decode (bytes : List UInt8) : Option String :=
  (ByteArray.mk bytes.toArray).utf8Decode?.map fun chars =>
    String.ofList (dropMark chars.toList)

/-- Text that does not start with a byte order mark is read back. -/
theorem utf8Decode_utf8Encode {text : String}
    (hmark : dropMark text.toList = text.toList) :
    utf8Decode (utf8Encode text) = some text := by
  have hbytes : ByteArray.mk (utf8Encode text).toArray = text.toList.utf8Encode := by
    rw [utf8Encode, Array.toArray_toList, String.utf8Encode_toList,
      String.toUTF8_eq_toByteArray]
  rw [utf8Decode, hbytes, List.utf8Decode?_utf8Encode, Option.map_some]
  simp [hmark]

theorem utf8Encode_ne_nil {text : String} (htext : text ≠ "") :
    utf8Encode text ≠ [] := by
  intro hnil
  apply htext
  rw [← String.toByteArray_inj, ← String.toUTF8_eq_toByteArray]
  apply ByteArray.ext
  apply Array.ext'
  exact hnil

/-! ## Percent encoding -/

def hexDigit (value : ℕ) : Char := (Nat.digitChar value).toUpper

def percentByte (byte : UInt8) : List Char :=
  ['%', hexDigit (byte.toNat / 16), hexDigit (byte.toNat % 16)]

/-- The UTF-8 bytes of a character, percent-encoded. -/
def percentChar (c : Char) : List Char :=
  (String.singleton c).toUTF8.toList.flatMap percentByte

/-- The marks that `encodeURIComponent` keeps. -/
def componentMarks : List Char :=
  ['-', '_', '.', '!', '~', '*', Char.ofNat 39, '(', ')']

/-- `encodeURIComponent`. -/
def encodeURIComponent (text : String) : String :=
  String.ofList (text.toList.flatMap fun c =>
    if c.isAlphanum || componentMarks.contains c then [c] else percentChar c)

def encodeFormText (text : String) : List Char :=
  text.toList.flatMap fun c =>
    if c.isAlphanum || ['*', '-', '.', '_'].contains c then [c]
    else if c == ' ' then ['+']
    else percentChar c

/-- The text of `new URLSearchParams(fields)`. -/
def encodeForm (fields : List (String × String)) : String :=
  String.ofList ((fields.map fun field =>
    encodeFormText field.1 ++ '=' :: encodeFormText field.2).intersperse
      ['&']).flatten

/-! ## Splitting -/

/-- The pieces of a text between the characters that `isSeparator` selects. -/
def splitOn (isSeparator : Char → Bool) (text : String) : List String :=
  (text.toList.splitOnP isSeparator).map String.ofList

/-- What `\\s` matches in a JavaScript regular expression. -/
def isSpace (c : Char) : Bool :=
  [9, 10, 11, 12, 13, 32, 160, 5760, 8232, 8233, 8239, 8287, 12288,
    65279].contains c.toNat || (decide (8192 ≤ c.toNat) && decide (c.toNat ≤ 8202))

/-- `text.replace(/\/+$/, '')`. -/
def dropTrailingSlashes (text : String) : String :=
  String.ofList (text.toList.reverse.dropWhile (· == '/')).reverse

/-! ## Instants -/

/-- Decimal digits, padded with zeros on the left. -/
def padded (width value : ℕ) : List Char :=
  let digits := Nat.toDigits 10 value
  List.replicate (width - digits.length) '0' ++ digits

/-- Year, month and day of a day number; eras of 400 years start in March. -/
def civilOfDays (days : ℕ) : ℕ × ℕ × ℕ :=
  let shifted := days + 719468
  let era := shifted / 146097
  let dayOfEra := shifted % 146097
  let yearOfEra := (dayOfEra - dayOfEra / 1460 + dayOfEra / 36524 -
    dayOfEra / 146096) / 365
  let dayOfYear := dayOfEra - (365 * yearOfEra + yearOfEra / 4 - yearOfEra / 100)
  let month := (5 * dayOfYear + 2) / 153
  let day := dayOfYear - (153 * month + 2) / 5 + 1
  let year := yearOfEra + era * 400
  if month < 10 then (year, month + 3, day) else (year + 1, month - 9, day)

/-- `new Date(ms).toISOString()`. -/
def isoString (ms : ℕ) : String :=
  let (year, month, day) := civilOfDays (ms / 86400000)
  let clock := ms % 86400000
  let yearText := if year ≤ 9999 then padded 4 year else '+' :: padded 6 year
  String.ofList (yearText ++ '-' :: padded 2 month ++ '-' :: padded 2 day ++
    'T' :: padded 2 (clock / 3600000) ++ ':' :: padded 2 (clock / 60000 % 60) ++
    ':' :: padded 2 (clock / 1000 % 60) ++ '.' :: padded 3 (clock % 1000) ++
    ['Z'])

/-- The day number of a date from 1970 on. -/
def daysOfCivil (year month day : ℕ) : ℕ :=
  let shifted := if month ≤ 2 then year - 1 else year
  let monthOfYear := if 2 < month then month - 3 else month + 9
  let yearOfEra := shifted % 400
  let dayOfYear := (153 * monthOfYear + 2) / 5 + day - 1
  let dayOfEra := yearOfEra * 365 + yearOfEra / 4 - yearOfEra / 100 + dayOfYear
  shifted / 400 * 146097 + dayOfEra - 719468

def digitValue (c : Char) : Option ℕ :=
  if c.isDigit then some (c.toNat - 48) else none

/-- Read exactly `width` decimal digits. -/
def readDigits : ℕ → ℕ → List Char → Option (ℕ × List Char)
  | 0, value, rest => some (value, rest)
  | width + 1, value, c :: rest => do
      let digit ← digitValue c
      readDigits width (value * 10 + digit) rest
  | _ + 1, _, [] => none

def readChar (expected : Char) : List Char → Option (List Char)
  | c :: rest => if c == expected then some rest else none
  | [] => none

/-- An optional fraction of a second, in milliseconds. -/
def readFraction : List Char → Option (ℕ × List Char)
  | '.' :: rest =>
      let digits := rest.takeWhile Char.isDigit
      if digits.isEmpty then none
      else do
        let (ms, _) ← readDigits 3 0 (digits.take 3 ++ List.replicate 3 '0')
        some (ms, rest.drop digits.length)
  | rest => some (0, rest)

/-- The zone of an instant: minutes east of Greenwich. -/
def readZone : List Char → Option ℤ
  | ['Z'] => some 0
  | sign :: rest => do
      let (hours, rest) ← readDigits 2 0 rest
      let rest ← readChar ':' rest
      let (minutes, rest) ← readDigits 2 0 rest
      if !rest.isEmpty then none
      else match sign with
        | '+' => some (hours * 60 + minutes : ℕ)
        | '-' => some (-(hours * 60 + minutes : ℕ))
        | _ => none
  | [] => none

/-- `new Date(text).getTime()` for an ISO date and time with a zone; `none` is
an invalid date. -/
def parseInstant (text : String) : Option ℕ := do
  let (year, rest) ← readDigits 4 0 text.toList
  let rest ← readChar '-' rest
  let (month, rest) ← readDigits 2 0 rest
  let rest ← readChar '-' rest
  let (day, rest) ← readDigits 2 0 rest
  let rest ← readChar 'T' rest
  let (hours, rest) ← readDigits 2 0 rest
  let rest ← readChar ':' rest
  let (minutes, rest) ← readDigits 2 0 rest
  let rest ← readChar ':' rest
  let (seconds, rest) ← readDigits 2 0 rest
  let (ms, rest) ← readFraction rest
  let zone ← readZone rest
  if month < 1 ∨ 12 < month ∨ day < 1 ∨ 31 < day ∨ 23 < hours ∨
      59 < minutes ∨ 59 < seconds then none
  else
    let minutesOfDay := daysOfCivil year month day * 1440 + hours * 60 + minutes
    some (((minutesOfDay : ℤ) - zone).toNat * 60000 + seconds * 1000 + ms)

end VpnMiddleware.WebText
