import Mathlib.Data.List.Basic
import Mathlib.Data.Nat.Digits.Defs

/-!
# JSON values and their serialisation

`stringify` is JavaScript's `JSON.stringify` without indentation on values
built from null, booleans, natural numbers, strings, arrays and objects with
ordered members; `jsonDecode` reads such texts.  The main result is that a
written value is read back, so comparing the texts of two values compares the
values.
-/

namespace VpnMiddleware.JsonText

inductive Json
  | null
  | bool (value : Bool)
  | num (value : ℕ)
  | str (value : String)
  | arr (items : List Json)
  | obj (members : List (String × Json))

/-! ## Reading -/

namespace Json

/-- The member of an object; `none` is JavaScript's `undefined`. -/
def member : Json → String → Option Json
  | .obj members, name => members.lookup name
  | _, _ => none

def str? : Json → Option String
  | .str value => some value
  | _ => none

def num? : Json → Option ℕ
  | .num value => some value
  | _ => none

def bool? : Json → Option Bool
  | .bool value => some value
  | _ => none

def arr? : Json → Option (List Json)
  | .arr items => some items
  | _ => none

/-- A value in a condition. -/
def isTruthy : Json → Bool
  | .null => false
  | .bool value => value
  | .num value => value != 0
  | .str value => value != ""
  | .arr _ | .obj _ => true

/-- A string member. -/
def text (value : Json) (name : String) : Option String :=
  (value.member name).bind str?

/-- A numeric member. -/
def number (value : Json) (name : String) : Option ℕ :=
  (value.member name).bind num?

/-- A Boolean member in a condition. -/
def flag (value : Json) (name : String) : Bool :=
  (value.member name).any isTruthy

end Json

/-! ## Writing -/

/-- The two-character escapes: the character and the letter after the
backslash. -/
def shortEscapes : List (Char × Char) :=
  [('"', '"'), ('\\', '\\'), (Char.ofNat 8, 'b'), (Char.ofNat 9, 't'),
    (Char.ofNat 10, 'n'), (Char.ofNat 12, 'f'), (Char.ofNat 13, 'r')]

def shortEscape (c : Char) : Option Char :=
  (shortEscapes.find? fun entry => entry.1 == c).map Prod.snd

/-- The text of one character inside a string literal. -/
def escapeChar (c : Char) : List Char :=
  match shortEscape c with
  | some letter => ['\\', letter]
  | none =>
      if c.toNat < 32 then
        ['\\', 'u', '0', '0', Nat.digitChar (c.toNat / 16),
          Nat.digitChar (c.toNat % 16)]
      else [c]

def escapeText : List Char → List Char
  | [] => ['"']
  | c :: text => escapeChar c ++ escapeText text

/-- A string literal with its quotes. -/
def quote (text : String) : List Char :=
  '"' :: escapeText text.toList

mutual

/-- `JSON.stringify`. -/
def stringify : Json → List Char
  | .null => ['n', 'u', 'l', 'l']
  | .bool true => ['t', 'r', 'u', 'e']
  | .bool false => ['f', 'a', 'l', 's', 'e']
  | .num value => Nat.toDigits 10 value
  | .str value => quote value
  | .arr [] => ['[', ']']
  | .arr (item :: items) => '[' :: (stringify item ++ stringifyItems items)
  | .obj [] => ['{', '}']
  | .obj ((name, value) :: members) =>
      '{' :: (quote name ++ ':' :: (stringify value ++ stringifyMembers members))

/-- The items after the first, and the closing bracket. -/
def stringifyItems : List Json → List Char
  | [] => [']']
  | item :: items => ',' :: (stringify item ++ stringifyItems items)

/-- The members after the first, and the closing brace. -/
def stringifyMembers : List (String × Json) → List Char
  | [] => ['}']
  | (name, value) :: members =>
      ',' :: (quote name ++ ':' :: (stringify value ++ stringifyMembers members))

end

/-! ## Reading a text -/

def isJsonSpace (c : Char) : Bool :=
  c == ' ' || c == '\t' || c == '\n' || c == '\r'

def skipSpace (text : List Char) : List Char :=
  text.dropWhile isJsonSpace

/-- The character that a letter after a backslash stands for. -/
def unescape (letter : Char) : Option Char :=
  if letter = '/' then some '/'
  else (shortEscapes.find? fun entry => entry.2 == letter).map Prod.fst

def hexValue (c : Char) : Option ℕ :=
  if c.isDigit then some (c.toNat - 48)
  else if 97 ≤ c.toNat ∧ c.toNat ≤ 102 then some (c.toNat - 87)
  else if 65 ≤ c.toNat ∧ c.toNat ≤ 70 then some (c.toNat - 55)
  else none

/-- The character of four hexadecimal digits. -/
def codeUnit (a b c d : Char) : Option Char := do
  let value := ((← hexValue a) * 16 + (← hexValue b)) * 256 +
    ((← hexValue c) * 16 + (← hexValue d))
  if value.isValidChar then some (Char.ofNat value) else none

/-- The characters of a string literal after its opening quote. -/
def readText : List Char → Option (List Char × List Char)
  | [] => none
  | '"' :: rest => some ([], rest)
  | '\\' :: 'u' :: a :: b :: c :: d :: rest => do
      let char ← codeUnit a b c d
      let (text, rest) ← readText rest
      some (char :: text, rest)
  | '\\' :: letter :: rest => do
      let char ← unescape letter
      let (text, rest) ← readText rest
      some (char :: text, rest)
  | c :: rest =>
      if c = '\\' ∨ c.toNat < 32 then none
      else do
        let (text, rest) ← readText rest
        some (c :: text, rest)

/-- A natural number; its digits are those that it prints. -/
def readNumber (text : List Char) : Option (Json × List Char) :=
  let digits := text.takeWhile Char.isDigit
  let value := Nat.ofDigitChars 10 digits 0
  if Nat.toDigits 10 value = digits then
    some (.num value, text.dropWhile Char.isDigit)
  else none

def readWord : List Char → Option (Json × List Char)
  | 'n' :: 'u' :: 'l' :: 'l' :: rest => some (.null, rest)
  | 't' :: 'r' :: 'u' :: 'e' :: rest => some (.bool true, rest)
  | 'f' :: 'a' :: 'l' :: 's' :: 'e' :: rest => some (.bool false, rest)
  | _ => none

def expectChar (expected : Char) (text : List Char) : Option (List Char) :=
  match skipSpace text with
  | c :: rest => if c = expected then some rest else none
  | [] => none

/-- A string literal. -/
def readQuoted (text : List Char) : Option (String × List Char) := do
  let rest ← expectChar '"' text
  let (chars, rest) ← readText rest
  some (String.ofList chars, rest)

mutual

/-- A value at the front of a text, nested at most as deep as the fuel. -/
def readValue : ℕ → List Char → Option (Json × List Char)
  | 0, _ => none
  | fuel + 1, text =>
      match skipSpace text with
      | [] => none
      | c :: rest =>
          if c = '"' then do
            let (chars, rest) ← readText rest
            some (.str (String.ofList chars), rest)
          else if c = '[' then
            match expectChar ']' rest with
            | some rest => some (.arr [], rest)
            | none => do
                let (item, rest) ← readValue fuel rest
                let (items, rest) ← readItems fuel rest
                some (.arr (item :: items), rest)
          else if c = '{' then
            match expectChar '}' rest with
            | some rest => some (.obj [], rest)
            | none => do
                let (name, rest) ← readQuoted rest
                let rest ← expectChar ':' rest
                let (value, rest) ← readValue fuel rest
                let (members, rest) ← readMembers fuel rest
                some (.obj ((name, value) :: members), rest)
          else if c.isDigit then readNumber (c :: rest)
          else readWord (c :: rest)

/-- The items after the first, and the closing bracket. -/
def readItems : ℕ → List Char → Option (List Json × List Char)
  | 0, _ => none
  | fuel + 1, text =>
      match expectChar ']' text with
      | some rest => some ([], rest)
      | none => do
          let rest ← expectChar ',' text
          let (item, rest) ← readValue fuel rest
          let (items, rest) ← readItems fuel rest
          some (item :: items, rest)

/-- The members after the first, and the closing brace. -/
def readMembers : ℕ → List Char → Option (List (String × Json) × List Char)
  | 0, _ => none
  | fuel + 1, text =>
      match expectChar '}' text with
      | some rest => some ([], rest)
      | none => do
          let rest ← expectChar ',' text
          let (name, rest) ← readQuoted rest
          let rest ← expectChar ':' rest
          let (value, rest) ← readValue fuel rest
          let (members, rest) ← readMembers fuel rest
          some ((name, value) :: members, rest)

end

/-- `JSON.parse`, for texts whose numbers are natural and whose strings are
without surrogate escapes. -/
def jsonDecode (text : String) : Option Json :=
  match readValue (text.length + 1) text.toList with
  | some (value, rest) => if skipSpace rest = [] then some value else none
  | none => none

/-! ## Reading back what was written -/

private theorem unescape_shortEscape {c letter : Char}
    (hc : shortEscape c = some letter) :
    unescape letter = some c ∧ letter ≠ 'u' := by
  obtain ⟨entry, hfind, rfl⟩ := Option.map_eq_some_iff.mp hc
  have hkey : entry.1 = c := by simpa using List.find?_some hfind
  have hall : ∀ entry ∈ shortEscapes,
      unescape entry.2 = some entry.1 ∧ entry.2 ≠ 'u' := by decide
  exact hkey ▸ hall entry (List.mem_of_find?_eq_some hfind)

private theorem hexValue_digitChar (value : Fin 16) :
    hexValue (Nat.digitChar value) = some value.val := by
  revert value
  decide

private theorem codeUnit_control {c : Char} (hsmall : c.toNat < 32) :
    codeUnit '0' '0' (Nat.digitChar (c.toNat / 16))
      (Nat.digitChar (c.toNat % 16)) = some c := by
  have hhigh := hexValue_digitChar ⟨c.toNat / 16, by omega⟩
  have hlow := hexValue_digitChar ⟨c.toNat % 16, by omega⟩
  have hzero : hexValue '0' = some 0 := by decide
  have hvalue : c.toNat / 16 * 16 + c.toNat % 16 = c.toNat := by omega
  have hvalid : c.toNat.isValidChar := c.valid
  simp [codeUnit, hzero, hhigh, hlow, hvalue, hvalid, Char.ofNat_toNat]

private theorem readText_escapeChar (c : Char) (rest : List Char) :
    readText (escapeChar c ++ rest) =
      (readText rest).map fun read => (c :: read.1, read.2) := by
  rw [escapeChar]
  cases hc : shortEscape c with
  | some letter =>
      obtain ⟨hletter, hne⟩ := unescape_shortEscape hc
      rw [List.cons_append, List.cons_append, List.nil_append, readText]
      · simp [hletter, Option.map_eq_bind]
      · intro a b c d rest hu
        simp [hne] at hu
  | none =>
      split_ifs with hsmall
      · simp [readText, codeUnit_control hsmall, Option.map_eq_bind]
      · have hquote : c ≠ '"' := by
          rintro rfl
          revert hc
          decide
        have hbackslash : c ≠ '\\' := by
          rintro rfl
          revert hc
          decide
        rw [List.cons_append, List.nil_append, readText]
        · simp [hbackslash, hsmall, Option.map_eq_bind]
        · exact hquote
        · intro a b d e rest heq
          exact absurd heq hbackslash
        · intro letter rest heq
          exact absurd heq hbackslash

theorem readText_escapeText (text rest : List Char) :
    readText (escapeText text ++ rest) = some (text, rest) := by
  induction text with
  | nil => simp [escapeText, readText]
  | cons c text ih =>
      rw [escapeText, List.append_assoc, readText_escapeChar, ih, Option.map_some]

private theorem expectChar_cons {c expected : Char} {rest : List Char}
    (hspace : isJsonSpace c = false) :
    expectChar expected (c :: rest) = if c = expected then some rest else none := by
  simp [expectChar, skipSpace, hspace]

private theorem readQuoted_quote (name : String) (rest : List Char) :
    readQuoted (quote name ++ rest) = some (name, rest) := by
  rw [quote, List.cons_append, readQuoted, expectChar_cons (by decide)]
  simp [readText_escapeText]

/-- The text after a number does not go on with a digit. -/
def Stops (rest : List Char) : Prop :=
  ∀ c ∈ rest.head?, c.isDigit = false

private theorem takeWhile_digits {digits rest : List Char}
    (hdigits : ∀ c ∈ digits, c.isDigit = true) (hrest : Stops rest) :
    (digits ++ rest).takeWhile Char.isDigit = digits ∧
      (digits ++ rest).dropWhile Char.isDigit = rest := by
  rw [List.takeWhile_append_of_pos hdigits, List.dropWhile_append_of_pos hdigits]
  cases rest with
  | nil => simp
  | cons c rest =>
      have hc := hrest c rfl
      simp [hc]

private theorem readNumber_toDigits {value : ℕ} {rest : List Char}
    (hrest : Stops rest) :
    readNumber (Nat.toDigits 10 value ++ rest) = some (.num value, rest) := by
  have hdigits : ∀ c ∈ Nat.toDigits 10 value, c.isDigit = true := fun c hc =>
    Nat.isDigit_of_mem_toDigits (by decide) (by decide) hc
  obtain ⟨htake, hdrop⟩ := takeWhile_digits hdigits hrest
  simp [readNumber, htake, hdrop, Nat.ofDigitChars_toDigits]

private theorem stops_items (items : List Json) (rest : List Char) :
    Stops (stringifyItems items ++ rest) := by
  cases items <;> simp [Stops, stringifyItems]

private theorem stops_members (members : List (String × Json))
    (rest : List Char) : Stops (stringifyMembers members ++ rest) := by
  cases members with
  | nil => simp [Stops, stringifyMembers]
  | cons entry members => simp [Stops, stringifyMembers]

/-- A value does not start with a space or a closing bracket. -/
private theorem stringify_lead (value : Json) : ∃ c text,
    stringify value = c :: text ∧ isJsonSpace c = false ∧ c ≠ ']' := by
  cases value with
  | null => exact ⟨_, _, rfl, rfl, by decide⟩
  | bool value => cases value <;> exact ⟨_, _, rfl, rfl, by decide⟩
  | num value =>
      cases hdigits : Nat.toDigits 10 value with
      | nil => exact absurd hdigits Nat.toDigits_ne_nil
      | cons c text =>
          have hdigit : c.isDigit = true :=
            Nat.isDigit_of_mem_toDigits (by decide) (by decide)
              (hdigits ▸ List.mem_cons_self (a := c))
          refine ⟨c, text, hdigits, ?_, ?_⟩
          · by_contra hspace
            simp only [isJsonSpace, Bool.not_eq_false, Bool.or_eq_true,
              beq_iff_eq] at hspace
            rcases hspace with ((rfl | rfl) | rfl) | rfl <;> simp at hdigit
          · rintro rfl
            simp at hdigit
  | str value => exact ⟨_, _, rfl, rfl, by decide⟩
  | arr items => cases items <;> exact ⟨_, _, rfl, rfl, by decide⟩
  | obj members => cases members <;> exact ⟨_, _, rfl, rfl, by decide⟩

private theorem length_stringify_pos (value : Json) :
    0 < (stringify value).length := by
  obtain ⟨c, text, htext, -⟩ := stringify_lead value
  simp [htext]

private theorem skipSpace_cons {c : Char} {rest : List Char}
    (hspace : isJsonSpace c = false) : skipSpace (c :: rest) = c :: rest := by
  simp [skipSpace, hspace]

mutual

/-- A written value is read back from the front of any text that does not go
on with a digit. -/
theorem readValue_stringify : ∀ (value : Json) {rest : List Char} {fuel : ℕ},
    Stops rest → (stringify value).length ≤ fuel →
      readValue fuel (stringify value ++ rest) = some (value, rest)
  | value, rest, 0, _, hfuel => by
      have hpos := length_stringify_pos value
      omega
  | .null, rest, fuel + 1, _, _ => by
      simp [readValue, stringify, skipSpace_cons, isJsonSpace, readWord]
  | .bool true, rest, fuel + 1, _, _ => by
      simp [readValue, stringify, skipSpace_cons, isJsonSpace, readWord]
  | .bool false, rest, fuel + 1, _, _ => by
      simp [readValue, stringify, skipSpace_cons, isJsonSpace, readWord]
  | .num value, rest, fuel + 1, hrest, _ => by
      have hread := @readNumber_toDigits value rest hrest
      obtain ⟨c, text, htext, hspace, -⟩ := stringify_lead (.num value)
      have hdigit : c.isDigit = true :=
        Nat.isDigit_of_mem_toDigits (by decide) (by decide)
          (htext ▸ List.mem_cons_self)
      have hquote : c ≠ '"' := by rintro rfl; simp at hdigit
      have hbracket : c ≠ '[' := by rintro rfl; simp at hdigit
      have hbrace : c ≠ '{' := by rintro rfl; simp at hdigit
      rw [stringify] at htext
      rw [htext] at hread
      simp only [stringify, htext, List.cons_append] at hread ⊢
      simp [readValue, skipSpace_cons hspace, hquote, hbracket, hbrace, hdigit,
        hread]
  | .str value, rest, fuel + 1, _, _ => by
      simp [readValue, stringify, quote, skipSpace_cons, isJsonSpace,
        readText_escapeText]
  | .arr [], rest, fuel + 1, _, _ => by
      simp [readValue, stringify, skipSpace_cons, isJsonSpace, expectChar_cons]
  | .arr (item :: items), rest, fuel + 1, _, hfuel => by
      simp only [stringify, List.length_cons, List.length_append] at hfuel
      have hitem := @readValue_stringify item (stringifyItems items ++ rest) fuel
        (stops_items items rest) (by omega)
      have hitems := @readItems_stringifyItems items rest fuel (by omega)
      obtain ⟨c, text, htext, hspace, hclose⟩ := stringify_lead item
      have hopen : expectChar ']'
          (stringify item ++ (stringifyItems items ++ rest)) = none := by
        rw [htext, List.cons_append, expectChar_cons hspace, if_neg hclose]
      simp [readValue, stringify, skipSpace_cons, isJsonSpace, hopen, hitem,
        hitems]
  | .obj [], rest, fuel + 1, _, _ => by
      simp [readValue, stringify, skipSpace_cons, isJsonSpace, expectChar_cons]
  | .obj ((name, value) :: members), rest, fuel + 1, _, hfuel => by
      simp only [stringify, List.length_cons, List.length_append] at hfuel
      have hvalue := @readValue_stringify value
        (stringifyMembers members ++ rest) fuel (stops_members members rest)
        (by omega)
      have hmembers := @readMembers_stringifyMembers members rest fuel (by omega)
      have hopen : ∀ after, expectChar '}' (quote name ++ after) = none := by
        intro after
        rw [quote, List.cons_append, expectChar_cons (by decide)]
        simp
      simp [readValue, stringify, skipSpace_cons, isJsonSpace, hopen,
        readQuoted_quote, expectChar_cons, hvalue, hmembers]

private theorem readItems_stringifyItems :
    ∀ (items : List Json) {rest : List Char} {fuel : ℕ},
      (stringifyItems items).length ≤ fuel →
        readItems fuel (stringifyItems items ++ rest) = some (items, rest)
  | [], rest, 0, hfuel => by simp [stringifyItems] at hfuel
  | _ :: _, rest, 0, hfuel => by simp [stringifyItems] at hfuel
  | [], rest, fuel + 1, _ => by
      simp [readItems, stringifyItems, expectChar_cons, isJsonSpace]
  | item :: items, rest, fuel + 1, hfuel => by
      simp only [stringifyItems, List.length_cons, List.length_append] at hfuel
      have hitem := @readValue_stringify item (stringifyItems items ++ rest) fuel
        (stops_items items rest) (by omega)
      have hitems := @readItems_stringifyItems items rest fuel (by omega)
      simp [readItems, stringifyItems, expectChar_cons, isJsonSpace, hitem,
        hitems]

private theorem readMembers_stringifyMembers :
    ∀ (members : List (String × Json)) {rest : List Char} {fuel : ℕ},
      (stringifyMembers members).length ≤ fuel →
        readMembers fuel (stringifyMembers members ++ rest) =
          some (members, rest)
  | [], rest, 0, hfuel => by simp [stringifyMembers] at hfuel
  | (_, _) :: _, rest, 0, hfuel => by simp [stringifyMembers] at hfuel
  | [], rest, fuel + 1, _ => by
      simp [readMembers, stringifyMembers, expectChar_cons, isJsonSpace]
  | (name, value) :: members, rest, fuel + 1, hfuel => by
      simp only [stringifyMembers, List.length_cons, List.length_append] at hfuel
      have hvalue := @readValue_stringify value
        (stringifyMembers members ++ rest) fuel (stops_members members rest)
        (by omega)
      have hmembers := @readMembers_stringifyMembers members rest fuel (by omega)
      simp [readMembers, stringifyMembers, expectChar_cons, isJsonSpace,
        readQuoted_quote, hvalue, hmembers]

end

/-- Parsing a written value gives it back. -/
theorem jsonDecode_stringify (value : Json) :
    jsonDecode (String.ofList (stringify value)) = some value := by
  have hread := @readValue_stringify value [] ((stringify value).length + 1)
    (by simp [Stops]) (by omega)
  rw [List.append_nil] at hread
  simp [jsonDecode, hread, skipSpace]

/-- Values with the same text are equal. -/
theorem stringify_injective : Function.Injective stringify := by
  intro left right heq
  have hdecoded := jsonDecode_stringify left
  rw [heq, jsonDecode_stringify right] at hdecoded
  exact (Option.some.inj hdecoded).symm

end VpnMiddleware.JsonText
