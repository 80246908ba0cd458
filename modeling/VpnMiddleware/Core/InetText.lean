import VpnMiddleware.Core.Splitting

/-!
# Texts of the type `inet`

An IPv4 address of four octets or an IPv6 address, and optionally the bits of
the netmask after a slash.
-/

namespace VpnMiddleware.InetText

def decimalValue (digits : List Char) : ℕ :=
  digits.foldl (fun value c => value * 10 + (c.toNat - 48)) 0

/-- A decimal number of at most three digits, up to a bound. -/
def isNumber (bound : ℕ) (text : List Char) : Bool :=
  !text.isEmpty && decide (text.length ≤ 3) && text.all Char.isDigit &&
    decide (decimalValue text ≤ bound)

def isIPv4 (text : List Char) : Bool :=
  let octets := text.splitOnP (· == '.')
  octets.length == 4 && octets.all (isNumber 255)

def isHexDigit (c : Char) : Bool :=
  c.isDigit || ('a' ≤ c && c ≤ 'f') || ('A' ≤ c && c ≤ 'F')

/-- Sixteen bits of an IPv6 address. -/
def isGroup (text : List Char) : Bool :=
  !text.isEmpty && decide (text.length ≤ 4) && text.all isHexDigit

/-- How many groups a text between gaps has; an IPv4 address at its end counts
for two. -/
def groupCount (text : List Char) : Option ℕ :=
  let fields := text.splitOnP (· == ':')
  if text.isEmpty then some 0
  else if fields.all isGroup then some fields.length
  else if fields.dropLast.all isGroup && fields.getLast?.any isIPv4 then
    some (fields.length + 1)
  else none

/-- The text before the first "::", and the text after it if there is one. -/
def splitGap : List Char → List Char × Option (List Char)
  | ':' :: ':' :: rest => ([], some rest)
  | c :: rest => (c :: (splitGap rest).1, (splitGap rest).2)
  | [] => ([], none)

def isIPv6 (text : List Char) : Bool :=
  match splitGap text with
  | (groups, none) => groupCount groups == some 8
  | (before, some after) =>
      match groupCount before, groupCount after with
      | some count, some count' => decide (count + count' ≤ 7)
      | _, _ => false

/-- What the type accepts. -/
def isInet (text : List Char) : Bool :=
  match text.splitOnP (· == '/') with
  | [address] => isIPv4 address || isIPv6 address
  | [address, bits] => (isIPv4 address && isNumber 32 bits) ||
      (isIPv6 address && isNumber 128 bits)
  | _ => false

/-! ## The characters of an address -/

/-- A character that some address has. -/
def isInetChar (c : Char) : Bool :=
  isHexDigit c || c == '.' || c == ':' || c == '/'

section

variable {text : List Char} {c : Char}

theorem isHexDigit_of_isNumber {bound : ℕ} (htext : isNumber bound text = true)
    (hc : c ∈ text) : isHexDigit c = true := by
  simp only [isNumber, Bool.and_eq_true, List.all_eq_true] at htext
  simp [isHexDigit, htext.1.2 c hc]

theorem isHexDigit_of_isGroup (htext : isGroup text = true) (hc : c ∈ text) :
    isHexDigit c = true := by
  simp only [isGroup, Bool.and_eq_true, List.all_eq_true] at htext
  exact htext.2 c hc

/-- A character of a text is a separator or in one of the pieces. -/
theorem separator_or_piece {isSeparator : Char → Bool} (hc : c ∈ text) :
    isSeparator c = true ∨ ∃ piece ∈ text.splitOnP isSeparator, c ∈ piece := by
  cases hsep : isSeparator c with
  | true => exact Or.inl rfl
  | false => exact Or.inr (Splitting.exists_piece hc hsep)

theorem chars_of_isIPv4 (htext : isIPv4 text = true) (hc : c ∈ text) :
    isHexDigit c = true ∨ c = '.' := by
  simp only [isIPv4, Bool.and_eq_true, List.all_eq_true] at htext
  cases @separator_or_piece text c (· == '.') hc with
  | inl hdot => exact Or.inr (by simpa using hdot)
  | inr hpiece =>
      obtain ⟨piece, hpiece, hin⟩ := hpiece
      exact Or.inl (isHexDigit_of_isNumber (htext.2 piece hpiece) hin)

/-- A character of the groups of an IPv6 address. -/
theorem chars_of_groupCount {count : ℕ} (htext : groupCount text = some count)
    (hc : c ∈ text) : isHexDigit c = true ∨ c = '.' ∨ c = ':' := by
  cases @separator_or_piece text c (· == ':') hc with
  | inl hcolon => exact Or.inr (Or.inr (by simpa using hcolon))
  | inr hpiece =>
      obtain ⟨piece, hpiece, hin⟩ := hpiece
      have hne : text.isEmpty = false := by
        cases text with
        | nil => simp at hc
        | cons => rfl
      simp only [groupCount, hne, Bool.false_eq_true, if_false] at htext
      split_ifs at htext with hgroups hlast
      · exact Or.inl (isHexDigit_of_isGroup (List.all_eq_true.mp hgroups piece
          hpiece) hin)
      · rw [Bool.and_eq_true, List.all_eq_true] at hlast
        -- the last field is an IPv4 address, the others are groups
        have hfields : text.splitOnP (· == ':') ≠ [] := by
          rintro hnil
          simp [hnil] at hpiece
        rw [← List.dropLast_concat_getLast hfields, List.mem_append,
          List.mem_singleton] at hpiece
        cases hpiece with
        | inl hgroup =>
            exact Or.inl (isHexDigit_of_isGroup (hlast.1 piece hgroup) hin)
        | inr heq =>
            have hipv4 : isIPv4 piece = true := by
              simpa [heq, List.getLast?_eq_some_getLast hfields] using hlast.2
            exact (chars_of_isIPv4 hipv4 hin).imp_right Or.inl

/-- Around the gap, only colons are lost. -/
theorem mem_splitGap : ∀ {text : List Char}, c ∈ text →
    c = ':' ∨ c ∈ (splitGap text).1 ∨
      ∃ after, (splitGap text).2 = some after ∧ c ∈ after := by
  intro text
  induction text using splitGap.induct with
  | case1 rest =>
      intro hc
      simp only [splitGap, List.mem_cons, List.not_mem_nil, false_or,
        Option.some.injEq, exists_eq_left'] at hc ⊢
      exact or_self_left.mp (by simpa only [or_assoc] using hc)
  | case2 first rest hgap ih =>
      intro hc
      rw [splitGap]
      · cases List.mem_cons.mp hc with
        | inl heq => exact Or.inr (Or.inl (by simp [heq]))
        | inr hrest =>
            exact (ih hrest).imp_right (Or.imp_left (List.mem_cons_of_mem first))
      · exact hgap
  | case3 => simp

theorem chars_of_isIPv6 (htext : isIPv6 text = true) (hc : c ∈ text) :
    isHexDigit c = true ∨ c = '.' ∨ c = ':' := by
  have hsides := mem_splitGap hc
  rw [isIPv6] at htext
  generalize splitGap text = sides at htext hsides
  obtain ⟨before, after⟩ := sides
  cases after with
  | none =>
      rcases hsides with hcolon | hbefore | ⟨_, heq, -⟩
      · exact Or.inr (Or.inr hcolon)
      · exact chars_of_groupCount (by simpa using htext) hbefore
      · cases heq
  | some after =>
      cases hbefore : groupCount before with
      | none => simp [hbefore] at htext
      | some count =>
          cases hafter : groupCount after with
          | none => simp [hbefore, hafter] at htext
          | some count' =>
              rcases hsides with hcolon | hin | ⟨_, heq, hin⟩
              · exact Or.inr (Or.inr hcolon)
              · exact chars_of_groupCount hbefore hin
              · rw [← Option.some.inj heq] at hin
                exact chars_of_groupCount hafter hin

theorem isInetChar_of_address (htext : (isIPv4 text || isIPv6 text) = true)
    (hc : c ∈ text) : isInetChar c = true := by
  rw [Bool.or_eq_true] at htext
  cases htext with
  | inl hipv4 =>
      rcases chars_of_isIPv4 hipv4 hc with hdigit | rfl
      · simp [isInetChar, hdigit]
      · rfl
  | inr hipv6 =>
      rcases chars_of_isIPv6 hipv6 hc with hdigit | rfl | rfl
      · simp [isInetChar, hdigit]
      · rfl
      · rfl

theorem isInetChar_of_isInet (htext : isInet text = true) (hc : c ∈ text) :
    isInetChar c = true := by
  cases @separator_or_piece text c (· == '/') hc with
  | inl hslash =>
      obtain rfl : c = '/' := by simpa using hslash
      rfl
  | inr hpiece =>
      obtain ⟨piece, hpiece, hin⟩ := hpiece
      rw [isInet] at htext
      split at htext
      · next address hfields =>
          rw [hfields, List.mem_singleton] at hpiece
          exact isInetChar_of_address htext (hpiece ▸ hin)
      · next address bits hfields =>
          rw [hfields] at hpiece
          rw [Bool.or_eq_true, Bool.and_eq_true, Bool.and_eq_true] at htext
          have hsides : (isIPv4 address || isIPv6 address) = true ∧
              ∃ bound, isNumber bound bits = true := by
            rcases htext with ⟨haddress, hbits⟩ | ⟨haddress, hbits⟩
            · exact ⟨by simp [haddress], _, hbits⟩
            · exact ⟨by simp [haddress], _, hbits⟩
          obtain ⟨haddress, bound, hbits⟩ := hsides
          rcases List.mem_cons.mp hpiece with rfl | hlast
          · exact isInetChar_of_address haddress hin
          · obtain rfl : piece = bits := by simpa using hlast
            simp [isInetChar, isHexDigit_of_isNumber hbits hin]
      · cases htext

/-! ## An address with a port -/

theorem splitGap_cons_of_ne {rest : List Char} (hne : c ≠ ':') :
    splitGap (c :: rest) = (c :: (splitGap rest).1, (splitGap rest).2) := by
  rw [splitGap]
  rintro _ rfl
  contradiction

theorem splitGap_of_not_mem (htext : ':' ∉ text) : splitGap text = (text, none) := by
  induction text with
  | nil => rfl
  | cons c rest ih =>
      rw [List.mem_cons, not_or] at htext
      rw [splitGap_cons_of_ne (Ne.symm htext.1), ih htext.2]

theorem splitGap_of_one {port : List Char} (htext : ':' ∉ text)
    (hport : ':' ∉ port) :
    splitGap (text ++ ':' :: port) = (text ++ ':' :: port, none) := by
  induction text with
  | nil =>
      rw [List.nil_append, splitGap, splitGap_of_not_mem hport]
      rintro rest - rfl
      simp at hport
  | cons c rest ih =>
      rw [List.mem_cons, not_or] at htext
      rw [List.cons_append, splitGap_cons_of_ne (Ne.symm htext.1), ih htext.2]

theorem dot_mem_of_isIPv4 (htext : isIPv4 text = true) : '.' ∈ text := by
  by_contra hdot
  have hsingle : text.splitOnP (· == '.') = [text] :=
    List.splitOnP_eq_singleton fun c hc => by
      rw [beq_eq_false_iff_ne]
      rintro rfl
      exact hdot hc
  simp [isIPv4, hsingle] at htext

theorem not_isInet_of_port {port : List Char} (haddress : isIPv4 text = true)
    (hport : ∀ c ∈ port, c.isDigit = true) :
    isInet (text ++ ':' :: port) = false := by
  have hplain : ∀ c ∈ [':', '/'], c ∉ text ∧ c ∉ port := by
    intro c hc
    constructor
    · intro hin
      rcases chars_of_isIPv4 haddress hin with hdigit | rfl
      · simp only [List.mem_cons, List.not_mem_nil, or_false] at hc
        rcases hc with rfl | rfl <;> simp [isHexDigit] at hdigit
      · simp at hc
    · intro hin
      have hdigit := hport c hin
      simp only [List.mem_cons, List.not_mem_nil, or_false] at hc
      rcases hc with rfl | rfl <;> simp at hdigit
  obtain ⟨hcolon, hcolon'⟩ := hplain ':' (by simp)
  obtain ⟨hslash, hslash'⟩ := hplain '/' (by simp)
  have hfields : (text ++ ':' :: port).splitOnP (· == '/') =
      [text ++ ':' :: port] := by
    apply List.splitOnP_eq_singleton
    intro c hc
    rw [beq_eq_false_iff_ne]
    rintro rfl
    simp [hslash, hslash'] at hc
  have hipv4 : isIPv4 (text ++ ':' :: port) = false := by
    rw [← Bool.not_eq_true]
    intro hipv4
    have hchar := @chars_of_isIPv4 _ ':' hipv4 (by simp)
    simp [isHexDigit] at hchar
  have hgroup : isGroup text = false := by
    rw [← Bool.not_eq_true]
    intro hgroup
    have hchar := isHexDigit_of_isGroup hgroup (dot_mem_of_isIPv4 haddress)
    simp [isHexDigit] at hchar
  -- one colon leaves two fields, and the first is no group
  have hcount : groupCount (text ++ ':' :: port) = none := by
    have hsplit : (text ++ ':' :: port).splitOnP (· == ':') = [text, port] := by
      rw [List.splitOnP_append_cons_of_forall_mem _ ':' (by rfl),
        List.splitOnP_eq_singleton]
      · intro c hc
        rw [beq_eq_false_iff_ne]
        rintro rfl
        exact hcolon' hc
      · intro c hc
        rw [beq_eq_false_iff_ne]
        rintro rfl
        exact hcolon hc
    simp [groupCount, hsplit, hgroup]
  have hipv6 : isIPv6 (text ++ ':' :: port) = false := by
    rw [isIPv6, splitGap_of_one hcolon hcolon']
    simp [hcount]
  simp [isInet, hfields, hipv4, hipv6]

end

end VpnMiddleware.InetText
