import VpnMiddleware.Core.WebText
import Mathlib.Algebra.GroupWithZero.Nat

/-!
# Instants on the wire

`toISOString` writes an instant and `DateTime.parse` reads it back.
-/

namespace VpnMiddleware.DateText

open VpnMiddleware.WebText

/-- The last instant of a JavaScript `Date`. -/
def maxDate : ℕ := 8640000000000000

/-- `date.toISOString()`; a `RangeError` outside the range of dates. -/
def toISOString (ms : ℕ) : Option String :=
  if ms ≤ maxDate then some (isoString ms) else none

/-- The year of a date: four to six digits, with or without a plus sign. -/
def readYear (text : List Char) : Option (ℕ × List Char) :=
  let unsigned := match text with
    | '+' :: rest => rest
    | _ => text
  let width := (unsigned.takeWhile Char.isDigit).length
  if 4 ≤ width ∧ width ≤ 6 then readDigits width 0 unsigned else none

/-- `DateTime.parse(text).toUtc()`, for a date and time with a zone whose
members are in range. -/
def parseDateTime (text : String) : Option ℕ := do
  let (year, rest) ← readYear text.toList
  let rest ← readChar '-' rest
  let (month, rest) ← readDigits 2 0 rest
  let rest ← readChar '-' rest
  let (day, rest) ← readDigits 2 0 rest
  let rest ← readChar 'T' rest
  let (hours, rest) ← readDigits 2 0 rest
  let rest ← readChar ':' rest
  let (minutes, rest) ← readDigits 2 0 rest
  let rest ← readChar ':' rest
  let (seconds, rest) ← readDigits 2 0 rest
  let (ms, rest) ← readFraction rest
  let zone ← readZone rest
  if month < 1 ∨ 12 < month ∨ day < 1 ∨ 31 < day ∨ 23 < hours ∨
      59 < minutes ∨ 59 < seconds then none
  else
    let minutesOfDay := daysOfCivil year month day * 1440 + hours * 60 + minutes
    some (((minutesOfDay : ℤ) - zone).toNat * 60000 + seconds * 1000 + ms)

/-! ## Digits -/

theorem length_padded {width value : ℕ} (hwidth : 0 < width)
    (hvalue : value < 10 ^ width) : (padded width value).length = width := by
  have hle := (Nat.length_toDigits_le_iff (by decide) hwidth).mpr hvalue
  simp only [padded, List.length_append, List.length_replicate]
  omega

theorem isDigit_of_mem_padded {width value : ℕ} {c : Char}
    (hc : c ∈ padded width value) : c.isDigit = true := by
  rcases List.mem_append.mp hc with hzero | hdigit
  · rw [List.eq_of_mem_replicate hzero]
    rfl
  · exact Nat.isDigit_of_mem_toDigits (by decide) (by decide) hdigit

theorem ofDigitChars_padded (width value : ℕ) :
    Nat.ofDigitChars 10 (padded width value) 0 = value := by
  rw [padded, Nat.ofDigitChars_append, Nat.ofDigitChars_replicate_zero,
    Nat.mul_zero, Nat.ofDigitChars_toDigits (by decide) (by decide)]

theorem readDigits_append {digits rest : List Char} :
    ∀ {value : ℕ}, (∀ c ∈ digits, c.isDigit = true) →
      readDigits digits.length value (digits ++ rest) =
        some (Nat.ofDigitChars 10 digits value, rest) := by
  induction digits with
  | nil =>
      intro value _
      rfl
  | cons c digits ih =>
      intro value hdigits
      have hc : c.isDigit = true := hdigits c List.mem_cons_self
      have hrest := @ih (value * 10 + (c.toNat - 48)) fun d hd =>
        hdigits d (List.mem_cons_of_mem _ hd)
      rw [List.length_cons, List.cons_append, readDigits, digitValue, if_pos hc,
        Option.bind_eq_bind, Option.bind_some, hrest, Nat.ofDigitChars_cons,
        Nat.mul_comm]
      rfl

/-- Padded digits are read back. -/
theorem readDigits_padded {width value : ℕ} {rest : List Char}
    (hwidth : 0 < width) (hvalue : value < 10 ^ width) :
    readDigits width 0 (padded width value ++ rest) = some (value, rest) := by
  have hread := @readDigits_append (padded width value) rest 0
    fun c hc => isDigit_of_mem_padded hc
  rwa [length_padded hwidth hvalue, ofDigitChars_padded] at hread

/-! ## Days -/

/-- A day of an era of 400 years as centuries, blocks of four years, years and
days; leap days end a block, except that of a century, and the era. -/
structure EraDay (dayOfEra century block year day : ℕ) : Prop where
  total : dayOfEra = 36524 * century + 1461 * block + 365 * year + day
  century_le : century ≤ 3
  block_le : block ≤ 24
  year_le : year ≤ 3
  day_le : day ≤ 365
  leap : day = 365 → year = 3
  secular : day = 365 → block = 24 → century = 3

private theorem exists_century {dayOfEra : ℕ} (hera : dayOfEra < 146097) :
    ∃ century rest, century ≤ 3 ∧ dayOfEra = 36524 * century + rest ∧
      rest ≤ 36524 ∧ (rest = 36524 → century = 3) := by
  by_cases hfirst : dayOfEra < 36524
  · exact ⟨0, dayOfEra, by omega⟩
  by_cases hsecond : dayOfEra < 73048
  · exact ⟨1, dayOfEra - 36524, by omega⟩
  by_cases hthird : dayOfEra < 109572
  · exact ⟨2, dayOfEra - 73048, by omega⟩
  · exact ⟨3, dayOfEra - 109572, by omega⟩

private theorem exists_year {rest : ℕ} (hrest : rest < 1461) :
    ∃ year day, year ≤ 3 ∧ rest = 365 * year + day ∧ day ≤ 365 ∧
      (day = 365 → year = 3) := by
  by_cases hfirst : rest < 365
  · exact ⟨0, rest, by omega⟩
  by_cases hsecond : rest < 730
  · exact ⟨1, rest - 365, by omega⟩
  by_cases hthird : rest < 1095
  · exact ⟨2, rest - 730, by omega⟩
  · exact ⟨3, rest - 1095, by omega⟩

theorem exists_eraDay {dayOfEra : ℕ} (hera : dayOfEra < 146097) :
    ∃ century block year day, EraDay dayOfEra century block year day := by
  obtain ⟨century, rest, hcentury, rfl, hrest, hlast⟩ := exists_century hera
  have hmod : rest % 1461 < 1461 := Nat.mod_lt rest (by decide)
  obtain ⟨year, day, hyear, hdays, hday, hleap⟩ := exists_year hmod
  have hsplit := Nat.div_add_mod rest 1461
  generalize rest / 1461 = block at *
  rw [hdays] at hsplit
  refine ⟨century, block, year, day, by omega, hcentury, by omega, hyear, hday,
    hleap, fun hfull hblock => hlast ?_⟩
  have hfour := hleap hfull
  omega

namespace EraDay

variable {dayOfEra century block year day : ℕ}

/-- The leap days before the day, counted in blocks of 1460 days. -/
private theorem blocks (hday : EraDay dayOfEra century block year day) :
    dayOfEra / 1460 = 25 * century + block +
      (24 * century + block + 365 * year + day) / 1460 := by
  rw [← Nat.mul_add_div (by decide : 0 < 1460)]
  have htotal := hday.total
  congr 1
  omega

private theorem centuries (hday : EraDay dayOfEra century block year day) :
    dayOfEra / 36524 =
      century + (1461 * block + 365 * year + day) / 36524 := by
  rw [← Nat.mul_add_div (by decide : 0 < 36524)]
  have htotal := hday.total
  congr 1
  omega

private theorem leapDay (hday : EraDay dayOfEra century block year day) :
    (24 * century + block + 365 * year + day) / 1460 ≤ day ∧
      day - (24 * century + block + 365 * year + day) / 1460 < 365 := by
  obtain ⟨-, hcentury, hblock, hyear, hle, hleap, -⟩ := hday
  by_cases hsmall : 24 * century + block + 365 * year + day < 1460
  · rw [Nat.div_eq_of_lt hsmall]
    omega
  · have hone : (24 * century + block + 365 * year + day) / 1460 = 1 := by
      apply Nat.div_eq_of_lt_le <;> omega
    rw [hone]
    omega

/-- The year in which the day falls. -/
theorem yearOfEra (hday : EraDay dayOfEra century block year day) :
    (dayOfEra - dayOfEra / 1460 + dayOfEra / 36524 - dayOfEra / 146096) / 365 =
      100 * century + 4 * block + year := by
  have hblocks := hday.blocks
  have hcenturies := hday.centuries
  obtain ⟨hle, hlt⟩ := hday.leapDay
  obtain ⟨htotal, hcentury, hblock, hyear, hfull, hleap, hsecular⟩ := hday
  have hcount : dayOfEra - dayOfEra / 1460 + dayOfEra / 36524 -
      dayOfEra / 146096 = 365 * (100 * century + 4 * block + year) +
        (day - (24 * century + block + 365 * year + day) / 1460) := by
    by_cases hlast : 1461 * block + 365 * year + day < 36524
    · rw [Nat.div_eq_of_lt hlast] at hcenturies
      have hera : dayOfEra / 146096 = 0 := Nat.div_eq_of_lt (by omega)
      omega
    · have hend : dayOfEra = 146096 := by omega
      omega
  rw [hcount, Nat.mul_add_div (by decide), Nat.div_eq_of_lt hlt, Nat.add_zero]

/-- The days before the year. -/
theorem daysBefore (hday : EraDay dayOfEra century block year day) :
    365 * (100 * century + 4 * block + year) +
        (100 * century + 4 * block + year) / 4 -
        (100 * century + 4 * block + year) / 100 + day = dayOfEra := by
  obtain ⟨htotal, hcentury, hblock, hyear, -, -, -⟩ := hday
  have hfour : (100 * century + 4 * block + year) / 4 = 25 * century + block := by
    omega
  have hhundred : (100 * century + 4 * block + year) / 100 = century := by omega
  omega

theorem year_lt (hday : EraDay dayOfEra century block year day) :
    100 * century + 4 * block + year < 400 := by
  obtain ⟨-, hcentury, hblock, hyear, -, -, -⟩ := hday
  omega

end EraDay

/-- A date of a day number. -/
structure IsDate (days year month day : ℕ) : Prop where
  month_pos : 1 ≤ month
  month_le : month ≤ 12
  day_pos : 1 ≤ day
  day_le : day ≤ 31
  number : daysOfCivil year month day = days

private theorem daysOfCivil_eq {year month day shifted monthOfYear : ℕ}
    (hshifted : (if month ≤ 2 then year - 1 else year) = shifted)
    (hmonth : (if 2 < month then month - 3 else month + 9) = monthOfYear) :
    daysOfCivil year month day = shifted / 400 * 146097 +
      (shifted % 400 * 365 + shifted % 400 / 4 - shifted % 400 / 100 +
        ((153 * monthOfYear + 2) / 5 + day - 1)) - 719468 := by
  unfold daysOfCivil
  rw [hshifted, hmonth]

theorem isDate_civilOfDays (days : ℕ) : IsDate days (civilOfDays days).1
    (civilOfDays days).2.1 (civilOfDays days).2.2 := by
  have hmod : (days + 719468) % 146097 < 146097 := Nat.mod_lt _ (by decide)
  obtain ⟨century, block, year, day, hday⟩ := exists_eraDay hmod
  have hsplit := Nat.div_add_mod (days + 719468) 146097
  have hbefore := hday.daysBefore
  have hyears := hday.year_lt
  have hle := hday.day_le
  simp only [civilOfDays, hday.yearOfEra]
  generalize (days + 719468) / 146097 = era at *
  generalize (days + 719468) % 146097 = dayOfEra at *
  generalize 100 * century + 4 * block + year = yearOfEra at *
  have hrest : dayOfEra - (365 * yearOfEra + yearOfEra / 4 - yearOfEra / 100) =
      day := by omega
  rw [hrest]
  have hmonth : (5 * day + 2) / 153 ≤ 11 := by omega
  have hlow : (153 * ((5 * day + 2) / 153) + 2) / 5 ≤ day := by omega
  have hhigh : day - (153 * ((5 * day + 2) / 153) + 2) / 5 ≤ 30 := by omega
  generalize (5 * day + 2) / 153 = month at *
  have hyear : (yearOfEra + era * 400) % 400 = yearOfEra := by omega
  have hera : (yearOfEra + era * 400) / 400 = era := by omega
  split_ifs with hsplitYear
  · dsimp only
    refine ⟨by omega, by omega, by omega, by omega, ?_⟩
    rw [@daysOfCivil_eq _ _ _ (yearOfEra + era * 400) month (if_neg (by omega))
      ((if_pos (by omega)).trans (Nat.add_sub_cancel _ _)), hyear, hera]
    omega
  · dsimp only
    refine ⟨by omega, by omega, by omega, by omega, ?_⟩
    rw [@daysOfCivil_eq _ _ _ (yearOfEra + era * 400) month
      ((if_pos (by omega)).trans (Nat.add_sub_cancel _ _))
      ((if_neg (by omega)).trans (Nat.sub_add_cancel (by omega))), hyear, hera]
    omega

theorem civilOfDays_year_le (days : ℕ) :
    (civilOfDays days).1 ≤ (days + 719468) / 146097 * 400 + 400 := by
  have hmod : (days + 719468) % 146097 < 146097 := Nat.mod_lt _ (by decide)
  obtain ⟨century, block, year, day, hday⟩ := exists_eraDay hmod
  have hyears := hday.year_lt
  simp only [civilOfDays, hday.yearOfEra]
  split_ifs <;> dsimp only <;> omega

/-! ## Reading back an instant -/

private theorem takeWhile_padded {width value : ℕ} {c : Char} {rest : List Char}
    (hc : c.isDigit = false) :
    (padded width value ++ c :: rest).takeWhile Char.isDigit =
      padded width value := by
  rw [List.takeWhile_append_of_pos fun d hd => isDigit_of_mem_padded hd]
  simp [hc]

private theorem readYear_padded {year : ℕ} {rest : List Char}
    (hyear : year < 10 ^ 6) :
    readYear ((if year ≤ 9999 then padded 4 year else '+' :: padded 6 year) ++
      '-' :: rest) = some (year, '-' :: rest) := by
  split_ifs with hsmall
  · have hlt : year < 10 ^ 4 := by omega
    have hlength := length_padded (by decide : 0 < 4) hlt
    obtain ⟨c, text, htext⟩ := List.exists_cons_of_length_eq_add_one hlength
    have hdigit : c.isDigit = true := by
      apply @isDigit_of_mem_padded 4 year
      simp [htext]
    have hplus : c ≠ '+' := by
      rintro rfl
      simp at hdigit
    have hread := @readDigits_padded 4 year ('-' :: rest) (by decide) hlt
    have hwidth := @takeWhile_padded 4 year '-' rest rfl
    rw [htext] at hread hwidth hlength ⊢
    rw [List.cons_append] at hread hwidth ⊢
    simp only [readYear]
    split
    next heq => exact absurd (List.cons.inj heq).1 hplus
    next => simp [hwidth, hlength, hread]
  · have hread := @readDigits_padded 6 year ('-' :: rest) (by decide) hyear
    have hwidth := @takeWhile_padded 6 year '-' rest rfl
    have hlength := length_padded (by decide : 0 < 6) hyear
    simp [readYear, hwidth, hlength, hread]

private theorem readFraction_padded {ms : ℕ} (hms : ms < 1000) :
    readFraction ('.' :: (padded 3 ms ++ ['Z'])) = some (ms, ['Z']) := by
  have hlength := length_padded (by decide : 0 < 3) hms
  have hread := @readDigits_padded 3 ms ['0', '0', '0'] (by decide) hms
  have hdigits := @takeWhile_padded 3 ms 'Z' [] rfl
  have hempty : padded 3 ms ≠ [] := by
    rintro hnil
    simp [hnil] at hlength
  have htake : (padded 3 ms).take 3 = padded 3 ms :=
    List.take_of_length_le (Nat.le_of_eq hlength)
  simp [readFraction, hdigits, hempty, htake, hread, List.replicate]

/-- The text of an instant with these members. -/
def instantText (year month day hours minutes seconds ms : ℕ) : List Char :=
  (if year ≤ 9999 then padded 4 year else '+' :: padded 6 year) ++
    '-' :: (padded 2 month ++ '-' :: (padded 2 day ++ 'T' :: (padded 2 hours ++
    ':' :: (padded 2 minutes ++ ':' :: (padded 2 seconds ++
    '.' :: (padded 3 ms ++ ['Z']))))))

theorem parseDateTime_instantText
    {year month day days hours minutes seconds ms : ℕ} (hyear : year < 10 ^ 6)
    (hdate : IsDate days year month day) (hhours : hours < 24)
    (hminutes : minutes < 60) (hseconds : seconds < 60) (hms : ms < 1000) :
    parseDateTime (String.ofList
        (instantText year month day hours minutes seconds ms)) =
      some ((days * 1440 + hours * 60 + minutes) * 60000 + seconds * 1000 + ms) := by
  obtain ⟨hmonth, hmonth', hday, hday', hnumber⟩ := hdate
  have hread : ∀ {value : ℕ} {rest : List Char}, value < 100 →
      readDigits 2 0 (padded 2 value ++ rest) = some (value, rest) :=
    fun hvalue => readDigits_padded (by decide) hvalue
  have hmonth2 : month < 100 := by omega
  have hday2 : day < 100 := by omega
  have hhours2 : hours < 100 := by omega
  have hminutes2 : minutes < 100 := by omega
  have hseconds2 : seconds < 100 := by omega
  have hin : ¬ (month < 1 ∨ 12 < month ∨ day < 1 ∨ 31 < day ∨ 23 < hours ∨
      59 < minutes ∨ 59 < seconds) := by
    omega
  have hchar : ∀ c rest, readChar c (c :: rest) = some rest := by
    simp [readChar]
  have hzone : readZone ['Z'] = some 0 := rfl
  rw [parseDateTime]
  rw [instantText, String.toList_ofList, readYear_padded hyear]
  simp only [Option.bind_eq_bind, Option.bind_some, hchar, hread hmonth2]
  simp only [Option.bind_some, hread hday2, hchar, hread hhours2]
  simp only [Option.bind_some, hread hminutes2, hread hseconds2, hchar]
  simp only [Option.bind_some, readFraction_padded hms, hzone]
  rw [if_neg hin, hnumber]
  simp only [Option.some.injEq]
  omega

/-- The writer as a function; to unfold it at an instant would make the kernel
compute the date of an unknown day. -/
private theorem isoString_eq : isoString = fun ms =>
    let (year, month, day) := civilOfDays (ms / 86400000)
    let clock := ms % 86400000
    let yearText := if year ≤ 9999 then padded 4 year else '+' :: padded 6 year
    String.ofList (yearText ++ '-' :: padded 2 month ++ '-' :: padded 2 day ++
      'T' :: padded 2 (clock / 3600000) ++ ':' :: padded 2 (clock / 60000 % 60) ++
      ':' :: padded 2 (clock / 1000 % 60) ++ '.' :: padded 3 (clock % 1000) ++
      ['Z']) := by
  delta isoString
  rfl

private theorem isoString_of_date {ms year month day clock : ℕ}
    (hdate : civilOfDays (ms / 86400000) = (year, month, day))
    (hclock : ms % 86400000 = clock) :
    isoString ms = String.ofList (instantText year month day (clock / 3600000)
      (clock / 60000 % 60) (clock / 1000 % 60) (clock % 1000)) := by
  have htext := congrFun isoString_eq ms
  rw [hdate, hclock] at htext
  simpa only [instantText, List.append_assoc, List.cons_append] using htext

/-- The client reads an instant that the server writes. -/
theorem parseDateTime_toISOString {ms : ℕ} {text : String}
    (htext : toISOString ms = some text) : parseDateTime text = some ms := by
  rw [toISOString, maxDate] at htext
  split_ifs at htext with hrange
  obtain rfl := Option.some.inj htext
  have hcivil := isDate_civilOfDays (ms / 86400000)
  have hbound := civilOfDays_year_le (ms / 86400000)
  have hlt : ms % 86400000 < 86400000 := Nat.mod_lt _ (by decide)
  have hsplit := Nat.div_add_mod ms 86400000
  generalize hdate : civilOfDays (ms / 86400000) = date at hcivil hbound
  generalize hclock : ms % 86400000 = clock at hlt hsplit
  obtain ⟨year, month, day⟩ := date
  have hyear : year < 10 ^ 6 := by
    dsimp only at hbound
    omega
  rw [isoString_of_date hdate hclock, parseDateTime_instantText hyear hcivil]
  · congr 1
    omega
  all_goals omega

end VpnMiddleware.DateText
