import Mathlib.Data.List.Basic
import Mathlib.Data.List.Infix

/-!
# LIKE patterns

`%` stands for any run of characters, `_` for any one character, and a
backslash takes the next character literally.  Literal characters are compared
through a folding of the case.
-/

namespace VpnMiddleware.LikePattern

inductive Piece | anyRun | anyChar | literal (c : Char)
  deriving DecidableEq, Repr

/-- The pieces of a pattern; `none` if it ends in the escape character. -/
def pieces : List Char → Option (List Piece)
  | [] => some []
  | ['\\'] => none
  | '\\' :: c :: rest => (pieces rest).map (.literal c :: ·)
  | c :: rest =>
      let piece :=
        if c = '%' then .anyRun
        else if c = '_' then .anyChar
        else .literal c
      (pieces rest).map (piece :: ·)

@[simp]
theorem pieces_percent (rest : List Char) :
    pieces ('%' :: rest) = (pieces rest).map (.anyRun :: ·) := by
  rw [pieces] <;> simp

theorem pieces_escaped (c : Char) (rest : List Char) :
    pieces ('\\' :: c :: rest) = (pieces rest).map (.literal c :: ·) := rfl

theorem pieces_plain {c : Char} (hbackslash : c ≠ '\\') (hpercent : c ≠ '%')
    (hunderscore : c ≠ '_') (rest : List Char) :
    pieces (c :: rest) = (pieces rest).map (.literal c :: ·) := by
  rw [pieces]
  · simp [hpercent, hunderscore]
  · simp [hbackslash]
  · simp [hbackslash]

section Matching

variable (fold : Char → Char)

def accepts : List Piece → List Char → Bool
  | [], text => text.isEmpty
  | .anyRun :: rest, text => text.tails.any (accepts rest)
  | .anyChar :: rest, _ :: text => accepts rest text
  | .literal c :: rest, d :: text => fold c == fold d && accepts rest text
  | _ :: _, [] => false

/-- `text ilike pattern`; `none` is the error of an invalid pattern. -/
def ilike (text pattern : List Char) : Option Bool :=
  (pieces pattern).map fun parsed => accepts fold parsed text

variable {fold}

theorem accepts_anyRun_iff {rest : List Piece} {text : List Char} :
    accepts fold (.anyRun :: rest) text = true ↔
      ∃ skipped back, text = skipped ++ back ∧ accepts fold rest back = true := by
  simp only [accepts, List.any_eq_true, List.mem_tails]
  constructor
  · rintro ⟨back, ⟨skipped, rfl⟩, haccepts⟩
    exact ⟨skipped, back, rfl, haccepts⟩
  · rintro ⟨skipped, back, rfl, haccepts⟩
    exact ⟨back, ⟨skipped, rfl⟩, haccepts⟩

/-- A trailing `%` takes whatever is left. -/
theorem accepts_anyRun (text : List Char) :
    accepts fold [.anyRun] text = true :=
  accepts_anyRun_iff.mpr ⟨text, [], by simp, rfl⟩

theorem accepts_literals_iff {rest : List Piece} {wanted text : List Char} :
    accepts fold (wanted.map .literal ++ rest) text = true ↔
      ∃ front back, text = front ++ back ∧ wanted.map fold = front.map fold ∧
        accepts fold rest back = true := by
  induction wanted generalizing text with
  | nil =>
      constructor
      · intro haccepts
        exact ⟨[], text, rfl, rfl, haccepts⟩
      · rintro ⟨front, back, rfl, hfront, haccepts⟩
        obtain rfl : front = [] := by simpa using hfront.symm
        exact haccepts
  | cons c wanted ih =>
      cases text with
      | nil =>
          constructor
          · intro haccepts
            cases haccepts
          · rintro ⟨front, back, htext, hfront, -⟩
            obtain ⟨rfl, -⟩ : front = [] ∧ back = [] := by simpa using htext.symm
            cases hfront
      | cons d text =>
          simp only [List.map_cons, List.cons_append, accepts, Bool.and_eq_true,
            beq_iff_eq, ih]
          constructor
          · rintro ⟨hfold, front, back, rfl, hfront, haccepts⟩
            exact ⟨d :: front, back, rfl, by simp [hfold, hfront], haccepts⟩
          · rintro ⟨front, back, htext, hfront, haccepts⟩
            cases front with
            | nil => cases hfront
            | cons e front =>
                obtain ⟨rfl, rfl⟩ : d = e ∧ text = front ++ back := by
                  simpa using htext
                obtain ⟨hfold, hfront⟩ :
                    fold c = fold d ∧ wanted.map fold = front.map fold := by
                  simpa using hfront
                exact ⟨hfold, front, back, rfl, hfront, haccepts⟩

/-- Literal characters between two `%` are found exactly where they occur. -/
theorem accepts_between_runs_iff {wanted text : List Char} :
    accepts fold (.anyRun :: (wanted.map .literal ++ [.anyRun])) text = true ↔
      wanted.map fold <:+: text.map fold := by
  rw [accepts_anyRun_iff]
  simp only [accepts_literals_iff, accepts_anyRun, and_true]
  constructor
  · rintro ⟨skipped, _, rfl, front, back, rfl, hfront⟩
    exact ⟨skipped.map fold, back.map fold, by simp [hfront]⟩
  · rintro ⟨before, after, htext⟩
    obtain ⟨head, back, rfl, hhead, -⟩ := List.map_eq_append_iff.mp htext.symm
    obtain ⟨skipped, front, rfl, -, hfront⟩ := List.map_eq_append_iff.mp hhead
    exact ⟨skipped, front ++ back, by simp, front, back, rfl, hfront.symm⟩

end Matching

end VpnMiddleware.LikePattern
