import Mathlib.Algebra.Order.Ring.Rat
import Mathlib.Tactic.NormNum
import VpnMiddleware.Connection.ConnectionService
import VpnMiddleware.Invariants.ConfirmedExpiry
import VpnMiddleware.System.DrainFlow

/-!
# Three encodings of one expiry

Milliseconds in the middleware, whole seconds on Rebecca and in the outbox.
The inline push and the replay store the same second; the client compares what
is read back to two seconds in milliseconds, `connect` to two whole seconds.
-/

namespace VpnMiddleware.ExpiryEncodings

open VpnMiddleware.Schema VpnMiddleware.Environment VpnMiddleware.PanelTypes
open VpnMiddleware.PanelHttp VpnMiddleware.ExpiryEcho
open VpnMiddleware.ExpiryReadBack VpnMiddleware.ConfirmedExpiry
open VpnMiddleware.RebeccaPanelClient

/-! ## The encodings -/

/-- `new Date(op.payload.expire_epoch * 1000)`, unless the member is missing. -/
def replayedInstant (payload : PanelOpPayload) : Option ℕ :=
  match payload.expireEpoch with
  | none | some 0 => none
  | some epoch => some (epoch * 1000)

/-- The drainer pushes that instant. -/
theorem dispatch_replayed {cfg : Config} {proc : DrainFlow.DrainProc}
    {world : Shared.World} {reply : IdealPanel.Reply} {instant : ℕ}
    (hop : proc.row.op = .extendUser)
    (hinstant : replayedInstant proc.row.payload = some instant) :
    proc.dispatch cfg world reply = proc.call cfg
      (.setUserExpiry proc.row.payload.panelUsername instant) .complete world
      reply := by
  cases hepoch : proc.row.payload.expireEpoch with
  | none => simp [replayedInstant, hepoch] at hinstant
  | some epoch =>
      cases epoch with
      | zero => simp [replayedInstant, hepoch] at hinstant
      | succ epoch =>
          obtain rfl : (epoch + 1) * 1000 = instant := by
            simpa [replayedInstant, hepoch] using hinstant
          simp only [DrainFlow.DrainProc.dispatch, hop, hepoch]

/-- `expiryMatches(a, b)`: to the second; null does not match, and no comparison
with an invalid date holds. -/
def expiryMatches (a : ReportedExpiry) (b : ℕ) : Bool :=
  match a with
  | .unlimited | .invalid => false
  | .at ms => decide ((ms / 1000 - (b / 1000 : ℕ)).natAbs ≤ 2)

/-- On the instants of an account it is the check of `connect`. -/
theorem expiryMatches_at (ms b : ℕ) :
    expiryMatches (.at ms) b = ConnectionService.expiryMatches (some ms) b := by
  rw [expiryMatches, ConnectionService.expiryMatches, decide_eq_decide]
  omega

/-- `assertExpiryRoundTrip` of the Rebecca client lets the expiry pass. -/
def isAccepted (sent : ℕ) (reported : ReportedExpiry) : Bool :=
  !hasDrifted expireDriftToleranceMs sent reported

/-- The pushes of an instant, inline and replayed, and what they read back. -/
structure EncodingsAgree (t : ℕ) : Prop where
  stored : ∀ now opId sessionId username, ∃ instant,
    replayedInstant (AdsService.extendOp now opId sessionId username t).payload =
        some instant ∧
      toEpochSeconds instant = toEpochSeconds t ∧
      isAccepted instant (readSeconds (.number (toEpochSeconds t))) = true
  readBack : ∃ ms : ℤ, readSeconds (.number (toEpochSeconds t)) = .at ms ∧
    (t : ℤ) - 1000 < ms ∧ ms ≤ t
  accepted : isAccepted t (readSeconds (.number (toEpochSeconds t))) = true
  matches_ : expiryMatches (readSeconds (.number (toEpochSeconds t))) t = true

/-- The pushed second times or divided by 1000, as a fraction or as a whole
number, or missing where that is zero; or the instant in milliseconds. -/
inductive IsMisscaled (t : ℕ) : Echo → Prop
  | times : IsMisscaled t (.number (toEpochSeconds t * 1000 : ℕ))
  | millis : IsMisscaled t (.number t)
  | fraction : IsMisscaled t (.number ((toEpochSeconds t : ℚ) / 1000))
  | whole : IsMisscaled t (.number (toEpochSeconds t / 1000 : ℕ))
  | missing (hzero : toEpochSeconds t / 1000 = 0) : IsMisscaled t .null

/-- The encodings of an instant agree, and with this value from the panel the
two checks do what they are for. -/
structure EncodingsSafe (t : ℕ) (value : Echo) : Prop where
  agree : EncodingsAgree t
  implied : isAccepted t (readSeconds value) = true →
    expiryMatches (readSeconds value) t = true
  rejected : IsMisscaled t value → isAccepted t (readSeconds value) = false

/-! ## Dates of whole numbers -/

theorem timeClip_natCast {n : ℕ} (hn : n ≤ DateText.maxDate) :
    timeClip (n : ℚ) = .at n := by
  have hrange : -(DateText.maxDate : ℚ) ≤ (n : ℚ) ∧ (n : ℚ) ≤ DateText.maxDate := by
    constructor
    · have hmax : (0 : ℚ) ≤ DateText.maxDate := Nat.cast_nonneg _
      have hpos : (0 : ℚ) ≤ n := Nat.cast_nonneg n
      linarith
    · exact_mod_cast hn
  have hpos : (0 : ℚ) ≤ n := Nat.cast_nonneg n
  rw [timeClip, if_pos hrange, truncate, if_pos hpos]
  exact congrArg ReportedExpiry.at (Rat.floor_intCast n)

theorem readSeconds_number {value : ℚ} (hvalue : value ≠ 0) :
    readSeconds (.number value) = timeClip (value * 1000) := by
  simp [readSeconds, Echo.isTruthy, Echo.toNumber, dateOf, hvalue]

theorem readSeconds_natCast {n : ℕ} (hpos : 0 < n)
    (hn : n * 1000 ≤ DateText.maxDate) :
    readSeconds (.number n) = .at (n * 1000) := by
  have hne : (n : ℚ) ≠ 0 := by exact_mod_cast hpos.ne'
  have hclip := timeClip_natCast hn
  rw [readSeconds_number hne]
  push_cast at hclip
  exact hclip

/-- A fraction of the pushed second reads back as that many milliseconds. -/
theorem readSeconds_fraction {n : ℕ} (hpos : 0 < n) (hn : n ≤ DateText.maxDate) :
    readSeconds (.number ((n : ℚ) / 1000)) = .at n := by
  have hne : (n : ℚ) / 1000 ≠ 0 := by
    have hn : (n : ℚ) ≠ 0 := by exact_mod_cast hpos.ne'
    exact div_ne_zero hn (by norm_num)
  rw [readSeconds_number hne, div_mul_cancel₀ _ (by norm_num), timeClip_natCast hn]

/-! ## The checks -/

section Checks

variable {t : ℕ} {value : Echo}

theorem isAccepted_at {ms : ℤ} :
    isAccepted t (.at ms) = true ↔ (ms - t).natAbs ≤ 2000 := by
  rw [isAccepted, hasDrifted, Bool.not_eq_true', decide_eq_false_iff_not, not_lt]
  rfl

theorem not_isAccepted_at {ms : ℤ} :
    isAccepted t (.at ms) = false ↔ 2000 < (ms - t).natAbs := by
  rw [← Bool.not_eq_true, isAccepted_at, not_le]

/-- Two instants within two seconds are within two whole seconds. -/
theorem expiryMatches_of_accepted {reported : ReportedExpiry}
    (haccepted : isAccepted t reported = true) (hdate : reported ≠ .invalid) :
    expiryMatches reported t = true := by
  cases reported with
  | unlimited => cases haccepted
  | invalid => exact absurd rfl hdate
  | «at» ms =>
      rw [isAccepted_at] at haccepted
      rw [expiryMatches, decide_eq_true_eq]
      omega

/-- What the pushed second reads back as. -/
theorem readSeconds_pushed (hlow : 1000 ≤ t) (hhigh : t < 8640000000000) :
    readSeconds (.number (toEpochSeconds t)) =
      .at ((toEpochSeconds t : ℤ) * 1000) := by
  apply readSeconds_natCast
  · rw [toEpochSeconds]
    omega
  · rw [toEpochSeconds, DateText.maxDate]
    omega

theorem encodingsAgree (hlow : 1000 ≤ t) (hhigh : t < 8640000000000) :
    EncodingsAgree t := by
  have hpushed := readSeconds_pushed hlow hhigh
  have hseconds : (toEpochSeconds t : ℤ) = t / 1000 := Int.natCast_div t 1000
  have haccepted : isAccepted t (readSeconds (.number (toEpochSeconds t))) = true := by
    rw [hpushed, isAccepted_at, hseconds]
    omega
  refine ⟨fun now opId sessionId username => ?_, ?_, haccepted, ?_⟩
  · refine ⟨t / 1000 * 1000, ?_, ?_, ?_⟩
    · obtain ⟨second, hsecond⟩ : ∃ second, t / 1000 = second + 1 :=
        ⟨t / 1000 - 1, by omega⟩
      simp [replayedInstant, AdsService.extendOp, Database.newPanelOp, hsecond]
    · exact Nat.mul_div_cancel _ (by decide)
    · rw [hpushed, isAccepted_at, hseconds]
      omega
  · refine ⟨_, hpushed, ?_, ?_⟩
    · rw [hseconds]
      omega
    · rw [hseconds]
      omega
  · exact expiryMatches_of_accepted haccepted (by simp [hpushed])

/-- A fraction of the pushed second is close to the instant only near zero. -/
theorem misscaled_rejected (hlow : 1000 ≤ t) (hhigh : t < 8640000000000)
    (hmisscaled : IsMisscaled t value)
    (hfar : ¬ (t ≤ 2002 ∧ value = .number ((toEpochSeconds t : ℚ) / 1000))) :
    isAccepted t (readSeconds value) = false := by
  have hseconds : toEpochSeconds t = t / 1000 := rfl
  cases hmisscaled with
  | times =>
      rw [readSeconds_natCast (by omega) (by rw [DateText.maxDate]; omega),
        not_isAccepted_at, hseconds]
      omega
  | millis =>
      rw [readSeconds_natCast (by omega) (by rw [DateText.maxDate]; omega),
        not_isAccepted_at]
      omega
  | fraction =>
      have hlarge : 2002 < t := by
        by_contra hsmall
        exact hfar ⟨not_lt.mp hsmall, rfl⟩
      rw [readSeconds_fraction (by omega) (by rw [DateText.maxDate]; omega),
        not_isAccepted_at, hseconds]
      omega
  | whole =>
      by_cases hzero : toEpochSeconds t / 1000 = 0
      · rw [hzero]
        rfl
      · rw [readSeconds_natCast (Nat.pos_of_ne_zero hzero)
          (by rw [DateText.maxDate]; omega), not_isAccepted_at, hseconds]
        omega
  | missing => rfl

theorem fraction_accepted (hlow : 1000 ≤ t) (hnear : t ≤ 2002) :
    isAccepted t (readSeconds (.number ((toEpochSeconds t : ℚ) / 1000))) = true := by
  have hseconds : toEpochSeconds t = t / 1000 := rfl
  rw [readSeconds_fraction (by omega) (by rw [DateText.maxDate]; omega),
    isAccepted_at, hseconds]
  omega

/-- The checks are safe for every instant and every value that a date is made
of, except a fraction of the second next to the epoch. -/
theorem encodingsSafe (hlow : 1000 ≤ t) (hhigh : t < 8640000000000)
    (hreadable : ¬ IsUnreadable isoDate .rebecca value)
    (hfar : ¬ (t ≤ 2002 ∧ value = .number ((toEpochSeconds t : ℚ) / 1000))) :
    EncodingsSafe t value := by
  refine ⟨encodingsAgree hlow hhigh, fun haccepted => ?_,
    fun hmisscaled => misscaled_rejected hlow hhigh hmisscaled hfar⟩
  apply expiryMatches_of_accepted haccepted
  exact fun hinvalid => hreadable (readExpiry_eq_invalid_iff.mp hinvalid)

end Checks

/-- The second of an instant in 2023. -/
theorem encodingsSafe_pushed :
    1000 ≤ 1700000000123 ∧ 1700000000123 < 8640000000000 ∧
      EncodingsSafe 1700000000123 (.number 1700000000) := by
  refine ⟨by decide, by decide, encodingsSafe (by decide) (by decide) ?_ ?_⟩
  · intro hunreadable
    exact absurd (readExpiry_eq_invalid_iff.mpr hunreadable) (by decide +kernel)
  · exact fun hnear => absurd hnear.1 (by decide)

/-- An ISO text passes one check and not the other; two milliseconds pass for
two seconds. -/
theorem unsafe_values :
    ¬ EncodingsSafe 1700000000000 (.text "2023-11-14T22:13:20Z") ∧
      ¬ EncodingsSafe 2000 (.number ((toEpochSeconds 2000 : ℚ) / 1000)) := by
  constructor
  · intro hsafe
    exact absurd (hsafe.implied (by decide +kernel)) (by decide +kernel)
  · intro hsafe
    have hrejected := hsafe.rejected .fraction
    rw [fraction_accepted (by decide) (by decide)] at hrejected
    cases hrejected

end VpnMiddleware.ExpiryEncodings
