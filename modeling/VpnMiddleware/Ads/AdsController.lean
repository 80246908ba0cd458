import VpnMiddleware.Ads.AdMobSsvVerifier
import VpnMiddleware.Ads.AdsService
import VpnMiddleware.System.Shared

/-!
# The SSV endpoint

`GET /ads/admob/ssv`: the raw query, the verifier and the transaction that
records the reward, with the status that AdMob gets.
-/

namespace VpnMiddleware.AdsController

open VpnMiddleware.Schema VpnMiddleware.Errors VpnMiddleware.Database
open VpnMiddleware.Transaction VpnMiddleware.IdealPanel VpnMiddleware.Shared
open VpnMiddleware.AdMobSsvVerifier VpnMiddleware.AdsService

/-- Everything after the first `?`. -/
def rawQuery (originalUrl : List Char) : List Char :=
  (originalUrl.dropWhile (· != '?')).drop 1

/-- What the column `reward_amount` takes of a number; `none` is refused. -/
def storedAmount : Option Number → Option (Option ℤ)
  | none => some none
  | some .notFinite => none
  | some (.finite value) =>
      if value.den = 1 ∧ -2147483648 ≤ value.num ∧ value.num ≤ 2147483647 then
        some (some value.num)
      else none

/-- What the verifier returns, with the amount that the column takes. -/
def verifiedReward (reward : AdMobSsvVerifier.AdMobReward) (amount : Option ℤ) :
    AdsService.AdMobReward where
  customData := reward.customData
  transactionId := reward.transactionId
  adUnit := reward.adUnit
  rewardItem := reward.rewardItem
  rewardAmount := amount
  keyId := reward.keyId
  raw := reward.raw

/-- `recordVerifiedReward` on what the verifier returns; an amount that the
column refuses fails the insert. -/
def recordReward (now : ℕ) (reward : AdMobSsvVerifier.AdMobReward) :
    Query CallbackOutcome :=
  match storedAmount reward.rewardAmount with
  | some amount => recordVerifiedReward now (verifiedReward reward amount)
  | none =>
      if reward.customData == closingSessionNonce then
        return .acknowledged
      else do
        require (!anyHoldsNul [reward.customData]) nulInText
        let db ← get
        let _ ← expect (db.grants.find? fun row => row.nonce == reward.customData)
          (.notFound "unknown grant nonce")
        require false (.db (.invalidText "integer"))
        return .duplicate

/-- `(err as { status?: number }).status`. -/
def errorStatus : Failure → Option ℕ
  | .notFound _ => some 404
  | .unauthorized _ => some 401
  | .forbidden _ => some 403
  | .conflict _ => some 409
  | .badRequest _ => some 400
  | .panel cause => cause.status
  | _ => none

section

variable (platform : Platform)

/-- The status, the key cache and the world that a callback leaves.  `reply`
is how a refresh of the keys ends, `dbReply` how the transaction does. -/
def admobSsv (cache : KeyCache) (at_ : Instants) (reply : KeyServerReply)
    (dbReply : Reply) (originalUrl : List Char) (world : World) :
    ℕ × KeyCache × World :=
  if rawQuery originalUrl = [] then (400, cache, world)
  else
    match verify platform cache at_ reply (rawQuery originalUrl) with
    | (.error (.ssvVerificationError _), next) => (400, next, world)
    | (.error (.error _), next) => (500, next, world)
    | (.ok reward, next) =>
        match world.query (recordReward world.clock reward) dbReply with
        | (.ok _, after) => (200, next, after)
        | (.error failure, after) =>
            (if errorStatus failure = some 404 then 400 else 500, next, after)

end

/-- The query of a URL whose path has no question mark. -/
theorem rawQuery_append {path : List Char} (hpath : '?' ∉ path)
    (query : List Char) : rawQuery (path ++ '?' :: query) = query := by
  have hpos : ∀ c ∈ path, (c != '?') = true := by
    intro c hc
    rw [bne_iff_ne]
    rintro rfl
    exact hpath hc
  rw [rawQuery, List.dropWhile_append_of_pos hpos]
  simp

end VpnMiddleware.AdsController
