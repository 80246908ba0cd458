import Mathlib.Data.Rat.Defs
import VpnMiddleware.Core.Base64
import VpnMiddleware.Core.SearchParams

/-!
# The verifier of AdMob callbacks

The signed content of a callback is its query string up to the last
`&signature=`; the signature and the key id follow.  Signature verification
and `Number(..)` are parameters; the keys come from a key server.
-/

namespace VpnMiddleware.AdMobSsvVerifier

open VpnMiddleware.SearchParams

def keyTtlMs : ℕ := 6 * 60 * 60 * 1000

def maxCallbackAgeMs : ℕ := 10 * 60 * 1000

def maxClockSkewMs : ℕ := 60 * 1000

/-- What `Number(text)` gives. -/
inductive Number
  | notFinite
  | finite (value : ℚ)
  deriving DecidableEq, Repr

structure Platform where
  /-- `createVerify('SHA256').update(content).verify(pem, signature)`; a key
  that does not parse throws. -/
  verifySignature : (pem : String) → (content signature : List UInt8) → Option Bool
  number : String → Number

structure VerifierKey where
  keyId : ℕ
  pem : String
  deriving DecidableEq, Repr

/-- A verified callback; `raw` holds the own members of the record. -/
structure AdMobReward where
  customData : String
  transactionId : String
  adNetwork : Option String
  adUnit : Option String
  rewardItem : Option String
  rewardAmount : Option Number
  userId : Option String
  timestampMs : Option Number
  keyId : String
  raw : List (String × String)
  deriving DecidableEq, Repr

/-- What `verify` throws. -/
inductive Thrown
  | ssvVerificationError (message : String)
  | error (message : String)
  deriving DecidableEq, Repr

abbrev Check := Except Thrown

/-- A value that is there and not empty. -/
def required (value : Option String) (message : String) : Check String :=
  match value with
  | some text =>
      if text = "" then .error (.ssvVerificationError message) else .ok text
  | none => .error (.ssvVerificationError message)

/-! ## The parts of a callback -/

def sigMarker : List Char := "&signature=".toList

structure SignedCallback where
  signedContent : List Char
  signatureB64Url : String
  keyId : String
  deriving DecidableEq, Repr

def parseCallback (rawQuery : List Char) : Check SignedCallback :=
  match splitAtLast sigMarker rawQuery with
  | none => .error (.ssvVerificationError "missing signature/key_id")
  | some (signedContent, rest) => do
      let tail := searchParams (rest.drop 1)
      let signature ← required (tail.lookup "signature") "missing signature/key_id"
      let keyId ← required (tail.lookup "key_id") "missing signature/key_id"
      return ⟨signedContent, signature, keyId⟩

def base64UrlToBase64 (input : List Char) : List Char :=
  let b64 := input.map fun c => if c = '-' then '+' else if c = '_' then '/' else c
  let pad := if b64.length % 4 = 0 then [] else
    List.replicate (4 - b64.length % 4) '='
  b64 ++ pad

/-- `Buffer.from(text, 'base64')`: padding ends it, other characters are
skipped. -/
def bufferFromBase64 (text : List Char) : List UInt8 :=
  Base64.bytesOf ((text.takeWhile (· != '=')).filterMap Base64.sextet)

def SignedCallback.signature (callback : SignedCallback) : List UInt8 :=
  bufferFromBase64 (base64UrlToBase64 callback.signatureB64Url.toList)

/-- `raw[k] = v`: a string is not stored as the prototype. -/
def assign (raw : List (String × String)) (entry : String × String) :
    List (String × String) :=
  if entry.1 = "__proto__" then raw
  else if raw.any (fun other => other.1 == entry.1) then
    raw.map fun other => if other.1 = entry.1 then entry else other
  else raw ++ [entry]

def rawRecord (entries : List (String × String)) : List (String × String) :=
  entries.foldl assign []

/-! ## Content -/

section Content

variable (platform : Platform)

/-- `p.get(name) ? Number(p.get(name)) : undefined`. -/
def optionalNumber (value : Option String) : Option Number :=
  match value with
  | some text => if text = "" then none else some (platform.number text)
  | none => none

/-- The age that the check refuses; a timestamp that is no number is let
through. -/
def refusedAge (now : ℕ) : Option Number → Option ℚ
  | some (.finite timestampMs) =>
      let age := (now : ℚ) - timestampMs
      if maxCallbackAgeMs < age ∨ age < -maxClockSkewMs then some age else none
  | _ => none

/-- The reward of a content whose signature is valid. -/
def readContent (now : ℕ) (signedContent : List Char) (keyId : String) :
    Check AdMobReward := do
  let p := searchParams signedContent
  let customData ← required (p.lookup "custom_data")
    "missing custom_data (grant nonce)"
  let transactionId ← required (p.lookup "transaction_id") "missing transaction_id"
  let timestampMs := optionalNumber platform (p.lookup "timestamp")
  match refusedAge now timestampMs with
  | some age =>
      throw (.ssvVerificationError ("callback timestamp out of window (age " ++
        toString (age / 1000 + 1 / 2).floor ++ "s)"))
  | none =>
      return {
        customData := customData
        transactionId := transactionId
        adNetwork := p.lookup "ad_network"
        adUnit := p.lookup "ad_unit"
        rewardItem := p.lookup "reward_item"
        rewardAmount := optionalNumber platform (p.lookup "reward_amount")
        userId := p.lookup "user_id"
        timestampMs := timestampMs
        keyId := keyId
        raw := rawRecord p }

end Content

/-! ## Keys -/

/-- The key cache; a new one is empty and stale. -/
structure KeyCache where
  keys : List (String × String) := []
  fetchedAt : ℕ := 0
  deriving DecidableEq, Repr

/-- How the fetch of the keys ends: it fails or times out, or there is a
response.  Its body is JSON or not, and may lack `keys`. -/
inductive KeyServerReply
  | failed (message : String)
  | answered (status : ℕ) (body : Option (Option (List VerifierKey)))
  deriving DecidableEq, Repr

/-- `map.set(k, v)`. -/
def mapSet (entries : List (String × String)) (key value : String) :
    List (String × String) :=
  if entries.any (fun other => other.1 == key) then
    entries.map fun other => if other.1 = key then (key, value) else other
  else entries ++ [(key, value)]

def keyMap (keys : List VerifierKey) : List (String × String) :=
  keys.foldl (fun entries k => mapSet entries (toString k.keyId) k.pem) []

def refreshKeys (fetched : ℕ) : KeyServerReply → Check KeyCache
  | .failed message => .error (.error message)
  | .answered status body =>
      if status < 200 ∨ 299 < status then
        .error (.ssvVerificationError
          ("verifier keys fetch failed: " ++ toString status))
      else
        match body with
        | none => .error (.error "invalid json")
        | some keys =>
            let next := keyMap (keys.getD [])
            if next = [] then
              .error (.ssvVerificationError "verifier key set was empty")
            else .ok ⟨next, fetched⟩

/-- The cached key, if it may be used at `now`. -/
def cachedKey (cache : KeyCache) (now : ℕ) (keyId : String) : Option String :=
  if keyTtlMs < now - cache.fetchedAt then none else cache.keys.lookup keyId

/-- When the cache is asked, when a refresh is answered and when the timestamp
is checked. -/
structure Instants where
  asked : ℕ
  fetched : ℕ
  checked : ℕ
  deriving DecidableEq, Repr

/-- The key, and the cache it leaves.  `reply` is how the refresh ends that the
call starts or joins. -/
def getKey (cache : KeyCache) (at_ : Instants) (reply : KeyServerReply)
    (keyId : String) : Check (Option String) × KeyCache :=
  match cachedKey cache at_.asked keyId with
  | some pem => (.ok (some pem), cache)
  | none =>
      match refreshKeys at_.fetched reply with
      | .error thrown => (.error thrown, cache)
      | .ok next => (.ok (next.keys.lookup keyId), next)

section Verify

variable (platform : Platform)

/-- From the key on; an empty key counts as none. -/
def verifyWith (now : ℕ) (callback : SignedCallback) (pem : Option String) :
    Check AdMobReward :=
  match pem.filter (· ≠ "") with
  | none => .error (.ssvVerificationError ("unknown key_id " ++ callback.keyId))
  | some pem =>
      match platform.verifySignature pem (utf8Bytes callback.signedContent)
        callback.signature with
      | none => .error (.error "bad key")
      | some false =>
          .error (.ssvVerificationError "signature verification failed")
      | some true => readContent platform now callback.signedContent callback.keyId

def verify (cache : KeyCache) (at_ : Instants) (reply : KeyServerReply)
    (rawQuery : List Char) : Check AdMobReward × KeyCache :=
  match parseCallback rawQuery with
  | .error thrown => (.error thrown, cache)
  | .ok callback =>
      let (key, next) := getKey cache at_ reply callback.keyId
      (key.bind (verifyWith platform at_.checked callback), next)

end Verify

/-! ## What the parts return -/

section Specifications

variable {platform : Platform} {cache next : KeyCache} {at_ : Instants}
variable {reply : KeyServerReply} {now : ℕ} {keyId : String}
variable {rawQuery signedContent : List Char} {reward : AdMobReward}

theorem bind_eq_ok {First Second : Type} {first : Check First}
    {rest : First → Check Second} {result : Second} :
    (first >>= rest) = .ok result ↔ ∃ value, first = .ok value ∧ rest value = .ok result := by
  cases first with
  | error thrown => simp [bind, Except.bind]
  | ok value => simp [bind, Except.bind]

theorem required_eq_ok {value : Option String} {message text : String} :
    required value message = .ok text ↔ value = some text ∧ text ≠ "" := by
  cases value with
  | none => simp [required]
  | some other =>
      by_cases hempty : other = ""
      · simp only [required, hempty, if_true, Option.some.injEq]
        constructor
        · intro hok
          cases hok
        · rintro ⟨rfl, hne⟩
          exact absurd rfl hne
      · simp only [required, if_neg hempty, Except.ok.injEq, Option.some.injEq]
        constructor
        · rintro rfl
          exact ⟨rfl, hempty⟩
        · exact And.left

theorem parseCallback_eq_ok {callback : SignedCallback} :
    parseCallback rawQuery = .ok callback ↔
      ∃ rest, splitAtLast sigMarker rawQuery =
          some (callback.signedContent, rest) ∧
        (searchParams (rest.drop 1)).lookup "signature" =
          some callback.signatureB64Url ∧ callback.signatureB64Url ≠ "" ∧
        (searchParams (rest.drop 1)).lookup "key_id" = some callback.keyId ∧
        callback.keyId ≠ "" := by
  rw [parseCallback]
  cases hsplit : splitAtLast sigMarker rawQuery with
  | none => simp
  | some pair =>
      obtain ⟨content, rest⟩ := pair
      simp only [bind_eq_ok, required_eq_ok, pure, Except.pure, Except.ok.injEq]
      constructor
      · rintro ⟨signature, ⟨hsignature, hsome⟩, id, ⟨hid, hne⟩, rfl⟩
        exact ⟨rest, rfl, hsignature, hsome, hid, hne⟩
      · rintro ⟨rest', hpair, hsignature, hsome, hid, hne⟩
        obtain ⟨rfl, rfl⟩ : content = callback.signedContent ∧ rest = rest' := by
          simpa using hpair
        exact ⟨_, ⟨hsignature, hsome⟩, _, ⟨hid, hne⟩, rfl⟩

/-- The fields that are read off signed bytes, whoever signed them. -/
def contentFields (platform : Platform) (signed : List UInt8) (keyId : String) :
    AdMobReward :=
  let p := searchParams (utf8DecodeReplacing signed)
  { customData := (p.lookup "custom_data").getD ""
    transactionId := (p.lookup "transaction_id").getD ""
    adNetwork := p.lookup "ad_network"
    adUnit := p.lookup "ad_unit"
    rewardItem := p.lookup "reward_item"
    rewardAmount := optionalNumber platform (p.lookup "reward_amount")
    userId := p.lookup "user_id"
    timestampMs := optionalNumber platform (p.lookup "timestamp")
    keyId := keyId
    raw := rawRecord p }

theorem readContent_eq_ok :
    readContent platform now signedContent keyId = .ok reward ↔
      reward = contentFields platform (utf8Bytes signedContent) keyId ∧
        reward.customData ≠ "" ∧ reward.transactionId ≠ "" ∧
        refusedAge now reward.timestampMs = none := by
  simp only [readContent, contentFields, utf8DecodeReplacing_utf8Bytes, bind_eq_ok,
    required_eq_ok]
  constructor
  · rintro ⟨customData, ⟨hcustom, hcustomNe⟩, transactionId,
      ⟨htransaction, htransactionNe⟩, hrest⟩
    split at hrest
    · cases hrest
    · rename_i hfresh
      obtain rfl := Except.ok.inj hrest
      exact ⟨by simp [hcustom, htransaction], hcustomNe, htransactionNe, hfresh⟩
  · rintro ⟨rfl, hcustomNe, htransactionNe, hfresh⟩
    obtain ⟨customData, hcustom⟩ : ∃ text,
        (searchParams signedContent).lookup "custom_data" = some text := by
      rw [← Option.ne_none_iff_exists']
      intro hnone
      exact hcustomNe (by simp [hnone])
    obtain ⟨transactionId, htransaction⟩ : ∃ text,
        (searchParams signedContent).lookup "transaction_id" = some text := by
      rw [← Option.ne_none_iff_exists']
      intro hnone
      exact htransactionNe (by simp [hnone])
    refine ⟨customData, ⟨hcustom, by simpa [hcustom] using hcustomNe⟩, transactionId,
      ⟨htransaction, by simpa [htransaction] using htransactionNe⟩, ?_⟩
    rw [hfresh]
    simp [hcustom, htransaction, pure, Except.pure]

theorem getKey_eq_ok {key : Option String}
    (hkey : getKey cache at_ reply keyId = (.ok key, next)) :
    next.keys.lookup keyId = key := by
  rw [getKey] at hkey
  cases hcached : cachedKey cache at_.asked keyId with
  | some pem =>
      rw [hcached] at hkey
      obtain ⟨rfl, rfl⟩ : some pem = key ∧ cache = next := by simpa using hkey
      rw [cachedKey] at hcached
      split at hcached
      · cases hcached
      · exact hcached
  | none =>
      rw [hcached] at hkey
      cases hrefresh : refreshKeys at_.fetched reply with
      | error thrown => simp [hrefresh] at hkey
      | ok fresh =>
          rw [hrefresh] at hkey
          obtain ⟨rfl, rfl⟩ : fresh.keys.lookup keyId = key ∧ fresh = next := by
            simpa using hkey
          rfl

theorem verifyWith_eq_ok {callback : SignedCallback} {pem : Option String}
    (hok : verifyWith platform now callback pem = .ok reward) :
    ∃ key, pem = some key ∧ key ≠ "" ∧ platform.verifySignature key
        (utf8Bytes callback.signedContent) callback.signature = some true ∧
      readContent platform now callback.signedContent callback.keyId =
        .ok reward := by
  rw [verifyWith] at hok
  split at hok
  · cases hok
  · rename_i key hkey
    split at hok
    · cases hok
    · cases hok
    · rename_i hverified
      obtain ⟨hpem, hne⟩ := Option.filter_eq_some_iff.mp hkey
      exact ⟨key, hpem, by simpa using hne, hverified, hok⟩

/-- What an accepted callback rests on. -/
theorem verify_eq_ok (hok : verify platform cache at_ reply rawQuery =
    (.ok reward, next)) :
    ∃ callback key, parseCallback rawQuery = .ok callback ∧
      next.keys.lookup callback.keyId = some key ∧
      platform.verifySignature key (utf8Bytes callback.signedContent)
        callback.signature = some true ∧
      readContent platform at_.checked callback.signedContent callback.keyId =
        .ok reward := by
  rw [verify] at hok
  cases hparse : parseCallback rawQuery with
  | error thrown => simp [hparse] at hok
  | ok callback =>
      simp only [hparse, Prod.mk.injEq] at hok
      obtain ⟨hreward, hnext⟩ := hok
      cases hkey : (getKey cache at_ reply callback.keyId).1 with
      | error thrown =>
          rw [hkey] at hreward
          cases hreward
      | ok pem =>
          rw [hkey] at hreward
          obtain ⟨key, rfl, -, hverified, hread⟩ := verifyWith_eq_ok hreward
          exact ⟨callback, key, rfl, getKey_eq_ok (Prod.ext hkey hnext), hverified,
            hread⟩

end Specifications

end VpnMiddleware.AdMobSsvVerifier
