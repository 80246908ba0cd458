import VpnMiddleware.Invariants.SignedCallbacks

/-!
# The status of a callback

A genuine callback is answered 200 once its reward is in the table and 5xx if
a transient failure kept it out, except where the key server's answer is
thrown as a verification error.
-/

namespace VpnMiddleware.CallbackStatus

open VpnMiddleware.Schema VpnMiddleware.Errors VpnMiddleware.Database
open VpnMiddleware.Transaction VpnMiddleware.IdealPanel VpnMiddleware.Shared
open VpnMiddleware.AdsService VpnMiddleware.AdMobSsvVerifier
open VpnMiddleware.AdsController VpnMiddleware.SignedCallbacks

/-! ## Genuine callbacks -/

/-- No text of the reward holds U+0000. -/
structure IsStorable (reward : AdsService.AdMobReward) : Prop where
  customData : anyHoldsNul [reward.customData] = false
  texts : anyHoldsNul reward.texts = false
  rawTexts : anyHoldsNul reward.rawTexts = false

/-- A well-formed, fresh callback that a published key signed, for a grant that
exists. -/
structure Genuine (platform : Platform) (published : List VerifierKey)
    (checked : ℕ) (originalUrl : List Char) (db : Db)
    (reward : AdMobSsvVerifier.AdMobReward) where
  callback : SignedCallback
  pem : String
  parsed : parseCallback (rawQuery originalUrl) = .ok callback
  key : (keyMap published).lookup callback.keyId = some pem
  pem_ne : pem ≠ ""
  signed : platform.verifySignature pem (SearchParams.utf8Bytes callback.signedContent)
    callback.signature = some true
  fresh : readContent platform checked callback.signedContent callback.keyId =
    .ok reward
  amount : (storedAmount reward.rewardAmount).isSome
  texts : IsStorable (verifiedReward reward none)
  grant : ∃ row ∈ db.grants, row.nonce = reward.customData

/-- What the cache holds of the key was fetched from the published set. -/
def CachedFrom (published : List VerifierKey) (keyId : String)
    (cache : KeyCache) : Prop :=
  ∀ pem, cache.keys.lookup keyId = some pem →
    (keyMap published).lookup keyId = some pem

/-- The key server fails, or lists its published keys. -/
def AnswersFrom (published : List VerifierKey) : KeyServerReply → Prop
  | .answered status (some (some keys)) =>
      200 ≤ status ∧ status ≤ 299 → keys ≠ [] → keys = published
  | _ => True

/-- The database answers, or fails with an error of its own. -/
def IsDatabaseReply (dbReply : Reply) : Prop :=
  dbReply = .ok ∨ ∃ applied cause, dbReply = .fail applied (.db cause)

/-! ## Failures of the key server -/

/-- No key comes with this reply. -/
def keyServerFailed : KeyServerReply → Bool
  | .failed _ => true
  | .answered status body =>
      decide (status < 200 ∨ 299 < status) ||
        match body with
        | some (some keys) => keys.isEmpty
        | _ => true

/-- The replies that `refreshKeys` itself complains about. -/
def complainedOf : KeyServerReply → Bool
  | .failed _ => false
  | .answered status body =>
      decide (status < 200 ∨ 299 < status) ||
        match body with
        | some keys => (keys.getD []).isEmpty
        | none => false

section Refresh

variable {reply : KeyServerReply} {fetched : ℕ} {published : List VerifierKey}

theorem mapSet_ne_nil (entries : List (String × String)) (key value : String) :
    mapSet entries key value ≠ [] := by
  rw [mapSet]
  split
  · rename_i hany
    intro hnil
    rw [List.map_eq_nil_iff] at hnil
    rw [hnil] at hany
    cases hany
  · simp

theorem keyMap_eq_nil {keys : List VerifierKey} : keyMap keys = [] ↔ keys = [] := by
  constructor
  · intro hempty
    rcases List.eq_nil_or_concat keys with rfl | ⟨front, last, rfl⟩
    · rfl
    · rw [keyMap, List.concat_eq_append, List.foldl_append] at hempty
      exact absurd hempty (mapSet_ne_nil _ _ _)
  · rintro rfl
    rfl

/-- The three ways a refresh ends. -/
theorem refreshKeys_cases (hreply : AnswersFrom published reply) :
    (∃ message, refreshKeys fetched reply =
        .error (.ssvVerificationError message) ∧ complainedOf reply = true) ∨
      (∃ message, refreshKeys fetched reply = .error (.error message) ∧
        complainedOf reply = false ∧ keyServerFailed reply = true) ∨
      (refreshKeys fetched reply = .ok ⟨keyMap published, fetched⟩ ∧
        complainedOf reply = false) := by
  cases reply with
  | failed message => exact Or.inr (Or.inl ⟨message, rfl, rfl, rfl⟩)
  | answered status body =>
      by_cases hstatus : status < 200 ∨ 299 < status
      · refine Or.inl ⟨_, if_pos hstatus, ?_⟩
        simp [complainedOf, hstatus]
      · have hok : 200 ≤ status ∧ status ≤ 299 := by omega
        simp only [refreshKeys]
        rw [if_neg hstatus]
        rcases body with _ | keys
        · exact Or.inr (Or.inl ⟨_, rfl, by simp [complainedOf, hstatus],
            by simp [keyServerFailed]⟩)
        · by_cases hempty : keys.getD [] = []
          · have hmap : keyMap (keys.getD []) = [] := keyMap_eq_nil.mpr hempty
            refine Or.inl ⟨"verifier key set was empty", ?_, ?_⟩
            · exact if_pos hmap
            · simp [complainedOf, hempty]
          · have hmap : keyMap (keys.getD []) ≠ [] := by
              rwa [Ne, keyMap_eq_nil]
            refine Or.inr (Or.inr ⟨?_, ?_⟩)
            · rcases keys with _ | keys
              · exact absurd rfl hempty
              · obtain rfl := hreply hok hempty
                exact if_neg hmap
            · simp [complainedOf, hstatus, hempty]

end Refresh

/-! ## Recording -/

/-- The reward is in the table, or its callback closes a session. -/
def Settled (reward : AdMobSsvVerifier.AdMobReward) (db : Db) : Prop :=
  reward.customData = closingSessionNonce ∨
    ∃ row ∈ db.rewards, row.network = .admob ∧
      row.transactionId = reward.transactionId

section Recording

variable {now : ℕ} {db : Db} {reward : AdMobSsvVerifier.AdMobReward}

theorem find_of_nonce {nonce : String} (hgrant : ∃ row ∈ db.grants, row.nonce = nonce) :
    ∃ grant, (db.grants.find? fun row => row.nonce == nonce) = some grant := by
  obtain ⟨row, hrow, hnonce⟩ := hgrant
  rw [← Option.isSome_iff_exists, List.find?_isSome]
  exact ⟨row, hrow, by simpa using hnonce⟩

/-- A duplicate has its row. -/
theorem settled_of_isDuplicate {grantId : ℕ} {verified : AdsService.AdMobReward}
    (htransaction : verified.transactionId = reward.transactionId)
    (hduplicate : isDuplicate (rewardRow now grantId verified) db.rewards = true) :
    Settled reward db := by
  obtain ⟨row, hrow, hsame⟩ := List.any_eq_true.mp hduplicate
  rw [Bool.and_eq_true, beq_iff_eq, beq_iff_eq] at hsame
  refine Or.inr ⟨row, hrow, hsame.1, ?_⟩
  rw [hsame.2]
  exact htransaction

/-- For a grant that exists the transaction commits, and the reward is in the
table. -/
theorem recordReward_commits (hamount : (storedAmount reward.rewardAmount).isSome)
    (htexts : IsStorable (verifiedReward reward none))
    (hgrant : ∃ row ∈ db.grants, row.nonce = reward.customData) :
    ∃ outcome after, recordReward now reward db = .ok (outcome, after) ∧
      Settled reward after := by
  obtain ⟨amount, hsome⟩ := Option.isSome_iff_exists.mp hamount
  obtain ⟨grant, hfind⟩ := find_of_nonce hgrant
  have hstorable : IsStorable (verifiedReward reward amount) :=
    ⟨htexts.customData, htexts.texts, htexts.rawTexts⟩
  rw [recordReward, hsome]
  simp only [recordVerifiedReward]
  by_cases hsentinel : reward.customData = closingSessionNonce
  · rw [if_pos (by simpa [verifiedReward] using hsentinel)]
    exact ⟨_, _, rfl, Or.inl hsentinel⟩
  have hfind' : (db.grants.find? fun row =>
      row.nonce == (verifiedReward reward amount).customData) = some grant := hfind
  rw [if_neg (by simpa [verifiedReward] using hsentinel), hstorable.customData,
    hstorable.texts, hstorable.rawTexts]
  simp only [Bool.not_false, run_require_bind, run_get_bind, hfind', run_expect_bind]
  by_cases hduplicate : isDuplicate
      (rewardRow now grant.id (verifiedReward reward amount)) db.rewards = true
  · rw [if_pos hduplicate]
    refine ⟨_, _, rfl, settled_of_isDuplicate ?_ hduplicate⟩
    rfl
  · rw [if_neg hduplicate, run_modify_bind]
    have hstored : ∀ grants, Settled reward { db with
        grants := grants
        rewards := db.rewards ++
          [rewardRow now grant.id (verifiedReward reward amount)] } := by
      intro grants
      exact Or.inr ⟨_, List.mem_append_right _ List.mem_cons_self, rfl, rfl⟩
    by_cases hopen : isOpen now grant = true
    · rw [if_pos hopen]
      exact ⟨_, _, rfl, hstored _⟩
    · rw [if_neg hopen]
      exact ⟨_, _, rfl, hstored db.grants⟩

end Recording

/-! ## Answers -/

/-- The claim on one answer: 200 and the reward is settled, or 5xx and a
transient failure came in between. -/
def AnsweredByOutcome (platform : Platform) (cache : KeyCache) (at_ : Instants)
    (reply : KeyServerReply) (dbReply : Reply) (originalUrl : List Char)
    (world : World) (reward : AdMobSsvVerifier.AdMobReward) : Prop :=
  let answer := admobSsv platform cache at_ reply dbReply originalUrl world
  (answer.1 = 200 ∧ Settled reward answer.2.2.db) ∨
    (500 ≤ answer.1 ∧ answer.1 ≤ 599 ∧
      ((cachedKey cache at_.asked reward.keyId = none ∧
        keyServerFailed reply = true) ∨ dbReply ≠ .ok))

section Answers

variable {platform : Platform} {published : List VerifierKey} {cache : KeyCache}
variable {at_ : Instants} {reply : KeyServerReply} {dbReply : Reply}
variable {originalUrl : List Char} {world : World}
variable {reward : AdMobSsvVerifier.AdMobReward}

namespace Genuine

variable (genuine : Genuine platform published at_.checked originalUrl world.db reward)

include genuine

theorem keyId : reward.keyId = genuine.callback.keyId := by
  have hfields := (readContent_eq_ok.mp genuine.fresh).1
  exact congrArg AdMobSsvVerifier.AdMobReward.keyId hfields

theorem rawQuery_ne_nil : rawQuery originalUrl ≠ [] := by
  intro hempty
  have hparsed := genuine.parsed
  rw [hempty] at hparsed
  exact absurd hparsed nofun

/-- With its key the callback is accepted. -/
theorem verifyWith_eq : verifyWith platform at_.checked genuine.callback
    (some genuine.pem) = .ok reward := by
  have hfilter : (some genuine.pem).filter (· ≠ "") = some genuine.pem := by
    simp [genuine.pem_ne]
  rw [verifyWith, hfilter]
  simp only [genuine.signed]
  exact genuine.fresh

theorem verify_of_key {next : KeyCache}
    (hkey : getKey cache at_ reply genuine.callback.keyId =
      (.ok (some genuine.pem), next)) :
    verify platform cache at_ reply (rawQuery originalUrl) = (.ok reward, next) := by
  rw [verify, genuine.parsed]
  simp only [hkey]
  exact Prod.ext genuine.verifyWith_eq rfl

theorem verify_of_thrown {thrown : Thrown} {next : KeyCache}
    (hkey : getKey cache at_ reply genuine.callback.keyId = (.error thrown, next)) :
    verify platform cache at_ reply (rawQuery originalUrl) = (.error thrown, next) := by
  rw [verify, genuine.parsed]
  simp only [hkey, Except.bind]

theorem answer_of_complaint {message : String} {next : KeyCache}
    (hkey : getKey cache at_ reply genuine.callback.keyId =
      (.error (.ssvVerificationError message), next)) :
    admobSsv platform cache at_ reply dbReply originalUrl world =
      (400, next, world) := by
  rw [admobSsv, if_neg genuine.rawQuery_ne_nil, genuine.verify_of_thrown hkey]

theorem answer_of_error {message : String} {next : KeyCache}
    (hkey : getKey cache at_ reply genuine.callback.keyId =
      (.error (.error message), next)) :
    admobSsv platform cache at_ reply dbReply originalUrl world =
      (500, next, world) := by
  rw [admobSsv, if_neg genuine.rawQuery_ne_nil, genuine.verify_of_thrown hkey]

theorem answer_of_reward {next : KeyCache}
    (hverify : verify platform cache at_ reply (rawQuery originalUrl) =
      (.ok reward, next)) :
    admobSsv platform cache at_ reply dbReply originalUrl world =
      match world.query (recordReward world.clock reward) dbReply with
      | (.ok _, after) => (200, next, after)
      | (.error failure, after) =>
          (if errorStatus failure = some 404 then 400 else 500, next, after) := by
  rw [admobSsv, if_neg genuine.rawQuery_ne_nil]
  generalize verify platform cache at_ reply (rawQuery originalUrl) = verified
    at hverify
  subst hverify
  rfl

/-- A verified callback is answered by what the database does. -/
theorem answered_of_verify {next : KeyCache} (hdb : IsDatabaseReply dbReply)
    (hverify : verify platform cache at_ reply (rawQuery originalUrl) =
      (.ok reward, next)) :
    AnsweredByOutcome platform cache at_ reply dbReply originalUrl world reward := by
  obtain ⟨outcome, after, hcommit, hsettled⟩ :=
    @recordReward_commits world.clock _ _ genuine.amount genuine.texts genuine.grant
  rw [AnsweredByOutcome, genuine.answer_of_reward hverify]
  rcases hdb with rfl | ⟨applied, cause, rfl⟩
  · apply Or.inl
    rw [World.query_of_ok hcommit]
    exact ⟨rfl, hsettled⟩
  · rw [World.query]
    refine Or.inr ⟨le_refl 500, by simp [errorStatus], Or.inr fun hmissing => ?_⟩
    cases hmissing

/-- What the key cache and the key server give. -/
theorem getKey_cases (hcache : CachedFrom published genuine.callback.keyId cache)
    (hreply : AnswersFrom published reply) :
    (∃ next, getKey cache at_ reply genuine.callback.keyId =
        (.ok (some genuine.pem), next) ∧
      ¬ (cachedKey cache at_.asked genuine.callback.keyId = none ∧
        complainedOf reply = true)) ∨
      (cachedKey cache at_.asked genuine.callback.keyId = none ∧
        ∃ message, getKey cache at_ reply genuine.callback.keyId =
          (.error (.ssvVerificationError message), cache) ∧
          complainedOf reply = true) ∨
      (cachedKey cache at_.asked genuine.callback.keyId = none ∧
        ∃ message, getKey cache at_ reply genuine.callback.keyId =
          (.error (.error message), cache) ∧ complainedOf reply = false ∧
          keyServerFailed reply = true) := by
  cases hcached : cachedKey cache at_.asked genuine.callback.keyId with
  | some pem =>
      have hpem : pem = genuine.pem := by
        have hkeys := hcached
        rw [cachedKey] at hkeys
        split at hkeys
        · cases hkeys
        · have hpublished := hcache pem hkeys
          rw [genuine.key] at hpublished
          exact (Option.some.inj hpublished).symm
      subst hpem
      refine Or.inl ⟨cache, ?_, ?_⟩
      · rw [getKey, hcached]
      · simp
  | none =>
      rcases @refreshKeys_cases _ at_.fetched _ hreply with
        ⟨message, hthrown, hcomplained⟩ |
          ⟨message, hthrown, hcomplained, hfailed⟩ | ⟨hnext, hcomplained⟩
      · refine Or.inr (Or.inl ⟨rfl, message, ?_, hcomplained⟩)
        rw [getKey, hcached, hthrown]
      · refine Or.inr (Or.inr ⟨rfl, message, ?_, hcomplained, hfailed⟩)
        rw [getKey, hcached, hthrown]
      · refine Or.inl ⟨⟨keyMap published, at_.fetched⟩, ?_, ?_⟩
        · rw [getKey, hcached, hnext]
          simp only [genuine.key]
        · simp [hcomplained]

end Genuine

end Answers

/-- A genuine callback is answered by its outcome, unless the refresh that it
needs ends with a complaint of `refreshKeys`. -/
theorem answered_by_outcome_iff (platform : Platform) (published : List VerifierKey)
    (cache : KeyCache) (at_ : Instants) (reply : KeyServerReply) (dbReply : Reply)
    (originalUrl : List Char) (world : World)
    (reward : AdMobSsvVerifier.AdMobReward)
    (genuine : Genuine platform published at_.checked originalUrl world.db reward)
    (hcache : CachedFrom published reward.keyId cache)
    (hreply : AnswersFrom published reply) (hdb : IsDatabaseReply dbReply) :
    AnsweredByOutcome platform cache at_ reply dbReply originalUrl world reward ↔
      ¬ (cachedKey cache at_.asked reward.keyId = none ∧
        complainedOf reply = true) := by
  rw [genuine.keyId] at hcache ⊢
  rcases genuine.getKey_cases hcache hreply with
    ⟨next, hkey, hfine⟩ | ⟨hmissing, message, hkey, hcomplained⟩ |
      ⟨hmissing, message, hkey, hquiet, hfailed⟩
  · have hanswered := genuine.answered_of_verify hdb (genuine.verify_of_key hkey)
    exact iff_of_true hanswered hfine
  · refine iff_of_false ?_ (fun hnot => hnot ⟨hmissing, hcomplained⟩)
    rw [AnsweredByOutcome, genuine.answer_of_complaint hkey]
    simp
  · refine iff_of_true ?_ (by simp [hquiet])
    rw [AnsweredByOutcome, genuine.answer_of_error hkey, genuine.keyId]
    exact Or.inr ⟨le_refl 500, by simp, Or.inl ⟨hmissing, hfailed⟩⟩

/-! ## One callback -/

def sampleKey : VerifierKey := ⟨3335741209, "pem"⟩

def sampleCallback : EncodedCallback where
  encoder := SearchParams.componentEncoder
  fields := [("custom_data", "bm9uY2U"), ("transaction_id", "t1")]
  bytes := [0x30, 0xFB]
  signature := Base64.encodeUrl [0x30, 0xFB]
  keyId := "3335741209"
  distinct := by decide
  customData := ⟨"bm9uY2U", rfl, by decide⟩
  transactionId := ⟨"t1", rfl, by decide⟩
  signed := signed_sample
  webSafe := webSafe_sample
  named := named_sample

def sampleUrl : List Char := sampleCallback.url "/api/v1/ads/admob/ssv".toList

def sampleWorld : World where
  db := { grants := [{
    id := 1
    userId := 1
    deviceId := 1
    sessionId := none
    purpose := .connect
    nonce := "bm9uY2U"
    requiredAds := 2
    grantMinutes := 60
    issuedAt := 0
    expiresAt := 600000 }] }

def sampleReward : AdMobSsvVerifier.AdMobReward :=
  contentFields oneSignature (SearchParams.utf8Bytes sampleCallback.content)
    sampleCallback.keyId

theorem sampleReward_fields : sampleReward.customData = "bm9uY2U" ∧
    sampleReward.rewardAmount = none := by
  simp only [sampleReward, contentFields, SearchParams.utf8DecodeReplacing_utf8Bytes,
    searchParams_content]
  exact ⟨rfl, rfl⟩

theorem sampleReward_storable : IsStorable (verifiedReward sampleReward none) := by
  simp only [sampleReward, contentFields, SearchParams.utf8DecodeReplacing_utf8Bytes,
    searchParams_content]
  exact ⟨by decide +kernel, by decide +kernel, by decide +kernel⟩

def sampleGenuine :
    Genuine oneSignature [sampleKey] 0 sampleUrl sampleWorld.db sampleReward where
  callback := ⟨sampleCallback.content, String.ofList sampleCallback.signature,
    sampleCallback.keyId⟩
  pem := "pem"
  parsed := by
    rw [sampleUrl, EncodedCallback.url, rawQuery_append (by decide)]
    exact parseCallback_callbackQuery sampleCallback.webSafe sampleCallback.signed
      sampleCallback.named
  key := by decide
  pem_ne := by decide
  signed := by
    rw [SignedCallback.signature, String.toList_ofList, sampleCallback.webSafe.decoded]
    rfl
  fresh := @readContent_content oneSignature ⟨0, 0, 0⟩ sampleCallback rfl _
  amount := by
    rw [sampleReward_fields.2]
    rfl
  texts := sampleReward_storable
  grant := ⟨_, List.mem_cons_self, sampleReward_fields.1.symm⟩

/-- With the key in the cache the grant is credited. -/
theorem answered_by_outcome_iff_cached :
    AnsweredByOutcome oneSignature oneKey ⟨0, 0, 0⟩ (.failed "timeout") .ok sampleUrl
      sampleWorld sampleReward :=
  (answered_by_outcome_iff oneSignature [sampleKey] oneKey ⟨0, 0, 0⟩
    (.failed "timeout") .ok sampleUrl sampleWorld sampleReward sampleGenuine
    (fun _ hlookup => hlookup) trivial (Or.inl rfl)).mpr (by simp [complainedOf])

/-- A 503 of the key server turns a genuine callback away for good. -/
theorem key_server_error_is_forgery :
    Nonempty (Genuine oneSignature [sampleKey] 0 sampleUrl sampleWorld.db
        sampleReward) ∧
      (admobSsv oneSignature {} ⟨0, 0, 0⟩ (.answered 503 none) .ok sampleUrl
        sampleWorld).1 = 400 ∧
      ¬ AnsweredByOutcome oneSignature {} ⟨0, 0, 0⟩ (.answered 503 none) .ok
        sampleUrl sampleWorld sampleReward := by
  have hkey : getKey {} ⟨0, 0, 0⟩ (.answered 503 none) sampleGenuine.callback.keyId =
      (.error (.ssvVerificationError "verifier keys fetch failed: 503"), {}) := by
    decide +kernel
  have hanswer : admobSsv oneSignature {} ⟨0, 0, 0⟩ (.answered 503 none) .ok
      sampleUrl sampleWorld = (400, {}, sampleWorld) :=
    sampleGenuine.answer_of_complaint hkey
  refine ⟨⟨sampleGenuine⟩, by rw [hanswer], ?_⟩
  rw [AnsweredByOutcome, hanswer]
  simp

end VpnMiddleware.CallbackStatus
