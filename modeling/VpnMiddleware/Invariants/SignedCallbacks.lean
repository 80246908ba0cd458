import VpnMiddleware.Ads.AdsController

/-!
# What the signature of a callback covers

Every field but the key id is read off the signed bytes.  A callback that a
percent-encoder wrote is read back, whatever its parameters hold.
-/

namespace VpnMiddleware.SignedCallbacks

open VpnMiddleware.SearchParams VpnMiddleware.AdMobSsvVerifier
open VpnMiddleware.AdsController

/-! ## Signatures -/

/-- One character of `base64UrlToBase64`. -/
def standardDigit (c : Char) : Char :=
  if c = '-' then '+' else if c = '_' then '/' else c

theorem sextet_standardDigit (c : Char) :
    Base64.sextet (standardDigit c) = Base64.sextet c := by
  by_cases hdash : c = '-'
  · subst hdash
    decide
  by_cases hunderscore : c = '_'
  · subst hunderscore
    decide
  simp [standardDigit, hdash, hunderscore]

theorem standardDigit_ne_pad (c : Char) :
    (standardDigit c != '=') = (c != '=') := by
  rw [standardDigit]
  split
  · rename_i hdash
    subst hdash
    decide
  · split
    · rename_i hunderscore
      subst hunderscore
      decide
    · rfl

/-- The conversion of the alphabet changes no byte. -/
theorem bufferFromBase64_url (text : List Char) :
    bufferFromBase64 (base64UrlToBase64 text) =
      Base64.bytesOf ((text.takeWhile (· != '=')).filterMap Base64.sextet) := by
  have hmap : ∀ pad : List Char, (∀ c ∈ pad, c = '=') →
      ((text.map standardDigit ++ pad).takeWhile (· != '=')).filterMap
          Base64.sextet =
        (text.takeWhile (· != '=')).filterMap Base64.sextet := by
    intro pad hpad
    induction text with
    | nil =>
        cases pad with
        | nil => rfl
        | cons c pad => simp [hpad c List.mem_cons_self]
    | cons c text ih =>
        simp only [List.map_cons, List.cons_append, List.takeWhile_cons,
          standardDigit_ne_pad]
        split
        · rw [List.filterMap_cons, List.filterMap_cons, sextet_standardDigit, ih]
        · rfl
  rw [bufferFromBase64, base64UrlToBase64]
  congr 1
  apply hmap
  intro c hc
  split at hc
  · cases hc
  · exact List.eq_of_mem_replicate hc

private theorem urlDigit_plain : Base64.alphabet.all (fun c =>
    !(List.contains ['%', '+', '&', '?', '='] (Base64.urlDigit c))) = true := by
  decide +kernel

theorem not_mem_encodeUrl {bytes : List UInt8} {c : Char}
    (hc : c ∈ ['%', '+', '&', '?', '=']) : c ∉ Base64.encodeUrl bytes := by
  rw [Base64.encodeUrl_eq, List.mem_map]
  rintro ⟨d, hd, rfl⟩
  have hplain := List.all_eq_true.mp urlDigit_plain d
    (Base64.mem_alphabet_of_mem_digits hd)
  rw [Bool.not_eq_true', List.contains_eq_mem, decide_eq_false_iff_not] at hplain
  exact hplain hc

/-- Web-safe base64 of some bytes, with or without its padding. -/
def IsWebSafe (bytes : List UInt8) (text : List Char) : Prop :=
  ∃ pad : List Char, (pad = [] ∨
    pad = Base64.paddingFor (Base64.encodeUrl bytes).length) ∧
    text = Base64.encodeUrl bytes ++ pad

section WebSafe

variable {bytes : List UInt8} {text : List Char}

theorem IsWebSafe.exists_pad (htext : IsWebSafe bytes text) :
    ∃ pad, text = Base64.encodeUrl bytes ++ pad ∧ ∀ c ∈ pad, c = '=' := by
  obtain ⟨pad, rfl | rfl, rfl⟩ := htext
  · exact ⟨[], rfl, by simp⟩
  · exact ⟨_, rfl, fun c hc => Base64.eq_pad_of_mem_paddingFor hc⟩

theorem IsWebSafe.decoded (htext : IsWebSafe bytes text) :
    bufferFromBase64 (base64UrlToBase64 text) = bytes := by
  obtain ⟨pad, rfl, hpad⟩ := htext.exists_pad
  have htake : (Base64.encodeUrl bytes ++ pad).takeWhile (· != '=') =
      Base64.encodeUrl bytes := by
    rw [List.takeWhile_append_of_pos]
    · cases pad with
      | nil => simp
      | cons c pad => simp [hpad c List.mem_cons_self]
    · intro c hc
      rw [bne_iff_ne]
      rintro rfl
      exact not_mem_encodeUrl (by simp) hc
  rw [bufferFromBase64_url, htake, Base64.bytesOf_encodeUrl]

theorem IsWebSafe.not_mem (htext : IsWebSafe bytes text) {c : Char}
    (hc : c ∈ ['%', '+', '&', '?']) : c ∉ text := by
  obtain ⟨pad, rfl, hpad⟩ := htext.exists_pad
  rw [List.mem_append]
  rintro (hdigit | hmem)
  · refine not_mem_encodeUrl ?_ hdigit
    revert hc
    simp only [List.mem_cons, List.not_mem_nil, or_false]
    rintro (rfl | rfl | rfl | rfl) <;> simp
  · rw [hpad c hmem] at hc
    revert hc
    decide

theorem IsWebSafe.ne_nil (htext : IsWebSafe bytes text) (hbytes : bytes ≠ []) :
    text ≠ [] := by
  rintro rfl
  apply hbytes
  rw [← htext.decoded]
  rfl

end WebSafe

/-! ## Reading an encoded callback -/

/-- The query of a callback: its parameters, then signature and key id. -/
def callbackQuery (encoder : Encoder) (fields : List (String × String))
    (signature : List Char) (keyId : String) : List Char :=
  encoder.encodeFields fields ++ (sigMarker ++ (signature ++
    ("&key_id=".toList ++ encoder.encode keyId)))

/-- A text without `&` hides no marker. -/
theorem infix_of_infix_append {front back marker : List Char} (hfront : '&' ∉ front)
    (hoccurs : ('&' :: marker) <:+: front ++ back) : ('&' :: marker) <:+: back := by
  induction front with
  | nil => exact hoccurs
  | cons c front ih =>
      rw [List.mem_cons, not_or] at hfront
      rw [List.cons_append, List.infix_cons_iff] at hoccurs
      rcases hoccurs with hleads | hlater
      · exact absurd (List.cons_prefix_cons.mp hleads).1 hfront.1
      · exact ih hfront.2 hlater

section Reading

variable {encoder : Encoder} {fields : List (String × String)}
variable {signature : List Char} {bytes : List UInt8} {keyId : String}

theorem not_marker_in_tail (hsignature : '&' ∉ signature) :
    ¬ sigMarker <:+: "signature=".toList ++ (signature ++
      ("&key_id=".toList ++ encoder.encode keyId)) := by
  intro hoccurs
  have hfirst := infix_of_infix_append (by decide) hoccurs
  have hsecond : sigMarker <:+:
      '&' :: ("key_id=".toList ++ encoder.encode keyId) :=
    infix_of_infix_append hsignature hfirst
  have hkey : '&' ∉ "key_id=".toList ++ encoder.encode keyId := by
    rw [List.mem_append, not_or]
    exact ⟨by decide, Encoder.not_mem_encode (by simp)⟩
  rcases List.infix_cons_iff.mp hsecond with hleads | hlater
  · have hnext := (List.cons_prefix_cons.mp hleads).2
    have hletter := (List.cons_prefix_cons.mp hnext).1
    revert hletter
    decide
  · exact hkey (hlater.subset List.mem_cons_self)

theorem splitAtLast_callbackQuery (hsignature : '&' ∉ signature) :
    splitAtLast sigMarker (callbackQuery encoder fields signature keyId) =
      some (encoder.encodeFields fields, sigMarker ++ (signature ++
        ("&key_id=".toList ++ encoder.encode keyId))) :=
  splitAtLast_append (List.prefix_append _ _) (not_marker_in_tail hsignature)

theorem searchParams_tail (htext : IsWebSafe bytes signature) :
    searchParams ("signature=".toList ++ (signature ++
        ("&key_id=".toList ++ encoder.encode keyId))) =
      [("signature", String.ofList signature), ("key_id", keyId)] := by
  have hquery : "signature=".toList ++ (signature ++
      ("&key_id=".toList ++ encoder.encode keyId)) =
        ['&'].intercalate ["signature".toList ++ '=' :: signature,
          "key_id".toList ++ '=' :: encoder.encode keyId] := by
    simp [List.intercalate]
  have hamp : '&' ∉ signature := htext.not_mem (by simp)
  have hampKey : '&' ∉ encoder.encode keyId := Encoder.not_mem_encode (by simp)
  have hquestion : '?' ∉ signature := htext.not_mem (by simp)
  have hquestionKey : '?' ∉ encoder.encode keyId := Encoder.not_mem_encode (by simp)
  rw [hquery, searchParams_intercalate]
  · simp only [List.map_cons, List.map_nil]
    rw [readPiece_append (by simp), readPiece_append (by simp),
      Encoder.formDecode_encode, @formDecode_plain "signature".toList (by simp),
      @formDecode_plain "key_id".toList (by simp), @formDecode_plain signature]
    · rfl
    · intro c hc
      constructor
      · rintro rfl
        exact htext.not_mem (by simp) hc
      · rintro rfl
        exact htext.not_mem (by simp) hc
  · intro piece hpiece
    simp only [List.mem_cons, List.not_mem_nil, or_false] at hpiece
    rcases hpiece with rfl | rfl
    · refine ⟨by simp, ?_⟩
      simp [hamp]
    · refine ⟨by simp, ?_⟩
      simp [hampKey]
  · intro hmem
    rcases mem_intercalate hmem with heq | ⟨piece, hpiece, hc⟩
    · cases heq
    · simp only [List.mem_cons, List.not_mem_nil, or_false] at hpiece
      rcases hpiece with rfl | rfl
      · simp [hquestion] at hc
      · simp [hquestionKey] at hc

/-- The callback is cut where it was put together. -/
theorem parseCallback_callbackQuery (htext : IsWebSafe bytes signature)
    (hbytes : bytes ≠ []) (hkeyId : keyId ≠ "") :
    parseCallback (callbackQuery encoder fields signature keyId) =
      .ok ⟨encoder.encodeFields fields, String.ofList signature, keyId⟩ := by
  rw [parseCallback_eq_ok]
  have hdrop : (sigMarker ++ (signature ++
      ("&key_id=".toList ++ encoder.encode keyId))).drop 1 =
        "signature=".toList ++ (signature ++
          ("&key_id=".toList ++ encoder.encode keyId)) := rfl
  refine ⟨_, splitAtLast_callbackQuery (htext.not_mem (by simp)), ?_⟩
  rw [hdrop, searchParams_tail htext]
  refine ⟨rfl, ?_, rfl, hkeyId⟩
  intro hempty
  apply htext.ne_nil hbytes
  simpa using congrArg String.toList hempty

end Reading

/-! ## The raw record -/

theorem foldl_assign (fields acc : List (String × String))
    (hnodup : ((acc ++ fields).map Prod.fst).Nodup) :
    fields.foldl assign acc =
      acc ++ fields.filter (fun field => field.1 ≠ "__proto__") := by
  induction fields generalizing acc with
  | nil => simp
  | cons field fields ih =>
      rw [List.foldl_cons, List.filter_cons]
      by_cases hproto : field.1 = "__proto__"
      · have hskip : assign acc field = acc := if_pos hproto
        rw [hskip, ih acc]
        · simp [hproto]
        · refine hnodup.sublist (List.Sublist.map _ ?_)
          exact List.Sublist.append_left (List.sublist_cons_self _ _) _
      · have hnew : acc.any (fun other => other.1 == field.1) = false := by
          rw [List.any_eq_false]
          intro other hother hsame
          rw [List.map_append, List.nodup_append] at hnodup
          exact hnodup.2.2 _ (List.mem_map_of_mem hother) _
            (List.mem_map_of_mem List.mem_cons_self) (by simpa using hsame)
        have hadd : assign acc field = acc ++ [field] := by
          rw [assign, if_neg hproto, hnew]
          rfl
        rw [hadd, ih (acc ++ [field]) (by simpa using hnodup)]
        simp [hproto]

theorem rawRecord_eq {fields : List (String × String)}
    (hnodup : (fields.map Prod.fst).Nodup) :
    rawRecord fields = fields.filter (fun field => field.1 ≠ "__proto__") :=
  foldl_assign fields [] hnodup

/-! ## What is covered -/

/-- The returned fields are read off the bytes that the signature is valid for,
under the named key. -/
def CoveredBySignature (platform : Platform) : Prop :=
  ∀ (cache next : KeyCache) (at_ : Instants) (reply : KeyServerReply)
    (query : List Char) (reward : AdMobReward),
    verify platform cache at_ reply query = (.ok reward, next) →
      ∃ content rest pem signature, query = content ++ rest ∧
        sigMarker <+: rest ∧ ¬ sigMarker <:+: rest.drop 1 ∧
        next.keys.lookup reward.keyId = some pem ∧
        platform.verifySignature pem (utf8Bytes content) signature = some true ∧
        reward = contentFields platform (utf8Bytes content) reward.keyId

theorem coveredBySignature (platform : Platform) : CoveredBySignature platform := by
  intro cache next at_ reply query reward hok
  obtain ⟨callback, pem, hparse, hkey, hverified, hread⟩ := verify_eq_ok hok
  obtain ⟨rest, hsplit, -⟩ := parseCallback_eq_ok.mp hparse
  have hreward := (readContent_eq_ok.mp hread).1
  have hkeyId : reward.keyId = callback.keyId := by
    rw [hreward]
    rfl
  obtain ⟨hquery, hmarker⟩ := splitAtLast_eq_some hsplit
  have hlast := splitAtLast_last (by decide) hsplit
  refine ⟨callback.signedContent, rest, pem, callback.signature, hquery, hmarker,
    hlast, ?_, hverified, ?_⟩
  · rw [hkeyId]
    exact hkey
  · rw [hkeyId]
    exact hreward

/-! ## What is recovered -/

/-- A fresh callback as AdMob writes one: percent-encoded parameters with
distinct names, a signature and the id of its key. -/
structure EncodedCallback where
  encoder : Encoder
  fields : List (String × String)
  bytes : List UInt8
  signature : List Char
  keyId : String
  distinct : (fields.map Prod.fst).Nodup
  customData : ∃ text, fields.lookup "custom_data" = some text ∧ text ≠ ""
  transactionId : ∃ text, fields.lookup "transaction_id" = some text ∧ text ≠ ""
  signed : bytes ≠ []
  webSafe : IsWebSafe bytes signature
  named : keyId ≠ ""

namespace EncodedCallback

def content (callback : EncodedCallback) : List Char :=
  callback.encoder.encodeFields callback.fields

/-- The URL of the callback, on a path of the server. -/
def url (callback : EncodedCallback) (path : List Char) : List Char :=
  path ++ '?' :: callbackQuery callback.encoder callback.fields callback.signature
    callback.keyId

end EncodedCallback

/-- The reward holds the parameters. -/
structure Recovers (platform : Platform) (fields : List (String × String))
    (reward : AdMobReward) : Prop where
  customData : fields.lookup "custom_data" = some reward.customData
  transactionId : fields.lookup "transaction_id" = some reward.transactionId
  adNetwork : reward.adNetwork = fields.lookup "ad_network"
  adUnit : reward.adUnit = fields.lookup "ad_unit"
  rewardItem : reward.rewardItem = fields.lookup "reward_item"
  rewardAmount : reward.rewardAmount =
    optionalNumber platform (fields.lookup "reward_amount")
  userId : reward.userId = fields.lookup "user_id"
  timestampMs : reward.timestampMs =
    optionalNumber platform (fields.lookup "timestamp")
  raw : ∀ name, reward.raw.lookup name = fields.lookup name

section Recovery

variable (platform : Platform) (cache : KeyCache) (at_ : Instants)
variable (reply : KeyServerReply) (callback : EncodedCallback)

def Fresh : Prop :=
  refusedAge at_.checked (optionalNumber platform
    (callback.fields.lookup "timestamp")) = none

/-- The named key accepts the original signature of the original content. -/
def Accepted : Prop :=
  ∃ pem, (getKey cache at_ reply callback.keyId).1 = .ok (some pem) ∧ pem ≠ "" ∧
    platform.verifySignature pem (utf8Bytes callback.content) callback.bytes =
      some true

/-- The signature that is checked is the original one, over the original
content, and the parameters come back. -/
def RoundTrips (path : List Char) : Prop :=
  ((∃ reward, (verify platform cache at_ reply
      (rawQuery (callback.url path))).1 = .ok reward) ↔
    Accepted platform cache at_ reply callback) ∧
  ∀ reward, (verify platform cache at_ reply
      (rawQuery (callback.url path))).1 = .ok reward →
    reward.keyId = callback.keyId ∧ Recovers platform callback.fields reward

end Recovery

section Recovering

variable {platform : Platform} {cache : KeyCache} {at_ : Instants}
variable {reply : KeyServerReply} {callback : EncodedCallback} {path : List Char}

theorem searchParams_content : searchParams callback.content = callback.fields :=
  Encoder.searchParams_encodeFields _

/-- A fresh content is read without a complaint. -/
theorem readContent_content (hfresh : Fresh platform at_ callback) (keyId : String) :
    readContent platform at_.checked callback.content keyId =
      .ok (contentFields platform (utf8Bytes callback.content) keyId) := by
  obtain ⟨customData, hcustom, hcustomNe⟩ := callback.customData
  obtain ⟨transactionId, htransaction, htransactionNe⟩ := callback.transactionId
  rw [readContent_eq_ok]
  simp only [contentFields, utf8DecodeReplacing_utf8Bytes, searchParams_content,
    hcustom, htransaction, Option.getD_some]
  exact ⟨trivial, hcustomNe, htransactionNe, hfresh⟩

/-- How the verifier treats an encoded callback. -/
theorem verify_url (hpath : '?' ∉ path) (hfresh : Fresh platform at_ callback)
    {reward : AdMobReward} :
    (verify platform cache at_ reply (rawQuery (callback.url path))).1 =
        .ok reward ↔
      Accepted platform cache at_ reply callback ∧
        reward = contentFields platform (utf8Bytes callback.content)
          callback.keyId := by
  have hsignature : bufferFromBase64 (base64UrlToBase64
      (String.ofList callback.signature).toList) = callback.bytes := by
    rw [String.toList_ofList]
    exact callback.webSafe.decoded
  rw [EncodedCallback.url, rawQuery_append hpath, verify,
    parseCallback_callbackQuery callback.webSafe callback.signed callback.named]
  constructor
  · intro hok
    obtain ⟨key, hkey, hwith⟩ := bind_eq_ok.mp hok
    obtain ⟨pem, rfl, hpem, hverified, hread⟩ := verifyWith_eq_ok hwith
    rw [SignedCallback.signature, hsignature] at hverified
    exact ⟨⟨pem, hkey, hpem, hverified⟩, (readContent_eq_ok.mp hread).1⟩
  · rintro ⟨⟨pem, hkey, hpem, hverified⟩, rfl⟩
    have hfilter : (some pem).filter (· ≠ "") = some pem := by simp [hpem]
    apply bind_eq_ok.mpr
    refine ⟨some pem, hkey, ?_⟩
    rw [verifyWith, hfilter]
    simp only [SignedCallback.signature, hsignature]
    rw [EncodedCallback.content] at hverified
    rw [hverified]
    exact readContent_content hfresh callback.keyId

/-- Only a parameter whose name is the prototype's is lost. -/
theorem recovers_iff :
    Recovers platform callback.fields (contentFields platform
        (utf8Bytes callback.content) callback.keyId) ↔
      ∀ field ∈ callback.fields, field.1 ≠ "__proto__" := by
  obtain ⟨customData, hcustom, -⟩ := callback.customData
  obtain ⟨transactionId, htransaction, -⟩ := callback.transactionId
  have hraw : (contentFields platform (utf8Bytes callback.content)
      callback.keyId).raw =
        callback.fields.filter (fun field => field.1 ≠ "__proto__") := by
    simp only [contentFields, utf8DecodeReplacing_utf8Bytes, searchParams_content]
    exact rawRecord_eq callback.distinct
  constructor
  · intro hrecovers field hfield hproto
    have hlookup := hrecovers.raw "__proto__"
    rw [hraw] at hlookup
    have hlost : (callback.fields.filter
        (fun field => field.1 ≠ "__proto__")).lookup "__proto__" = none := by
      rw [List.lookup_eq_none_iff]
      intro other hother
      have hname : other.1 ≠ "__proto__" := by
        simpa using (List.mem_filter.mp hother).2
      simpa using hname.symm
    rw [hlost, eq_comm, List.lookup_eq_none_iff] at hlookup
    have hname := hlookup field hfield
    rw [hproto] at hname
    simp at hname
  · intro hnames
    have hall : callback.fields.filter (fun field => field.1 ≠ "__proto__") =
        callback.fields := by
      rw [List.filter_eq_self]
      intro field hfield
      simpa using hnames field hfield
    constructor
    case raw =>
      intro name
      rw [hraw, hall]
    all_goals
      simp only [contentFields, utf8DecodeReplacing_utf8Bytes,
        searchParams_content, hcustom, htransaction, Option.getD_some]

/-- A fresh callback comes back as it was, unless an accepted one names the
prototype. -/
theorem roundTrips_iff (hpath : '?' ∉ path) (hfresh : Fresh platform at_ callback) :
    RoundTrips platform cache at_ reply callback path ↔
      (Accepted platform cache at_ reply callback →
        ∀ field ∈ callback.fields, field.1 ≠ "__proto__") := by
  constructor
  · rintro ⟨-, hrecovered⟩ haccepted
    have hok := (@verify_url _ cache _ reply _ _ hpath hfresh _).mpr ⟨haccepted, rfl⟩
    exact recovers_iff.mp (hrecovered _ hok).2
  · intro hnames
    refine ⟨?_, ?_⟩
    · constructor
      · rintro ⟨reward, hok⟩
        exact ((verify_url hpath hfresh).mp hok).1
      · intro haccepted
        exact ⟨_, (verify_url hpath hfresh).mpr ⟨haccepted, rfl⟩⟩
    · intro reward hok
      obtain ⟨haccepted, rfl⟩ := (verify_url hpath hfresh).mp hok
      exact ⟨rfl, recovers_iff.mpr (hnames haccepted)⟩

end Recovering

/-- What the verifier trusts is covered by the signature, and a fresh callback
comes back exactly if it is not both accepted and naming the prototype. -/
theorem covered_and_recovered_iff (platform : Platform) (cache : KeyCache)
    (at_ : Instants) (reply : KeyServerReply) (callback : EncodedCallback)
    (path : List Char) (hpath : '?' ∉ path) (hfresh : Fresh platform at_ callback) :
    (CoveredBySignature platform ∧
      RoundTrips platform cache at_ reply callback path) ↔
    (Accepted platform cache at_ reply callback →
      ∀ field ∈ callback.fields, field.1 ≠ "__proto__") := by
  rw [roundTrips_iff hpath hfresh]
  exact and_iff_right (coveredBySignature platform)

/-! ## Two callbacks -/

/-- One key, one signature that it accepts. -/
def oneSignature : Platform where
  verifySignature _ _ signature := some (signature == [0x30, 0xFB])
  number _ := .notFinite

def oneKey : KeyCache := { keys := [("3335741209", "pem")] }

theorem signed_sample : ([0x30, 0xFB] : List UInt8) ≠ [] := by decide

theorem webSafe_sample : IsWebSafe [0x30, 0xFB] (Base64.encodeUrl [0x30, 0xFB]) :=
  ⟨[], Or.inl rfl, (List.append_nil _).symm⟩

theorem named_sample : "3335741209" ≠ "" := by decide

/-- A callback with one more parameter. -/
def callbackWith (name : String) (hname : name ∉ ["custom_data", "transaction_id"]) :
    EncodedCallback where
  encoder := componentEncoder
  fields := [("custom_data", "a&signature=b"), ("transaction_id", "t1"), (name, "x")]
  bytes := [0x30, 0xFB]
  signature := Base64.encodeUrl [0x30, 0xFB]
  keyId := "3335741209"
  distinct := by
    simp only [List.mem_cons, List.not_mem_nil, or_false, not_or] at hname
    simp [Ne.symm hname.1, Ne.symm hname.2]
  customData := ⟨"a&signature=b", rfl, by decide⟩
  transactionId := ⟨"t1", rfl, by decide⟩
  signed := signed_sample
  webSafe := webSafe_sample
  named := named_sample

theorem callbackWith_fresh {name : String}
    {hname : name ∉ ["custom_data", "transaction_id"]} (htimestamp : name ≠ "timestamp") :
    Fresh oneSignature ⟨0, 0, 0⟩ (callbackWith name hname) := by
  have hlookup : (callbackWith name hname).fields.lookup "timestamp" = none := by
    rw [List.lookup_eq_none_iff]
    simp [callbackWith, Ne.symm htimestamp]
  rw [Fresh, hlookup]
  rfl

theorem callbackWith_accepted {name : String}
    {hname : name ∉ ["custom_data", "transaction_id"]} :
    Accepted oneSignature oneKey ⟨0, 0, 0⟩ (.failed "timeout")
      (callbackWith name hname) :=
  ⟨"pem", rfl, by decide, rfl⟩

/-- The plain record that holds the parameters loses one. -/
theorem prototype_parameter_lost :
    ¬ ∀ (platform : Platform) (cache : KeyCache) (at_ : Instants)
      (reply : KeyServerReply) (callback : EncodedCallback) (path : List Char),
      '?' ∉ path → Fresh platform at_ callback →
        CoveredBySignature platform ∧
          RoundTrips platform cache at_ reply callback path := by
  intro hclaim
  have hfresh : Fresh oneSignature ⟨0, 0, 0⟩ (callbackWith "__proto__" (by decide)) :=
    callbackWith_fresh (by decide)
  have hround := (hclaim oneSignature oneKey ⟨0, 0, 0⟩ (.failed "timeout") _
    "/api/v1/ads/admob/ssv".toList (by decide) hfresh).2
  exact (roundTrips_iff (by decide) hfresh).mp hround callbackWith_accepted
    ("__proto__", "x") (by decide) rfl

/-- A marker inside `custom_data` does no harm. -/
theorem covered_and_recovered_iff_marker :
    CoveredBySignature oneSignature ∧
      RoundTrips oneSignature oneKey ⟨0, 0, 0⟩ (.failed "timeout")
        (callbackWith "ad_unit" (by decide)) "/api/v1/ads/admob/ssv".toList :=
  (covered_and_recovered_iff oneSignature oneKey ⟨0, 0, 0⟩ (.failed "timeout")
    (callbackWith "ad_unit" (by decide)) "/api/v1/ads/admob/ssv".toList (by decide)
    (callbackWith_fresh (by decide))).mpr (fun _ => by decide)

end VpnMiddleware.SignedCallbacks
