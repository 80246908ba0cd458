import VpnMiddleware.Admin.AdminService
import VpnMiddleware.Core.InetText

/-!
# The address in an audit row

`normalizeIp` strips an IPv4-mapped prefix and turns nothing into null; what is
left goes to an `inet` column, in the transaction of a ban, a panic or an
evacuation.  `inetAccepts` is what the column's type reads.
-/

namespace VpnMiddleware.AuditIp

open VpnMiddleware.Schema VpnMiddleware.Errors VpnMiddleware.Environment
open VpnMiddleware.Database VpnMiddleware.Transaction VpnMiddleware.Table
open VpnMiddleware.AdminService VpnMiddleware.InetText

/-- The addresses whose audit row can be written: none, a bare mark of a mapped
address, and an `inet` literal with or without that mark. -/
inductive IsRecordable (inetAccepts : String → Bool) : Option String → Prop
  | missing : IsRecordable inetAccepts none
  | empty : IsRecordable inetAccepts (some "")
  | bareMark : IsRecordable inetAccepts (some "::ffff:")
  | mapped {rest : String} (hrest : inetAccepts rest = true) :
      IsRecordable inetAccepts (some ("::ffff:" ++ rest))
  | plain {text : String} (hunmarked : ¬ "::ffff:".toList <+: text.toList)
      (htext : inetAccepts text = true) : IsRecordable inetAccepts (some text)

/-! ## The transactions that carry their audit row -/

inductive AuditedAction
  | ban (userId : ℕ) (changes : UserChanges)
  | panic
  | forceMigrate (nodeId : ℕ)
  deriving DecidableEq, Repr

def perform (cfg : Config) (now : ℕ) (actor : AdminActor) :
    AuditedAction → Query ℕ
  | .ban userId changes =>
      mutateUser cfg now userId { changes with isBanned := some true } actor
  | .panic => panicRevokeFreeSessions cfg now actor
  | .forceMigrate nodeId => forceMigrateNode cfg now nodeId actor

/-- The transaction commits on this database. -/
def Commits {Result : Type} (query : Query Result) (db : Db) : Prop :=
  ∃ result after, query db = .ok (result, after)

/-- What the audit row gets is null or a literal of the column's type, and no
action that commits without an address is rolled back with this one. -/
structure IsHarmless (cfg : Config) (ip : Option String) : Prop where
  value : ∀ text, normalizeIp ip = some text → cfg.inetAccepts text = true
  commits : ∀ now action adminId db,
    Commits (perform cfg now ⟨adminId, none⟩ action) db →
      Commits (perform cfg now ⟨adminId, ip⟩ action) db

/-! ## The value of the row -/

section Value

variable {inetAccepts : String → Bool} {text : String}

theorem normalizeIp_marked (rest : String) :
    normalizeIp (some ("::ffff:" ++ rest)) =
      if rest = "" then none else some rest := by
  have hmarked : "::ffff:".toList.isPrefixOf ("::ffff:" ++ rest).toList = true := by
    rw [List.isPrefixOf_iff_prefix, String.toList_append]
    exact List.prefix_append _ _
  have hrest : String.ofList (("::ffff:" ++ rest).toList.drop 7) = rest := by
    rw [String.toList_append, List.drop_append_of_le_length (by decide)]
    simp
  simp only [normalizeIp, hmarked, if_true, hrest]

theorem normalizeIp_unmarked (hunmarked : ¬ "::ffff:".toList <+: text.toList) :
    normalizeIp (some text) = if text = "" then none else some text := by
  rw [← List.isPrefixOf_iff_prefix, Bool.not_eq_true] at hunmarked
  simp only [normalizeIp, hunmarked, Bool.false_eq_true, if_false]

theorem recordable_iff (ip : Option String) :
    (∀ text, normalizeIp ip = some text → inetAccepts text = true) ↔
      IsRecordable inetAccepts ip := by
  constructor
  · intro hvalue
    cases ip with
    | none => exact .missing
    | some text =>
        by_cases hmarked : "::ffff:".toList <+: text.toList
        · obtain ⟨rest, hrest⟩ := hmarked
          obtain rfl : text = "::ffff:" ++ String.ofList rest := by
            rw [← String.toList_inj, ← hrest, String.toList_append]
            simp
          by_cases hempty : String.ofList rest = ""
          · rw [hempty]
            exact .bareMark
          · apply IsRecordable.mapped
            exact hvalue _ (by rw [normalizeIp_marked, if_neg hempty])
        · by_cases hempty : text = ""
          · rw [hempty]
            exact .empty
          · apply IsRecordable.plain hmarked
            exact hvalue _ (by rw [normalizeIp_unmarked hmarked, if_neg hempty])
  · intro hrecordable text hvalue
    cases hrecordable with
    | missing => cases hvalue
    | empty =>
        have hnull : normalizeIp (some "") = none := by decide
        rw [hnull] at hvalue
        cases hvalue
    | bareMark =>
        have hnull : normalizeIp (some "::ffff:") = none := by decide
        rw [hnull] at hvalue
        cases hvalue
    | mapped hrest =>
        rw [normalizeIp_marked] at hvalue
        split_ifs at hvalue
        rw [← Option.some.inj hvalue]
        exact hrest
    | plain hunmarked htext =>
        rw [normalizeIp_unmarked hunmarked] at hvalue
        split_ifs at hvalue
        rw [← Option.some.inj hvalue]
        exact htext

end Value

/-! ## The outcome of the transactions -/

section Transactions

variable {cfg : Config} {now : ℕ} {ip adminIp : Option String}
variable {adminId : Option ℕ} {db : Db}

/-- A row that is written without an address is written with a recordable
one, and the rest of the database does not see which. -/
theorem recordInTx_commits {actionType : AdminActionType} {targetId : Option ℕ}
    {details : ℕ} {after : Db}
    (hvalue : (normalizeIp ip).all cfg.inetAccepts = true)
    (hok : recordInTx cfg now ⟨adminId, none⟩ actionType targetId details db =
      .ok ((), after)) :
    Commits (recordInTx cfg now ⟨adminId, ip⟩ actionType targetId details) db := by
  simp only [recordInTx, bind_ok, get_ok, require_ok, modify_ok] at hok
  obtain ⟨_, _, ⟨rfl, rfl⟩, _, _, ⟨-, rfl⟩, _, _, ⟨hadmin, rfl⟩, rfl⟩ := hok
  refine ⟨(), { db with auditLogs := db.auditLogs ++ [⟨adminId, actionType,
    targetId, details, normalizeIp ip, now⟩] }, ?_⟩
  simp only [recordInTx, bind_ok, get_ok, require_ok, modify_ok]
  exact ⟨_, _, ⟨rfl, rfl⟩, (), _, ⟨hvalue, rfl⟩, (), _, ⟨hadmin, rfl⟩, rfl⟩

/-- The tier part of `mutateUser` never throws. -/
theorem applyTier_commits (userId : ℕ) (changes : UserChanges) (db : Db) :
    Commits (applyTier cfg now userId changes) db := by
  rw [Commits, applyTier]
  cases changes.tier with
  | none => exact ⟨(), db, rfl⟩
  | some tier =>
      cases tier with
      | free => exact ⟨(), _, rfl⟩
      | premium =>
          -- the plan is looked up after it was inserted if it was missing
          have hplan : ∃ plan, (if db.plans.any (·.code == adminGrantCode) then db
              else { db with plans := db.plans ++
                [{ id := changes.newPlanId, code := adminGrantCode,
                   tier := .premium, maxDevices := 5,
                   maxConcurrentSessions := 3 }] }).plans.find?
                (·.code == adminGrantCode) = some plan := by
            rw [← Option.isSome_iff_exists, List.find?_isSome]
            split_ifs with hany
            · simpa using hany
            · exact ⟨_, List.mem_append_right _ (List.mem_singleton.mpr rfl),
                beq_self_eq_true _⟩
          obtain ⟨plan, hplan⟩ := hplan
          simp only [grantInternalPremium, bind_ok, get_ok, expect_ok, modify_ok]
          exact ⟨(), _, (), _, rfl, _, _, ⟨rfl, rfl⟩, plan, _, ⟨hplan, rfl⟩, rfl⟩

theorem perform_commits (hvalue : (normalizeIp ip).all cfg.inetAccepts = true)
    (action : AuditedAction)
    (hcommits : Commits (perform cfg now ⟨adminId, none⟩ action) db) :
    Commits (perform cfg now ⟨adminId, ip⟩ action) db := by
  obtain ⟨count, after, hok⟩ := hcommits
  cases action with
  | ban userId changes =>
      simp only [perform, mutateUser, applyBan, bind_ok, get_ok, require_ok,
        pure_ok] at hok
      obtain ⟨_, _, ⟨rfl, rfl⟩, _, _, ⟨huser, rfl⟩, _, _, ⟨_, flagged, hflagged,
        revoked, closed, hrevoke, _, _, haudit, rfl, rfl⟩, -⟩ := hok
      obtain ⟨_, audited, haudit⟩ := recordInTx_commits hvalue haudit
      obtain ⟨_, last, htier⟩ := @applyTier_commits cfg now userId
        { changes with isBanned := some true } audited
      refine ⟨revoked, last, ?_⟩
      simp only [perform, mutateUser, applyBan, bind_ok, get_ok, require_ok,
        pure_ok]
      exact ⟨_, _, ⟨rfl, rfl⟩, (), _, ⟨huser, rfl⟩, revoked, audited, ⟨(), flagged,
        hflagged, revoked, closed, hrevoke, (), audited, haudit, rfl, rfl⟩, (),
        last, htier, rfl, rfl⟩
  | panic =>
      simp only [perform, panicRevokeFreeSessions, bind_ok, pure_ok] at hok
      obtain ⟨revoked, closed, hrevoke, _, _, haudit, -, -⟩ := hok
      obtain ⟨_, audited, haudit⟩ := recordInTx_commits hvalue haudit
      refine ⟨revoked, audited, ?_⟩
      simp only [perform, panicRevokeFreeSessions, bind_ok, pure_ok]
      exact ⟨revoked, closed, hrevoke, (), audited, haudit, rfl, rfl⟩
  | forceMigrate nodeId =>
      simp only [perform, forceMigrateNode, bind_ok, get_ok, require_ok,
        pure_ok] at hok
      obtain ⟨_, _, ⟨rfl, rfl⟩, _, _, ⟨hnode, rfl⟩, _, drained, hdrain, evicted,
        closed, hrevoke, _, _, haudit, -, -⟩ := hok
      obtain ⟨_, audited, haudit⟩ := recordInTx_commits hvalue haudit
      refine ⟨evicted, audited, ?_⟩
      simp only [perform, forceMigrateNode, bind_ok, get_ok, require_ok, pure_ok]
      exact ⟨_, _, ⟨rfl, rfl⟩, (), _, ⟨hnode, rfl⟩, (), drained, hdrain, evicted,
        closed, hrevoke, (), audited, haudit, rfl, rfl⟩

end Transactions

section Law

variable {cfg : Config} {ip : Option String}

theorem all_of_recordable (hrecordable : IsRecordable cfg.inetAccepts ip) :
    (normalizeIp ip).all cfg.inetAccepts = true := by
  have hvalue := (recordable_iff ip).mpr hrecordable
  cases hnormal : normalizeIp ip with
  | none => rfl
  | some text => exact hvalue text hnormal

/-- The address decides nothing exactly if its row can be written. -/
theorem isHarmless_iff (cfg : Config) (ip : Option String) :
    IsHarmless cfg ip ↔ IsRecordable cfg.inetAccepts ip := by
  constructor
  · exact fun hharmless => (recordable_iff ip).mp hharmless.value
  · intro hrecordable
    exact ⟨(recordable_iff ip).mpr hrecordable, fun now action adminId db =>
      perform_commits (all_of_recordable hrecordable) action⟩

theorem recordable_of_recordInTx {now : ℕ} {adminId : Option ℕ}
    {actionType : AdminActionType} {targetId : Option ℕ} {details : ℕ}
    {db after : Db} {done : Unit}
    (hok : recordInTx cfg now ⟨adminId, ip⟩ actionType targetId details db =
      .ok (done, after)) : IsRecordable cfg.inetAccepts ip := by
  simp only [recordInTx, bind_ok, get_ok, require_ok, modify_ok] at hok
  obtain ⟨_, _, ⟨rfl, rfl⟩, _, _, ⟨hvalue, -⟩, -⟩ := hok
  apply (recordable_iff ip).mp
  intro text htext
  simpa [htext] using hvalue

/-- With any other address, every ban, panic and evacuation is rolled back. -/
theorem recordable_of_commits {now : ℕ} {adminId : Option ℕ}
    {action : AuditedAction} {db : Db}
    (hcommits : Commits (perform cfg now ⟨adminId, ip⟩ action) db) :
    IsRecordable cfg.inetAccepts ip := by
  obtain ⟨count, after, hok⟩ := hcommits
  cases action with
  | ban userId changes =>
      simp only [perform, mutateUser, applyBan, bind_ok, get_ok, require_ok,
        pure_ok] at hok
      obtain ⟨_, _, -, _, _, -, _, _, ⟨_, _, -, _, _, -, _, _, haudit, -⟩, -⟩ :=
        hok
      exact recordable_of_recordInTx haudit
  | panic =>
      simp only [perform, panicRevokeFreeSessions, bind_ok, pure_ok] at hok
      obtain ⟨_, _, -, _, _, haudit, -⟩ := hok
      exact recordable_of_recordInTx haudit
  | forceMigrate nodeId =>
      simp only [perform, forceMigrateNode, bind_ok, get_ok, require_ok,
        pure_ok] at hok
      obtain ⟨_, _, -, _, _, -, _, _, -, _, _, -, _, _, haudit, -⟩ := hok
      exact recordable_of_recordInTx haudit

end Law

/-! ## Kinds of addresses -/

/-- A deployment whose column reads addresses with an optional netmask. -/
def inetConfig : Config where
  inetAccepts text := isInet text.toList

section Kinds

variable {text : String}

/-- A zone, a name or any other token with a character that no address has. -/
theorem not_recordable_of_char {c : Char} (hc : c ∈ text.toList)
    (hchar : isInetChar c = false) :
    ¬ IsRecordable inetConfig.inetAccepts (some text) := by
  have hmark : ∀ d ∈ "::ffff:".toList, isInetChar d = true :=
    List.all_eq_true.mp (by decide +kernel)
  intro hrecordable
  cases hrecordable with
  | empty => simp at hc
  | bareMark =>
      rw [hmark c hc] at hchar
      cases hchar
  | mapped hrest =>
      rw [String.toList_append, List.mem_append] at hc
      cases hc with
      | inl hin =>
          rw [hmark c hin] at hchar
          cases hchar
      | inr hin =>
          rw [isInetChar_of_isInet hrest hin] at hchar
          cases hchar
  | plain _ htext =>
      rw [isInetChar_of_isInet htext hc] at hchar
      cases hchar

/-- An IPv4 address and a port. -/
theorem not_recordable_of_port {address port : List Char}
    (haddress : isIPv4 address = true) (hport : ∀ c ∈ port, c.isDigit = true) :
    ¬ IsRecordable inetConfig.inetAccepts
      (some (String.ofList (address ++ ':' :: port))) := by
  have hunmarked : ¬ "::ffff:".toList <+: address ++ ':' :: port := by
    intro hmarked
    cases address with
    | nil => simpa using dot_mem_of_isIPv4 haddress
    | cons c rest =>
        obtain rfl : ':' = c := (List.cons_prefix_cons.mp hmarked).1
        have hchar := chars_of_isIPv4 haddress List.mem_cons_self
        simp [isHexDigit] at hchar
  have hchars : (String.ofList (address ++ ':' :: port)).toList =
      address ++ ':' :: port := String.toList_ofList
  intro hrecordable
  have haccepted : isInet (String.ofList (address ++ ':' :: port)).toList = true := by
    apply (recordable_iff _).mpr hrecordable
    rw [← hchars] at hunmarked
    rw [normalizeIp_unmarked hunmarked, if_neg (by simp)]
  rw [hchars, not_isInet_of_port haddress hport] at haccepted
  cases haccepted

end Kinds

/-- A load balancer that appends the client's port. -/
theorem address_with_port_rolls_back :
    ¬ IsHarmless inetConfig (some "203.0.113.7:8080") := by
  intro hharmless
  have haccepted := hharmless.value "203.0.113.7:8080" (by decide +kernel)
  exact absurd haccepted (by decide +kernel)

end VpnMiddleware.AuditIp
