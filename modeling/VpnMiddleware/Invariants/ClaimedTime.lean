import VpnMiddleware.Invariants.Keys
import VpnMiddleware.System.VerifyCall

/-!
# The time that a claim adds

A claim moves the expiry of its session from the later of now and the old
expiry by the minutes of its grant, up to the ceiling on the session's
lifetime.  What it does is computed once, for every grant that may be claimed;
the answer to the client is compared with it.
-/

namespace VpnMiddleware.ClaimedTime

open VpnMiddleware.Schema VpnMiddleware.Errors VpnMiddleware.Environment
open VpnMiddleware.Database VpnMiddleware.Transaction VpnMiddleware.Table
open VpnMiddleware.TransitionSystem VpnMiddleware.Shared
open VpnMiddleware.Middleware VpnMiddleware.Evolution VpnMiddleware.Keys
open VpnMiddleware.AdsService VpnMiddleware.IdealPanel
open VpnMiddleware.VerifyFlow VpnMiddleware.VerifyCall

variable {cfg : Config} {now userId : ℕ} {db : Db} {grant : Grant}
variable {session : Session} {world : World}

/-- From where a claim counts its minutes. -/
def base (now : ℕ) (session : Session) : ℕ := max now session.expiresAt

/-- The ceiling on a session's lifetime. -/
def cap (cfg : Config) (session : Session) : ℕ :=
  session.createdAt + cfg.maxSessionMin * 60000

theorem extendedExpiry_eq (minutes : ℕ) :
    extendedExpiry cfg now minutes session =
      min (base now session + minutes * 60000) (cap cfg session) := by
  simp only [extendedExpiry, base, cap]
  split_ifs with hover
  · exact (Nat.min_eq_right hover.le).symm
  · exact (Nat.min_eq_left (Nat.le_of_not_gt hover)).symm

theorem isAtCap_iff :
    isAtCap cfg now session = true ↔ cap cfg session ≤ base now session := by
  simp [isAtCap, base, cap]

/-- A grant that its owner may claim now for this session. -/
structure Claimable (now userId : ℕ) (db : Db) (grant : Grant)
    (session : Session) : Prop where
  grant_mem : grant ∈ db.grants
  session_mem : session ∈ db.sessions
  owner : grant.userId = userId
  unconsumed : grant.status ≠ .consumed
  in_window : grant.status ≠ .expired ∧ now < grant.expiresAt
  verified : grant.requiredAds ≤ grant.verifiedAds
  bound : ∀ sessionId, grant.sessionId = some sessionId → sessionId = session.id
  session_owner : session.userId = userId
  live : session.status.isLive = true

/-- Grants and sessions have distinct ids. -/
structure PrimaryKeys (db : Db) : Prop where
  grants : (db.grants.map Grant.id).Nodup
  sessions : (db.sessions.map Session.id).Nodup

/-! ## The transaction of a claim -/

/-- The checks of the grant pass. -/
theorem verifyTransaction_of_claimable (hkeys : PrimaryKeys db)
    (hclaim : Claimable now userId db grant session) :
    verifyTransaction cfg now userId grant.id session.id db =
      claimGrant cfg now userId session.id grant db := by
  have hbound : grant.sessionId.all (· == session.id) = true := by
    cases hsession : grant.sessionId with
    | none => rfl
    | some sessionId => simpa using hclaim.bound sessionId hsession
  have howner : (grant.userId == userId) = true := by simpa using hclaim.owner
  have hwindow : ¬ (grant.status = .expired ∨ grant.expiresAt ≤ now) := by
    rintro (hexpired | hlapsed)
    · exact hclaim.in_window.1 hexpired
    · exact absurd hclaim.in_window.2 (Nat.not_lt.mpr hlapsed)
  simp only [verifyTransaction, run_get_bind,
    find?_of_mem hkeys.grants hclaim.grant_mem, run_expect_bind, howner, hbound,
    run_require_bind, if_neg hclaim.unconsumed, if_neg hwindow]

section Claims

variable (hkeys : PrimaryKeys db)
variable (hclaim : Claimable now userId db grant session)
include hkeys hclaim

/-- A claim with time at the ceiling is refused. -/
theorem verifyTransaction_at_cap (hpos : 0 < grant.grantMinutes)
    (hcap : cap cfg session ≤ base now session) :
    verifyTransaction cfg now userId grant.id session.id db =
      .error (.conflict "session lifetime cap reached; cannot extend further") := by
  have howner : (session.userId == userId) = true := by
    simpa using hclaim.session_owner
  rw [verifyTransaction_of_claimable hkeys hclaim]
  simp only [claimGrant, decide_eq_true hclaim.verified, run_require_bind,
    run_get_bind, find?_of_mem hkeys.sessions hclaim.session_mem,
    run_expect_bind, howner, hclaim.live, isAtCap_iff.mpr hcap,
    decide_eq_true hpos, Bool.and_self, Bool.not_true, run_refused_bind]

/-- A claim with time below the ceiling commits. -/
theorem verifyTransaction_below_cap (hpos : 0 < grant.grantMinutes)
    (hcap : base now session < cap cfg session) :
    verifyTransaction cfg now userId grant.id session.id db =
      .ok (.extend session.id session.panelUsername
        (extendedExpiry cfg now grant.grantMinutes session) grant.grantMinutes
          (some (db.panelOps.length + 1)),
        withExtension now grant.id session
          (extendedExpiry cfg now grant.grantMinutes session) db) := by
  have howner : (session.userId == userId) = true := by
    simpa using hclaim.session_owner
  have hbelow : isAtCap cfg now session = false := by
    rw [Bool.eq_false_iff]
    exact fun hat => absurd (isAtCap_iff.mp hat) (Nat.not_le.mpr hcap)
  rw [verifyTransaction_of_claimable hkeys hclaim]
  simp only [claimGrant, decide_eq_true hclaim.verified, run_require_bind,
    run_get_bind, find?_of_mem hkeys.sessions hclaim.session_mem,
    run_expect_bind, howner, hclaim.live, hbelow, Bool.and_false,
    Bool.not_false, updateGrant, updateSessions, run_modify_bind, if_pos hpos]
  rfl

/-- A claim without time commits, whatever the ceiling. -/
theorem verifyTransaction_without_time (hzero : grant.grantMinutes = 0) :
    verifyTransaction cfg now userId grant.id session.id db =
      .ok (.extend session.id session.panelUsername
        (extendedExpiry cfg now 0 session) 0 none,
        withConsumed now grant.id session.id db) := by
  have howner : (session.userId == userId) = true := by
    simpa using hclaim.session_owner
  rw [verifyTransaction_of_claimable hkeys hclaim]
  simp only [claimGrant, decide_eq_true hclaim.verified, run_require_bind,
    run_get_bind, find?_of_mem hkeys.sessions hclaim.session_mem,
    run_expect_bind, howner, hclaim.live, hzero, Nat.lt_irrefl,
    decide_false, Bool.false_and, Bool.not_false, updateGrant, run_modify_bind,
    if_false]
  rfl

end Claims

/-! ## One call -/

def sessionRow (id : ℕ) (db : Db) : Option Session :=
  db.sessions.find? fun row => row.id == id

def grantRow (id : ℕ) (db : Db) : Option Grant :=
  db.grants.find? fun row => row.id == id

/-- The expiry that a claim gives the session. -/
def claimedExpiry (cfg : Config) (now : ℕ) (grant : Grant)
    (session : Session) : ℕ :=
  min (base now session + grant.grantMinutes * 60000) (cap cfg session)

/-- What the claim of a grant with time commits. -/
structure Extends (cfg : Config) (now : ℕ) (grant : Grant) (session : Session)
    (after : Db) : Prop where
  extended : ∃ row, sessionRow session.id after = some row ∧
    row.expiresAt = claimedExpiry cfg now grant session ∧
    row.extensionsCount = session.extensionsCount + 1
  consumed : ∃ row, grantRow grant.id after = some row ∧ row.status = .consumed
  later : session.expiresAt < claimedExpiry cfg now grant session
  within : claimedExpiry cfg now grant session ≤ cap cfg session

/-- A claim with time succeeds exactly below the ceiling; it adds its minutes
up to the ceiling or leaves everything as it was. -/
structure ExtensionLaw (cfg : Config) (world : World) (grant : Grant)
    (session : Session) (input : VerifyInput) : Prop where
  succeeds_iff : ∀ replies worlds, StatementsSucceed replies →
    ((∃ result, answer cfg replies worlds input world = some (.ok result)) ↔
      base world.clock session < cap cfg session)
  commits : base world.clock session < cap cfg session →
    Extends cfg world.clock grant session (committed cfg input world)
  rejects : cap cfg session ≤ base world.clock session →
    (∀ replies worlds, answer cfg replies worlds input world = some (.error
      (.conflict "session lifetime cap reached; cannot extend further"))) ∧
    committed cfg input world = world.db

theorem extends_withExtension (hkeys : PrimaryKeys db)
    (hgrant : grant ∈ db.grants) (hsession : session ∈ db.sessions)
    (hpos : 0 < grant.grantMinutes)
    (hcap : base now session < cap cfg session) :
    Extends cfg now grant session (withExtension now grant.id session
      (extendedExpiry cfg now grant.grantMinutes session) db) where
  extended := by
    refine ⟨extendRow grant.id
      (extendedExpiry cfg now grant.grantMinutes session) session, ?_,
      extendedExpiry_eq _, rfl⟩
    have hfound := find?_of_mem hkeys.sessions hsession
    rw [sessionRow, withExtension]
    exact (find?_updateWhere (fun _ => by rfl) _).trans (by rw [hfound]; rfl)
  consumed := by
    refine ⟨consume now session.id grant, ?_, rfl⟩
    have hfound := find?_of_mem hkeys.grants hgrant
    rw [grantRow, withExtension, withConsumed]
    exact (find?_updateWhere (fun _ => by rfl) _).trans (by rw [hfound]; rfl)
  later := by
    have hbase : session.expiresAt ≤ base now session := Nat.le_max_right _ _
    rw [claimedExpiry, lt_min_iff]
    omega
  within := Nat.min_le_right _ _

theorem extensionLaw (hkeys : PrimaryKeys world.db)
    (hclaim : Claimable world.clock userId world.db grant session)
    (hpos : 0 < grant.grantMinutes) :
    ExtensionLaw cfg world grant session ⟨userId, grant.id, session.id⟩ where
  succeeds_iff := by
    intro replies worlds hstatements
    constructor
    · rintro ⟨result, hanswer⟩
      by_contra hcap
      have hthrow := verifyTransaction_at_cap hkeys hclaim hpos
        (Nat.le_of_not_lt hcap)
      have herror := (@start_of_error cfg replies worlds
        ⟨userId, grant.id, session.id⟩ world _ hthrow).1
      rw [herror] at hanswer
      cases hanswer
    · intro hcap
      have hrun := verifyTransaction_below_cap hkeys hclaim hpos hcap
      rw [@answer_of_extend cfg replies worlds
        ⟨userId, grant.id, session.id⟩ world _ _ _ _ _ _ hrun]
      exact exists_answer_push hstatements
  commits := by
    intro hcap
    have hrun := verifyTransaction_below_cap hkeys hclaim hpos hcap
    rw [@committed_of_ok cfg ⟨userId, grant.id, session.id⟩ world _ _ hrun]
    exact extends_withExtension hkeys hclaim.grant_mem hclaim.session_mem hpos
      hcap
  rejects := by
    intro hcap
    have hthrow := verifyTransaction_at_cap hkeys hclaim hpos hcap
    constructor
    · intro replies worlds
      exact (@start_of_error cfg replies worlds
        ⟨userId, grant.id, session.id⟩ world _ hthrow).1
    · exact (@start_of_error cfg (fun _ => .ok) (fun _ => world)
        ⟨userId, grant.id, session.id⟩ world _ hthrow).2

/-! ## Over a run -/

section Runs

variable {s s' : State} {act : Action} {after : Db}

/-- An expiry moves forward, and a claim moves it to the ceiling at most. -/
theorem expiry_of_change {row row' : Session}
    (hchange : SessionChange cfg s act after row row') :
    row.expiresAt ≤ row'.expiresAt ∧
      row'.expiresAt ≤ max row.expiresAt (cap cfg row) := by
  cases hchange with
  | extended _ hclaimed hpos hexpiry _ =>
      have hbelow : base s.world.clock row < cap cfg row := by
        have hat := hclaimed.below_cap hpos
        by_contra hcap
        rw [isAtCap_iff.mpr (Nat.le_of_not_lt hcap)] at hat
        cases hat
      have hbase : row.expiresAt ≤ base s.world.clock row :=
        Nat.le_max_right _ _
      rw [extendedExpiry_eq] at hexpiry
      simp only [extendRow, hexpiry]
      omega
  | _ => exact ⟨Nat.le_refl _, Nat.le_max_left _ _⟩

/-- How far a session has come since the start of a run. -/
structure MovedOn (cfg : Config) (row row' : Session) : Prop where
  id : row'.id = row.id
  createdAt : row'.createdAt = row.createdAt
  later : row.expiresAt ≤ row'.expiresAt
  bounded : row'.expiresAt ≤ max row.expiresAt (cap cfg row)

theorem MovedOn.refl (row : Session) : MovedOn cfg row row :=
  ⟨rfl, rfl, Nat.le_refl _, Nat.le_max_left _ _⟩

theorem MovedOn.step {row mid next : Session} (hmoved : MovedOn cfg row mid)
    (hchange : SessionChange cfg s act after mid next) :
    MovedOn cfg row next := by
  have hidentity := SessionChange.identity hchange
  obtain ⟨hlater, hbounded⟩ := expiry_of_change hchange
  have hcap : cap cfg mid = cap cfg row := by
    rw [cap, cap, hmoved.createdAt]
  have hbefore := hmoved.bounded
  refine ⟨hidentity.id.trans hmoved.id,
    hidentity.createdAt.trans hmoved.createdAt,
    hmoved.later.trans hlater, ?_⟩
  rw [hcap] at hbounded
  omega

theorem movedOn_run {start last : State} {trace : List (State × Action)}
    (hkeyed : Keyed start.world.db)
    (hrun : Run (middleware cfg) start trace last) :
    Keyed last.world.db ∧ ∀ row ∈ start.world.db.sessions,
      ∃ row' ∈ last.world.db.sessions, MovedOn cfg row row' := by
  apply hrun.invariant
  · exact ⟨hkeyed, fun row hrow => ⟨row, hrow, .refl row⟩⟩
  · rintro state act next ⟨hkeyed, hmoved⟩ hstep
    refine ⟨keyed_step hkeyed hstep, fun row hrow => ?_⟩
    obtain ⟨mid, hmid, hbefore⟩ := hmoved row hrow
    obtain ⟨after, hafter, -, hchange⟩ := exists_sessionChange hkeyed hstep hmid
    exact ⟨after, hafter, hbefore.step hchange⟩

end Runs

/-- Every claim with time follows the law, and over any run an expiry never
falls back and never passes the later of its first value and the ceiling. -/
theorem extension_arithmetic (cfg : Config) :
    (∀ (world : World) (userId : ℕ) (grant : Grant) (session : Session),
      PrimaryKeys world.db →
      Claimable world.clock userId world.db grant session →
      0 < grant.grantMinutes →
      ExtensionLaw cfg world grant session ⟨userId, grant.id, session.id⟩) ∧
    ∀ (start last : State) (trace : List (State × Action)),
      Keyed start.world.db → Run (middleware cfg) start trace last →
      ∀ row ∈ start.world.db.sessions,
        ∃ row' ∈ last.world.db.sessions, MovedOn cfg row row' :=
  ⟨fun _ _ _ _ hkeys hclaim hpos => extensionLaw hkeys hclaim hpos,
    fun _ _ _ hkeyed hrun => (movedOn_run hkeyed hrun).2⟩

/-- A live session of the user of the small deployment. -/
def liveSession : Session where
  id := 1
  userId := 1
  deviceId := 1
  nodeId := 1
  tier := .free
  status := .active
  panelUsername := "a1"
  credentialRef := ⟨List.replicate 32 (UuidText.hexOfNat 0), UuidText.length_zeros⟩
  expiresAt := 1000000
  createdAt := 0

def paidGrant (purpose : AdGrantPurpose) (minutes : ℕ) : Grant where
  id := 1
  userId := 1
  deviceId := 1
  sessionId := some 1
  purpose := purpose
  nonce := "n"
  requiredAds := 2
  verifiedAds := 2
  grantMinutes := minutes
  issuedAt := 0
  expiresAt := 90000000

/-- The grant and the session at an instant. -/
def claimWorld (grant : Grant) (clock : ℕ) : World where
  db := { smallDb with sessions := [liveSession], grants := [grant] }
  clock := clock

theorem primaryKeys_claimWorld (grant : Grant) (clock : ℕ) :
    PrimaryKeys (claimWorld grant clock).db :=
  ⟨by simp [claimWorld], by simp [claimWorld]⟩

/-- One hour is added, and the session stays within its bound. -/
theorem extension_arithmetic_hour :
    ExtensionLaw {} (claimWorld (paidGrant .extend 60) 500000)
        (paidGrant .extend 60) liveSession ⟨1, 1, 1⟩ ∧
      ∃ last trace, Run (middleware {})
          ⟨claimWorld (paidGrant .extend 60) 500000, [], [], []⟩ trace last ∧
        ∃ row ∈ last.world.db.sessions, MovedOn {} liveSession row := by
  constructor
  · exact (extension_arithmetic {}).1 _ 1 _ _ (primaryKeys_claimWorld _ _)
      ⟨by decide, by decide, rfl, by decide, by decide, by decide, by decide,
        rfl, rfl⟩ (by decide)
  · obtain ⟨last, hrun⟩ := @exists_run_of_isSome _ _ (middleware {})
      ⟨claimWorld (paidGrant .extend 60) 500000, [], [], []⟩
      [.verifyAdReward ⟨1, 1, 1⟩] rfl
    exact ⟨last, _, hrun, (extension_arithmetic {}).2 _ _ _
      ⟨⟨by decide, by decide⟩, by decide, by decide⟩ hrun liveSession
      (by decide)⟩

/-! ## The answer to the client -/

/-- The answer names the stored expiry and the minutes that were added. -/
def TellsTruth (now : ℕ) (before : Session) (after : Db)
    (result : VerifyRewardResult) : Prop :=
  ∃ row, sessionRow result.sessionId after = some row ∧
    result.expiresAt = row.expiresAt ∧
    row.expiresAt = max now before.expiresAt + result.grantedMinutes * 60000

/-- The minutes fit below the ceiling, and a claim without minutes finds a
session that has not lapsed. -/
def Fits (cfg : Config) (now : ℕ) (grant : Grant) (session : Session) : Prop :=
  base now session + grant.grantMinutes * 60000 ≤ cap cfg session ∧
    (grant.grantMinutes = 0 → now ≤ session.expiresAt)

theorem tellsTruth_iff {after : Db} {result : VerifyRewardResult} {row : Session}
    (hrow : sessionRow result.sessionId after = some row) :
    TellsTruth now session after result ↔ result.expiresAt = row.expiresAt ∧
      row.expiresAt = base now session + result.grantedMinutes * 60000 := by
  constructor
  · rintro ⟨other, hother, htruth⟩
    obtain rfl := Option.some.inj (hother.symm.trans hrow)
    exact htruth
  · exact fun htruth => ⟨row, hrow, htruth⟩

/-- A claim without minutes: the stored expiry stays, the answer clamps it. -/
theorem claim_tellsTruth_iff (hzero : grant.grantMinutes = 0)
    (hsession : sessionRow session.id db = some session) :
    TellsTruth now session (withConsumed now grant.id session.id db)
        ⟨session.id, extendedExpiry cfg now 0 session, 0, .unchanged, none⟩ ↔
      Fits cfg now grant session := by
  have hrow : sessionRow session.id
      (withConsumed now grant.id session.id db) = some session := hsession
  rw [tellsTruth_iff hrow, extendedExpiry_eq, Fits, hzero]
  simp only [base, Nat.zero_mul, Nat.add_zero, forall_const]
  omega

/-- A claim with minutes: the stored expiry is the answered one, less than
the minutes where the ceiling cut them. -/
theorem extend_tellsTruth_iff (hpos : 0 < grant.grantMinutes)
    (hsession : sessionRow session.id db = some session)
    {result : VerifyRewardResult} {opId : ℕ}
    (hreports : Reports ⟨session.id, session.panelUsername,
      extendedExpiry cfg now grant.grantMinutes session, grant.grantMinutes,
      opId⟩ result) :
    TellsTruth now session (withExtension now grant.id session
        (extendedExpiry cfg now grant.grantMinutes session) db) result ↔
      Fits cfg now grant session := by
  have hrow : sessionRow result.sessionId (withExtension now grant.id session
      (extendedExpiry cfg now grant.grantMinutes session) db) =
        some (extendRow grant.id
          (extendedExpiry cfg now grant.grantMinutes session) session) := by
    rw [hreports.session, sessionRow, withExtension]
    refine (find?_updateWhere (fun _ => by rfl) _).trans ?_
    rw [sessionRow] at hsession
    rw [hsession]
    rfl
  rw [tellsTruth_iff hrow, hreports.expiry, hreports.minutes, Fits]
  simp only [extendRow, extendedExpiry_eq, true_and, min_eq_left_iff]
  constructor
  · exact fun hfits => ⟨hfits, fun hzero => absurd hzero hpos.ne'⟩
  · exact fun hfits => hfits.1

/-- The answer to a claim tells the truth exactly when the minutes fit. -/
theorem claim_response {cfg : Config} {replies : VerifyStage → Reply}
    {worlds : ℕ → World} {input : VerifyInput} {world : World}
    {result : VerifyRewardResult} {grant : Grant} {session : Session}
    (hkeys : PrimaryKeys world.db)
    (hgrant : grantRow input.grantId world.db = some grant)
    (hsession : sessionRow input.sessionId world.db = some session)
    (hunconsumed : grant.status ≠ .consumed)
    (hanswer : answer cfg replies worlds input world = some (.ok result)) :
    TellsTruth world.clock session (committed cfg input world) result ↔
      Fits cfg world.clock grant session := by
  have hgrant_mem := List.mem_of_find?_eq_some hgrant
  have hgrant_id : grant.id = input.grantId := by
    simpa using List.find?_some hgrant
  have hsession_mem := List.mem_of_find?_eq_some hsession
  have hsession_id : session.id = input.sessionId := by
    simpa using List.find?_some hsession
  cases hrun : verifyTransaction cfg world.clock input.userId input.grantId
      input.sessionId world.db with
  | error cause =>
      rw [(start_of_error hrun).1] at hanswer
      cases hanswer
  | ok outcome =>
      obtain ⟨planned, after⟩ := outcome
      rw [committed_of_ok hrun]
      have hcommit := verifyTransaction_ok hrun
      cases hcommit with
      | replay hmem hid hconsumed _ _ _ =>
          have hsame := eq_of_key hkeys.grants hmem hgrant_mem
            (hid.trans hgrant_id.symm)
          exact absurd (hsame ▸ hconsumed) hunconsumed
      | claim hclaimed hzero =>
          obtain rfl := eq_of_key hkeys.grants hclaimed.grant_mem hgrant_mem
            (hclaimed.grant_id.trans hgrant_id.symm)
          obtain rfl := eq_of_key hkeys.sessions hclaimed.session_mem
            hsession_mem (hclaimed.session_id.trans hsession_id.symm)
          rw [answer_of_claim hrun] at hanswer
          obtain rfl := Except.ok.inj (Option.some.inj hanswer)
          rw [← hgrant_id, ← hsession_id]
          exact claim_tellsTruth_iff hzero (hsession_id ▸ hsession)
      | extend hclaimed hpos hexpiry =>
          obtain rfl := eq_of_key hkeys.grants hclaimed.grant_mem hgrant_mem
            (hclaimed.grant_id.trans hgrant_id.symm)
          obtain rfl := eq_of_key hkeys.sessions hclaimed.session_mem
            hsession_mem (hclaimed.session_id.trans hsession_id.symm)
          rw [answer_of_extend hrun] at hanswer
          have hreports := answerWithin_reports rfl hanswer
          rw [hexpiry, ← hsession_id] at hreports
          rw [hexpiry, ← hgrant_id]
          exact extend_tellsTruth_iff hpos (hsession_id ▸ hsession) hreports

/-- Ten minutes below the ceiling an hour is answered and ten minutes are
added. -/
theorem claim_response_cut :
    let world := claimWorld (paidGrant .extend 60) 85800000
    ∃ result, answer {} (fun _ => .ok) (fun _ => world) ⟨1, 1, 1⟩ world =
        some (.ok result) ∧
      ¬ TellsTruth world.clock liveSession (committed {} ⟨1, 1, 1⟩ world)
        result := by
  intro world
  have hkeys := primaryKeys_claimWorld (paidGrant .extend 60) 85800000
  have hclaim : Claimable world.clock 1 world.db (paidGrant .extend 60)
      liveSession :=
    ⟨by decide, by decide, rfl, by decide, by decide, by decide, by decide,
      rfl, rfl⟩
  have hlaw := @extensionLaw {} _ _ _ world hkeys hclaim (by decide)
  obtain ⟨result, hanswer⟩ := (hlaw.succeeds_iff (fun _ => .ok)
    (fun _ => world) fun _ _ => rfl).mpr (by decide)
  refine ⟨result, hanswer, fun htruth => ?_⟩
  have hfits := (claim_response hkeys rfl rfl (by decide) hanswer).mp htruth
  exact absurd hfits.1 (by decide)

/-- A closing ad on a lapsed session answers an expiry that is not stored. -/
theorem lapsed_disconnect_misreports :
    let world := claimWorld (paidGrant .disconnect 0) 2000000
    ∃ result, answer {} (fun _ => .ok) (fun _ => world) ⟨1, 1, 1⟩ world =
        some (.ok result) ∧
      result.expiresAt = 2000000 ∧
      (sessionRow result.sessionId (committed {} ⟨1, 1, 1⟩ world)).map
        Session.expiresAt = some 1000000 := by
  intro world
  have hclaim : Claimable world.clock 1 world.db (paidGrant .disconnect 0)
      liveSession :=
    ⟨by decide, by decide, rfl, by decide, by decide, by decide, by decide,
      rfl, rfl⟩
  have hrun := @verifyTransaction_without_time {} _ _ _ _ _
    (primaryKeys_claimWorld _ _) hclaim rfl
  refine ⟨_, @answer_of_claim {} _ _ ⟨1, 1, 1⟩ world _ _ _ _ _ hrun, ?_, ?_⟩
  · decide
  · rw [@committed_of_ok {} ⟨1, 1, 1⟩ world _ _ hrun]
    rfl

end VpnMiddleware.ClaimedTime
