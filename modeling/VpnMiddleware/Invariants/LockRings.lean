import VpnMiddleware.System.LockSequences
import VpnMiddleware.System.Middleware

/-!
# Transactions that wait for one another

A transaction that holds a grant waits for no holder of another grant, one that
locks a single row holds nothing while it waits, and the sweep skips what is
locked.  What can close a ring is `connect`, which takes the user and the node
after the sessions, and the administrator's bulk updates.
-/

namespace VpnMiddleware.LockRings

open Relation
open VpnMiddleware.RowLocks VpnMiddleware.LockSequences
open VpnMiddleware.Schema VpnMiddleware.Environment

/-- The calls whose locks can cross those of another one. -/
def canCross : Call → Bool
  | .connect _ _ _ | .mutateUser _ _ _ | .panicRevokeFreeSessions _
  | .forceMigrateNode _ _ => true
  | .recordVerifiedReward _ | .verifyAdReward _ _ _ | .kickSession _
  | .sweepOnce => false

/-- Only one row is locked, for update at first. -/
inductive LocksOne : List (Request Row) → Prop
  | nothing : LocksOne []
  | one {row : Row} {rest : List (Request Row)} :
      (∀ request ∈ rest, ∃ mode, request = .wait ⟨row, mode⟩) →
      LocksOne (forUpdate row :: rest)

/-- A grant is locked, and perhaps a session after it. -/
inductive LocksInOrder : List (Request Row) → Prop
  | one {requests : List (Request Row)} : LocksOne requests →
      LocksInOrder requests
  | both {grantId sessionId : ℕ} {rest : List (Request Row)} :
      (∀ request ∈ rest, ∃ lock, request = .wait lock ∧
        (lock.row = .grant grantId ∨ lock.row = .session sessionId)) →
      LocksInOrder
        (forUpdate (.grant grantId) :: forUpdate (.session sessionId) :: rest)

/-- Every request waits, and none is for a grant. -/
def LocksNoGrant (requests : List (Request Row)) : Prop :=
  ∀ request ∈ requests, ∃ lock, request = .wait lock ∧
    ∀ grantId, lock.row ≠ .grant grantId

/-! ## What the calls lock -/

section Shapes

variable {cfg : Config} {now : ℕ} {db : Db} {scan : Scan}

theorem locksOne_recordVerifiedReward (reward : AdsService.AdMobReward) :
    LocksOne (recordVerifiedRewardLocks now reward db) := by
  rw [recordVerifiedRewardLocks]
  split
  · exact .nothing
  · split
    · exact .nothing
    · apply LocksOne.one
      split
      · exact List.forall_mem_nil _
      · split <;> simp [referring, updating]

theorem locksOne_kickSession (sessionId : ℕ) :
    LocksOne (kickSessionLocks sessionId db) := by
  rw [kickSessionLocks]
  split
  · exact .nothing
  · apply LocksOne.one
    split <;> simp [referring, updating]

theorem locksInOrder_verifyAdReward (userId grantId sessionId : ℕ) :
    LocksInOrder (verifyAdRewardLocks cfg now userId grantId sessionId db) := by
  rw [verifyAdRewardLocks]
  split
  · exact .one .nothing
  · simp only
    split
    · exact .one (.one (List.forall_mem_nil _))
    · split
      · exact .one (.one (by simp [updating]))
      · split
        · exact .one (.one (List.forall_mem_nil _))
        · split
          · exact .one (.one (List.forall_mem_nil _))
          · apply LocksInOrder.both
            intro request hrequest
            split at hrequest
            · cases hrequest
            · split at hrequest <;>
                simp only [List.cons_append, List.nil_append, List.append_nil,
                  List.mem_cons, List.not_mem_nil, or_false] at hrequest <;>
                rcases hrequest with rfl | rfl | rfl | rfl | rfl <;>
                exact ⟨_, rfl, by simp⟩

theorem LocksNoGrant.append {first second : List (Request Row)}
    (hfirst : LocksNoGrant first) (hsecond : LocksNoGrant second) :
    LocksNoGrant (first ++ second) := by
  intro request hrequest
  rcases List.mem_append.mp hrequest with hleft | hright
  · exact hfirst request hleft
  · exact hsecond request hright

theorem LocksNoGrant.bulk {Item : Type} {rows : List Item} {row : Item → Row}
    (mode : Mode) (hrow : ∀ item grantId, row item ≠ .grant grantId) :
    LocksNoGrant ((scan.order (rows.map row)).map fun row =>
      .wait ⟨row, mode⟩) := by
  intro request hrequest
  obtain ⟨locked, hlocked, rfl⟩ := List.mem_map.mp hrequest
  obtain ⟨item, -, rfl⟩ := List.mem_map.mp ((scan.perm _).mem_iff.mp hlocked)
  exact ⟨_, rfl, hrow item⟩

theorem locksNoGrant_revoke (selected : Session → Bool) :
    LocksNoGrant (revokeLocks scan selected db) := by
  apply LocksNoGrant.append
  · exact LocksNoGrant.bulk .noKeyUpdate (by simp)
  · exact LocksNoGrant.bulk .keyShare (by simp)

theorem locksNoGrant_audit (actor : AdminService.AdminActor) :
    LocksNoGrant (auditLocks actor) := by
  intro request hrequest
  rw [auditLocks, Option.mem_toList, Option.map_eq_some_iff] at hrequest
  obtain ⟨adminId, -, rfl⟩ := hrequest
  exact ⟨_, rfl, by simp⟩

theorem locksNoGrant_connect (input : ConnectionService.ConnectInput)
    (plan : ConnectionService.Resolved) (draw : ConnectionService.Draw) :
    LocksNoGrant (connectLocks input plan draw db) := by
  refine LocksNoGrant.append (LocksNoGrant.append ?_ ?_) ?_
  · intro request hrequest
    obtain ⟨row, -, rfl⟩ := List.mem_map.mp hrequest
    exact ⟨_, rfl, by simp⟩
  · intro request hrequest
    obtain ⟨row, -, hin⟩ := List.mem_flatMap.mp hrequest
    simp only [List.mem_cons, List.not_mem_nil, or_false] at hin
    rcases hin with rfl | rfl <;> exact ⟨_, rfl, by simp⟩
  · split
    · exact List.forall_mem_nil _
    · intro request hrequest
      split at hrequest <;>
        simp only [List.cons_append, List.nil_append, List.append_nil,
          List.mem_cons, List.not_mem_nil, or_false] at hrequest
      · rcases hrequest with rfl | rfl | rfl | rfl | rfl | rfl <;>
          exact ⟨_, rfl, by simp⟩
      · rcases hrequest with rfl | rfl | rfl <;> exact ⟨_, rfl, by simp⟩

theorem locksNoGrant_ban (userId : ℕ) (isBanned : Option Bool)
    (actor : AdminService.AdminActor) :
    LocksNoGrant (banLocks scan userId isBanned actor db) := by
  have huser : LocksNoGrant [updating (.user userId)] := by
    simp [LocksNoGrant, updating]
  match isBanned with
  | none => exact List.forall_mem_nil _
  | some false => exact huser
  | some true =>
      exact huser.append ((locksNoGrant_revoke _).append (locksNoGrant_audit _))

theorem locksNoGrant_tier (userId : ℕ) (changes : AdminService.UserChanges) :
    LocksNoGrant (tierLocks scan userId changes db) := by
  rw [tierLocks]
  split
  · exact List.forall_mem_nil _
  · rw [grantLocks]
    split
    · simp [LocksNoGrant, referring]
    · exact LocksNoGrant.bulk .noKeyUpdate (by simp)
  · exact LocksNoGrant.bulk .noKeyUpdate (by simp)

theorem locksNoGrant_mutateUser (userId : ℕ)
    (changes : AdminService.UserChanges) (actor : AdminService.AdminActor) :
    LocksNoGrant (mutateUserLocks scan userId changes actor db) := by
  rw [mutateUserLocks]
  split
  · have huser : LocksNoGrant [forUpdate (.user userId)] := by
      simp [LocksNoGrant, forUpdate]
    exact huser.append ((locksNoGrant_ban _ _ _).append (locksNoGrant_tier _ _))
  · exact List.forall_mem_nil _

theorem locksNoGrant_forceMigrateNode (nodeId : ℕ)
    (actor : AdminService.AdminActor) :
    LocksNoGrant (forceMigrateNodeLocks scan nodeId actor db) := by
  rw [forceMigrateNodeLocks]
  split
  · have hnode : LocksNoGrant
        [forUpdate (.node nodeId), updating (.node nodeId)] := by
      simp [LocksNoGrant, forUpdate, updating]
    exact (hnode.append (locksNoGrant_revoke _)).append (locksNoGrant_audit _)
  · exact List.forall_mem_nil _

theorem locksNoGrant_of_canCross {tx : Running}
    (hcross : canCross tx.call = true) : LocksNoGrant (tx.requests cfg) := by
  rw [Running.requests]
  split
  · simp_all [canCross]
  · simp_all [canCross]
  · exact locksNoGrant_connect _ _ _
  · simp_all [canCross]
  · exact locksNoGrant_mutateUser _ _ _
  · exact (locksNoGrant_revoke _).append (locksNoGrant_audit _)
  · exact locksNoGrant_forceMigrateNode _ _
  · simp_all [canCross]

/-- The calls that cannot cross follow the order, or never wait. -/
theorem locksInOrder_of_not_canCross {tx : Running}
    (hcross : canCross tx.call = false) :
    LocksInOrder (tx.requests cfg) ∨ NeverWaits (tx.requests cfg) := by
  rw [Running.requests]
  split
  · exact Or.inl (.one (locksOne_recordVerifiedReward _))
  · exact Or.inl (locksInOrder_verifyAdReward _ _ _)
  · simp_all [canCross]
  · exact Or.inl (.one (locksOne_kickSession _))
  · simp_all [canCross]
  · simp_all [canCross]
  · simp_all [canCross]
  · right
    intro request hrequest
    rw [sweepOnceLocks, List.mem_singleton] at hrequest
    rw [hrequest]
    rfl

end Shapes

/-! ## Who can be in a crossing -/

section Members

variable {Id : Type*} {program : Id → List (Request Row)} {points : Id → ℕ}
variable {id : Id}

theorem LocksInOrder.plain {requests : List (Request Row)}
    (horder : LocksInOrder requests) : IsPlain requests := by
  cases horder with
  | one hone =>
      cases hone with
      | nothing => exact List.forall_mem_nil _
      | one hrest =>
          intro request hrequest
          rcases List.mem_cons.mp hrequest with rfl | htail
          · exact ⟨_, rfl⟩
          · obtain ⟨mode, rfl⟩ := hrest request htail
            exact ⟨_, rfl⟩
  | both hrest =>
      intro request hrequest
      rcases List.mem_cons.mp hrequest with rfl | htail
      · exact ⟨_, rfl⟩
      · rcases List.mem_cons.mp htail with rfl | htail
        · exact ⟨_, rfl⟩
        · obtain ⟨lock, rfl, -⟩ := hrest request htail
          exact ⟨_, rfl⟩

/-- The request at a later point is not the first one. -/
theorem mem_of_getElem?_cons {first request : Request Row}
    {rest : List (Request Row)} {count : ℕ} (hcount : count ≠ 0)
    (hnext : (first :: rest)[count]? = some request) : request ∈ rest := by
  obtain ⟨before, rfl⟩ := Nat.exists_eq_succ_of_ne_zero hcount
  rw [List.getElem?_cons_succ] at hnext
  exact List.mem_of_getElem? hnext

theorem mem_taken_cons (row : Row) (rest : List (Request Row)) {count : ℕ}
    (hcount : count ≠ 0) :
    ⟨row, .update⟩ ∈ taken (forUpdate row :: rest) count := by
  obtain ⟨before, rfl⟩ := Nat.exists_eq_succ_of_ne_zero hcount
  exact List.mem_cons_self

/-- Who locks a single row does not wait while holding it. -/
theorem LocksOne.not_started (hcrossing : IsCrossing program points)
    (hone : LocksOne (program id)) : points id = 0 := by
  by_contra hid
  obtain ⟨other, hmeets, -⟩ := TransGen.head'_iff.mp (hcrossing.ring id hid)
  obtain ⟨lock, hnext, hfresh, -⟩ := hcrossing.row_ne hmeets
  generalize program id = requests at hone hnext hfresh
  cases hone with
  | nothing => cases hnext
  | @one row rest hrest =>
      obtain ⟨mode, heq⟩ := hrest _ (mem_of_getElem?_cons hid hnext)
      cases heq
      exact hfresh _ (mem_taken_cons row rest hid) rfl rfl

/-- After a grant, only the session's lock is waited for. -/
theorem LocksInOrder.next (hcrossing : IsCrossing program points)
    (horder : LocksInOrder (program id)) (hid : points id ≠ 0) :
    (∃ grantId, taken (program id) (points id) = [⟨.grant grantId, .update⟩]) ∧
      ∀ {lock}, (program id)[points id]? = some (.wait lock) →
        ∀ grantId, lock.row ≠ .grant grantId := by
  obtain ⟨other, hmeets, -⟩ := TransGen.head'_iff.mp (hcrossing.ring id hid)
  obtain ⟨lock, hnext, hfresh, -⟩ := hcrossing.row_ne hmeets
  have hone : ¬ LocksOne (program id) := fun hone =>
    hid (hone.not_started hcrossing)
  generalize program id = requests at horder hone hnext hfresh
  cases horder with
  | one h => exact absurd h hone
  | @both grantId sessionId rest hrest =>
      obtain ⟨before, hbefore⟩ := Nat.exists_eq_succ_of_ne_zero hid
      cases before with
      | zero =>
          rw [hbefore]
          refine ⟨⟨grantId, rfl⟩, fun hlock other => ?_⟩
          cases hlock
          exact Row.noConfusion
      | succ before =>
          rw [hbefore] at hnext hfresh
          have hgrant := hfresh ⟨.grant grantId, .update⟩ List.mem_cons_self rfl
          have hsession := hfresh ⟨.session sessionId, .update⟩
            (List.mem_cons_of_mem _ List.mem_cons_self) rfl
          rw [List.getElem?_cons_succ, List.getElem?_cons_succ] at hnext
          obtain ⟨_, heq, hrow⟩ := hrest _ (List.mem_of_getElem? hnext)
          cases heq
          rcases hrow with hrow | hrow
          · exact absurd hrow hgrant
          · exact absurd hrow hsession

end Members

section Rings

variable {Id : Type*} {cfg : Config} {running : Id → Running}
variable {points : Id → ℕ} {id : Id}

/-- Only these four calls take part in a crossing. -/
theorem canCross_of_crossing
    (hcrossing : IsCrossing (fun id => (running id).requests cfg) points)
    (hid : points id ≠ 0) : canCross (running id).call = true := by
  by_contra hcannot
  have hnoGrant : ∀ {other}, points other ≠ 0 → ∀ {lock},
      ((running other).requests cfg)[points other]? = some (.wait lock) →
      ∀ grantId, lock.row ≠ .grant grantId := by
    intro other hother lock hnext
    cases hcross : canCross (running other).call with
    | true =>
        obtain ⟨_, heq, hrow⟩ := locksNoGrant_of_canCross hcross _
          (List.mem_of_getElem? hnext)
        cases heq
        exact hrow
    | false =>
        rcases locksInOrder_of_not_canCross hcross with horder | hnever
        · exact (LocksInOrder.next hcrossing horder hother).2 hnext
        · cases hnever _ (List.mem_of_getElem? hnext)
  rcases locksInOrder_of_not_canCross (Bool.eq_false_of_not_eq_true hcannot) with
    horder | hnever
  · obtain ⟨grantId, htaken⟩ := (LocksInOrder.next hcrossing horder hid).1
    obtain ⟨other, hother, hmeets⟩ := hcrossing.met hid
    obtain ⟨lock, hnext, -, held, hheld, hrow⟩ := hcrossing.row_ne hmeets
    rw [htaken, List.mem_singleton] at hheld
    exact hnoGrant hother hnext grantId (by rw [← hrow, hheld])
  · obtain ⟨lock, hnext⟩ := Meets.of_ring (hcrossing.ring id hid)
    cases hnever _ (List.mem_of_getElem? hnext)

theorem requests_kind (tx : Running) :
    IsPlain (tx.requests cfg) ∨ NeverWaits (tx.requests cfg) := by
  cases hcross : canCross tx.call with
  | true =>
      left
      intro request hrequest
      obtain ⟨lock, rfl, -⟩ := locksNoGrant_of_canCross hcross request hrequest
      exact ⟨lock, rfl⟩
  | false => exact (locksInOrder_of_not_canCross hcross).imp_left (·.plain)

/-- Transactions that run concurrently never wait for one another in a ring,
if and only if the locks of the `connect`, `mutateUser`,
`panicRevokeFreeSessions` and `forceMigrateNode` among them do not cross. -/
theorem deadlock_free_iff [Fintype Id] [DecidableEq Id] (cfg : Config)
    (running : Id → Running) :
    (∀ s, Reachable (fun id => (running id).requests cfg) s →
        ∀ id, ¬ TransGen (WaitsFor s) id id) ↔
      ¬ ∃ points, IsCrossing (fun id => (running id).requests cfg) points ∧
        ∀ id, points id ≠ 0 → canCross (running id).call = true := by
  constructor
  · rintro hfree ⟨points, hcrossing, -⟩
    obtain ⟨s, hreachable, id, hring⟩ := hcrossing.reachable
    exact hfree s hreachable id hring
  · intro hnone s hreachable id hring
    obtain ⟨points, hcrossing⟩ :=
      exists_crossing (fun id => requests_kind (running id)) hreachable hring
    exact hnone ⟨points, hcrossing, fun _ => canCross_of_crossing hcrossing⟩

end Rings

/-! ## A ban and a connect -/

/-- The user of the small deployment is connected. -/
def connectedDb : Db :=
  { Middleware.smallDb with
    sessions := [{
      id := 1
      userId := 1
      deviceId := 1
      nodeId := 1
      tier := .free
      status := .active
      panelUsername := "s_1"
      credentialRef := ⟨List.replicate 32 (UuidText.hexOfNat 0), UuidText.length_zeros⟩
      expiresAt := 3600000
      createdAt := 0 }] }

def inOrder : Scan := ⟨id, fun _ => List.Perm.refl _⟩

/-- The user connects anew while an administrator bans the user. -/
def connectAndBan : Bool → Running
  | false => ⟨.connect ⟨1, 1, Middleware.smallKey⟩ ⟨.free, 300000, 1⟩
      Middleware.smallDraw, 1, connectedDb, inOrder⟩
  | true => ⟨.mutateUser 1 { isBanned := some true } {}, 1, connectedDb,
      inOrder⟩

/-- The `connect` has taken the session, and displaced it; the ban has taken
the user. -/
def connectAndBanPoints : Bool → ℕ
  | false => 3
  | true => 2

def sequences (id : Bool) : List (Request Row) :=
  (connectAndBan id).requests {}

theorem meets_connectAndBan (id : Bool) :
    Meets sequences connectAndBanPoints id (!id) := by
  cases id with
  | false =>
      refine ⟨by decide, ⟨.user 1, .keyShare⟩, by decide +kernel,
        ⟨.user 1, .update⟩, by decide +kernel, rfl⟩
  | true =>
      refine ⟨by decide, ⟨.session 1, .noKeyUpdate⟩, by decide +kernel,
        ⟨.session 1, .update⟩, by decide +kernel, rfl⟩

theorem isCrossing_connectAndBan :
    IsCrossing sequences connectAndBanPoints where
  started := ⟨false, by decide⟩
  plain id _ := by
    rcases @requests_kind {} (connectAndBan id) with hplain | hnever
    · exact hplain
    · obtain ⟨-, lock, hnext, -⟩ := meets_connectAndBan id
      cases hnever _ (List.mem_of_getElem? hnext)
  compatible := by
    have hdisjoint : ∀ id, ∀ lock ∈ taken (sequences id) (connectAndBanPoints id),
        ∀ lock' ∈ taken (sequences !id) (connectAndBanPoints !id),
          lock.conflicts lock' = false := by decide +kernel
    intro left right hne
    have hright : right = !left := by
      cases left <;> cases right <;> simp_all
    rw [hright]
    exact hdisjoint left
  ring id _ := by
    have hback := meets_connectAndBan !id
    rw [Bool.not_not] at hback
    exact (TransGen.single (meets_connectAndBan id)).tail hback

/-- The `connect` waits for the user, the ban for the session. -/
theorem connect_and_ban_deadlock :
    ¬ ∀ s, Reachable (fun id => (connectAndBan id).requests {}) s →
      ∀ id, ¬ TransGen (WaitsFor s) id id := by
  intro hfree
  obtain ⟨s, hreachable, id, hring⟩ := isCrossing_connectAndBan.reachable
  exact hfree s hreachable id hring

end VpnMiddleware.LockRings

