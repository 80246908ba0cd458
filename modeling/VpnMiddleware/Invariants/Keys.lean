import VpnMiddleware.System.Evolution

/-!
# Columns that never change

Every step keeps the primary keys distinct and leaves the identifying columns
of existing rows alone, so rows can be followed through a run by their id.
-/

namespace VpnMiddleware.Keys

open VpnMiddleware.Schema VpnMiddleware.Environment VpnMiddleware.Database
open VpnMiddleware.Table VpnMiddleware.Closing VpnMiddleware.TransitionSystem
open VpnMiddleware.Middleware VpnMiddleware.Evolution
open VpnMiddleware.AdsService VpnMiddleware.ConnectionService

variable {cfg : Config} {s s' : State} {act : Action} {after : Db}

/-- The columns that no update sets. -/
structure SameIdentity (row row' : Session) : Prop where
  id : row'.id = row.id
  panelUsername : row'.panelUsername = row.panelUsername
  userId : row'.userId = row.userId
  deviceId : row'.deviceId = row.deviceId
  tier : row'.tier = row.tier
  createdAt : row'.createdAt = row.createdAt

theorem SessionChange.identity {row row' : Session}
    (hchange : SessionChange cfg s act after row row') : SameIdentity row row' := by
  cases hchange <;> exact ⟨rfl, rfl, rfl, rfl, rfl, rfl⟩

structure SameOp (op op' : PanelOp) : Prop where
  id : op'.id = op.id
  kind : op'.op = op.op
  payload : op'.payload = op.payload
  sessionId : op'.sessionId = op.sessionId

theorem OpChange.identity {op op' : PanelOp} (hchange : OpChange cfg s act op op') :
    SameOp op op' := by
  cases hchange <;> exact ⟨rfl, rfl, rfl, rfl⟩

structure SameGrant (row row' : Grant) : Prop where
  id : row'.id = row.id
  userId : row'.userId = row.userId
  requiredAds : row'.requiredAds = row.requiredAds
  grantMinutes : row'.grantMinutes = row.grantMinutes

theorem GrantChange.identity {row row' : Grant}
    (hchange : GrantChange cfg s act row row') : SameGrant row row' := by
  cases hchange <;> exact ⟨rfl, rfl, rfl, rfl⟩

/-! ## Keys stay distinct -/

theorem keyedSessions_of_evolves
    (hkeyed : KeyedSessions s.world.db)
    (hevolves : Evolves (SessionChange cfg s act after) (SessionsAdded cfg s act after)
      s.world.db.sessions after.sessions) : KeyedSessions after := by
  have hcolumn : ∀ {Key : Type} (column : Session → Key),
      (∀ row row', SameIdentity row row' → column row' = column row) →
      (s.world.db.sessions.map column).Nodup →
      (∀ row, SessionsAdded cfg s act after [row] →
        ∀ old ∈ s.world.db.sessions, column old ≠ column row) →
      (after.sessions.map column).Nodup := by
    intro Key column hkeep hnodup hfresh
    obtain ⟨added, hadded, hmap⟩ := hevolves.exists_map_eq
      fun row row' hchange => hkeep row row' (SessionChange.identity hchange)
    rw [hmap]
    cases hadded with
    | none => simpa using hnodup
    | phaseA hcommits hid husername =>
        rw [List.map_singleton]
        refine hnodup.append (List.nodup_singleton _) ?_
        rw [List.disjoint_singleton, List.mem_map]
        rintro ⟨old, hold, heq⟩
        exact hfresh _ (.phaseA hcommits hid husername) old hold heq
  refine ⟨hcolumn Session.id (fun _ _ h => h.id) hkeyed.ids ?_,
    hcolumn Session.panelUsername (fun _ _ h => h.panelUsername)
      hkeyed.usernames ?_⟩
  · intro row hadded
    cases hadded with
    | phaseA _ hid _ => exact hid
  · intro row hadded
    cases hadded with
    | phaseA _ _ husername => exact husername

theorem panelOps_of_evolves (hkeyed : Keyed s.world.db)
    (hevolves : Evolves (OpChange cfg s act) (OpsAdded cfg s after act)
      s.world.db.panelOps after.panelOps) :
    after.panelOps.map PanelOp.id = List.range' 1 after.panelOps.length := by
  obtain ⟨added, hadded, hmap⟩ := @Evolves.exists_map_eq _ _ _ _ _ _
    PanelOp.id hevolves fun op op' hchange => (OpChange.identity hchange).id
  have hids : added.map PanelOp.id =
      List.range' (s.world.db.panelOps.length + 1) added.length := by
    cases hadded with
    | closing _ _ _ _ =>
        rw [map_id_queuedOps]
        congr 1
        simpa using (congrArg List.length (map_id_queuedOps _)).symm
    | failEnqueue _ _ => rfl
    | extension _ => rfl
  have hlength : after.panelOps.length =
      s.world.db.panelOps.length + added.length := by
    simpa using congrArg List.length hmap
  rw [hmap, hids, hkeyed.panelOps, hlength, Nat.add_comm _ 1,
    List.range'_append_1]

theorem keyed_of_effects (hkeyed : Keyed s.world.db)
    (heffects : Effects cfg s act after) : Keyed after where
  toKeyedSessions :=
    keyedSessions_of_evolves hkeyed.toKeyedSessions heffects.sessions
  panelOps := panelOps_of_evolves hkeyed heffects.panelOps
  grants := by
    obtain ⟨added, hadded, hmap⟩ := @Evolves.exists_map_eq _ _ _ _ _ _
      Grant.id heffects.grants fun row row' hchange =>
        (GrantChange.identity hchange).id
    rw [hmap]
    rcases hadded with rfl | ⟨grant, hminted, rfl⟩
    · simpa using hkeyed.grants
    · rw [List.map_singleton]
      refine hkeyed.grants.append (List.nodup_singleton _) ?_
      rw [List.disjoint_singleton, List.mem_map]
      rintro ⟨old, hold, heq⟩
      exact hminted.fresh old hold heq

theorem keyed_step (hkeyed : Keyed s.world.db)
    (hstep : step cfg s act = some s') : Keyed s'.world.db :=
  keyed_of_effects hkeyed (step_effects hkeyed hstep)

/-- A step leads from a row to the row with its id. -/
theorem exists_sessionChange (hkeyed : Keyed s.world.db)
    (hstep : step cfg s act = some s') {row : Session}
    (hrow : row ∈ s.world.db.sessions) :
    ∃ row' ∈ s'.world.db.sessions, row'.id = row.id ∧
      SessionChange cfg s act s'.world.db row row' := by
  obtain ⟨row', hrow', hchange⟩ := (step_effects hkeyed hstep).sessions.forward hrow
  exact ⟨row', hrow', (SessionChange.identity hchange).id, hchange⟩

theorem sessionChange_of_id (hkeyed : Keyed s.world.db)
    (hstep : step cfg s act = some s') {row row' : Session}
    (hrow : row ∈ s.world.db.sessions) (hrow' : row' ∈ s'.world.db.sessions)
    (hid : row'.id = row.id) : SessionChange cfg s act s'.world.db row row' := by
  obtain ⟨other, hother, hother_id, hchange⟩ :=
    exists_sessionChange hkeyed hstep hrow
  have hkeyed' := keyed_step hkeyed hstep
  rwa [eq_of_key hkeyed'.ids hrow' hother (hid.trans hother_id.symm)]

theorem keyed_initial (hinit : IsInitial s) : Keyed s.world.db where
  ids := by simp [hinit.sessions]
  usernames := by simp [hinit.sessions]
  grants := by simp [hinit.grants]
  panelOps := by simp [hinit.panelOps]

/-- Keys are distinct in every state of every run. -/
theorem keyed_run {start last : State} {trace : List (State × Action)}
    (hinit : IsInitial start) (hrun : Run (middleware cfg) start trace last) :
    Keyed last.world.db :=
  hrun.invariant (keyed_initial hinit) fun _ _ _ hkeyed hstep =>
    keyed_step hkeyed hstep

end VpnMiddleware.Keys
