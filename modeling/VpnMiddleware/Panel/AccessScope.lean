import VpnMiddleware.Connection.ConnectionService
import VpnMiddleware.Panel.DynamicPanelClient

/-!
# The access scope of a panel user

Rebecca scopes a user by inbound tags, Remnawave by squads.  The tier of a
session reaches the panel only through the inbound that was picked for it, so
two sessions of different tiers have different scopes only if the client puts
that inbound into the scope.
-/

namespace VpnMiddleware.AccessScope

open VpnMiddleware.Schema VpnMiddleware.Environment VpnMiddleware.JsonText
open VpnMiddleware.Database VpnMiddleware.PanelTypes
open VpnMiddleware.ConnectionService VpnMiddleware.DynamicPanelClient

/-- The scope in the request of `createUser`, unless it refuses to send one. -/
def scopeOf (client : PanelClient) (params : CreateUserParams) : Option Json :=
  match client with
  | .rebecca _ =>
      if RebeccaPanelClient.isRefused params then none
      else (RebeccaPanelClient.createUserPayload params).member "inbounds"
  | .remnawave client =>
      if RemnawavePanelClient.isRefused client.cfg then none
      else (RemnawavePanelClient.createUserPayload client.cfg params).member
        "activeInternalSquads"

/-- The pick of an inbound. -/
def pickOf (inbound : NodeInbound) : NodePick :=
  ⟨inbound.nodeId, inbound.inboundTag, inbound.protocol⟩

/-- Two connects with these picks, whatever else differs, do not give their
panel users the same scope. -/
def SeparatesScopes (cfg : Config) (client : PanelClient)
    (left right : NodePick) : Prop :=
  ∀ (leftPlan rightPlan : Resolved) (leftTx rightTx : TxResult),
    leftTx.node = left → rightTx.node = right → ∀ scope,
      scopeOf client (createUserParams cfg leftPlan leftTx) = some scope →
      scopeOf client (createUserParams cfg rightPlan rightTx) ≠ some scope

/-- Tier isolation for a free user: its pick and a premium inbound lead to
different scopes. -/
def TierIsolated (cfg : Config) (now userId : ℕ) (db : Db)
    (client : PanelClient) : Prop :=
  (resolveTierAndExpiry cfg now userId db).tier = .free →
    ∀ picked, pickNode .free db = some picked →
      ∀ inbound ∈ db.nodeInbounds, inbound.tier = .premium →
        SeparatesScopes cfg client picked (pickOf inbound)

/-! ## What the scopes depend on -/

section Scopes

variable {cfg : Config} {plan : Resolved} {tx : TxResult}

theorem scopeOf_rebecca (client : RebeccaPanelClient.Client) :
    scopeOf (.rebecca client) (createUserParams cfg plan tx) =
      some (.obj [(tx.node.protocol, .arr [.str tx.node.inboundTag])]) := rfl

theorem scopeOf_remnawave (client : RemnawavePanelClient.Client) :
    scopeOf (.remnawave client) (createUserParams cfg plan tx) =
      if client.cfg.squadUuids.isEmpty then none
      else some (.arr (client.cfg.squadUuids.map .str)) := rfl

end Scopes

/-- The inbound is in the scope on Rebecca; Remnawave creates users with a
scope only if squads are configured, and then with the same for all. -/
def Distinguishes (client : PanelClient) (left right : NodePick) : Prop :=
  match client with
  | .rebecca _ => left.protocol ≠ right.protocol ∨
      left.inboundTag ≠ right.inboundTag
  | .remnawave client => client.cfg.squadUuids = []

theorem separatesScopes_iff {cfg : Config} {client : PanelClient}
    {left right : NodePick} :
    SeparatesScopes cfg client left right ↔ Distinguishes client left right := by
  have hplan : Resolved := ⟨.free, 0, 0⟩
  have htx : ∀ node, ∃ tx : TxResult, tx.node = node :=
    fun node => ⟨⟨0, "", "", node, [], none, none⟩, rfl⟩
  obtain ⟨leftTx, hleft⟩ := htx left
  obtain ⟨rightTx, hright⟩ := htx right
  cases client with
  | rebecca client =>
      simp only [SeparatesScopes, scopeOf_rebecca, Distinguishes]
      constructor
      · intro hseparates
        have hne := hseparates hplan hplan leftTx rightTx hleft hright _ rfl
        rw [hleft, hright] at hne
        by_contra hsame
        rw [not_or, not_not, not_not] at hsame
        exact hne (by rw [hsame.1, hsame.2])
      · rintro hdiffers _ _ tx tx' rfl rfl scope hscope hsame
        rw [← hscope] at hsame
        simp only [Option.some.injEq, Json.obj.injEq, List.cons.injEq,
          Prod.mk.injEq, Json.arr.injEq, Json.str.injEq, and_true] at hsame
        exact hdiffers.elim (fun hne => hne hsame.1.symm)
          fun hne => hne hsame.2.symm
  | remnawave client =>
      simp only [SeparatesScopes, scopeOf_remnawave, Distinguishes]
      constructor
      · intro hseparates
        by_contra hsquads
        have hne := hseparates hplan hplan leftTx rightTx hleft hright
        simp [List.isEmpty_iff, hsquads] at hne
      · rintro hsquads _ _ tx tx' rfl rfl scope hscope
        simp [hsquads] at hscope

/-- A free user's connect shares no scope with a premium inbound exactly if the
client distinguishes them. -/
theorem tierIsolated_iff (cfg : Config) (now userId : ℕ) (db : Db)
    (client : PanelClient) :
    TierIsolated cfg now userId db client ↔
      ((resolveTierAndExpiry cfg now userId db).tier = .free →
        ∀ picked, pickNode .free db = some picked →
          ∀ inbound ∈ db.nodeInbounds, inbound.tier = .premium →
            Distinguishes client picked (pickOf inbound)) := by
  simp only [TierIsolated, separatesScopes_iff]

/-- One free and one premium inbound on a node, and a Remnawave client with one
squad. -/
def mixedDb : Db where
  users := [{ id := 1 }]
  nodes := [{ id := 1, tier := .free }]
  nodeInbounds := [⟨1, "free-in", "vless", .free⟩,
    ⟨1, "premium-in", "vless", .premium⟩]
  nodeEndpoints := [⟨1, "free-in", "node", 443, {}, true⟩]

def squadClient : PanelClient :=
  .remnawave ⟨⟨"https://panel", "token", none, ["squad"], 8000⟩,
    "https://panel/api"⟩

theorem same_squad_for_both_tiers : ¬ TierIsolated {} 0 1 mixedDb squadClient := by
  intro hisolated
  have hseparates := hisolated rfl ⟨1, "free-in", "vless"⟩ (by decide)
    ⟨1, "premium-in", "vless", .premium⟩ (by decide) rfl
  exact absurd (separatesScopes_iff.mp hseparates) (by
    simp [Distinguishes, squadClient])

end VpnMiddleware.AccessScope
