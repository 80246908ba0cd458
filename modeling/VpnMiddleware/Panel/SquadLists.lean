import VpnMiddleware.Core.Splitting
import VpnMiddleware.Panel.RemnawavePanelClient

/-!
# Two parsers of one squad list

`REMNAWAVE_SQUAD_UUIDS` is split at commas by the fallback of
`getPanelConfig()`, and at commas and blanks, without empty tokens, by the
client's constructor.  The injected client takes the fallback's list.
-/

namespace VpnMiddleware.SquadLists

open VpnMiddleware.Errors VpnMiddleware.JsonText VpnMiddleware.WebText
open VpnMiddleware.Http VpnMiddleware.Http.Exchange VpnMiddleware.PanelTypes
open VpnMiddleware.PanelHttp VpnMiddleware.SettingsService
open VpnMiddleware.RemnawavePanelClient

/-- The client that the fallback of `getPanelConfig()` configures. -/
def fallbackClient (env : PanelEnv) : Except Failure Client :=
  construct env (getPanelConfig env none).config.remnawave

theorem squadUuids_fallbackClient {env : PanelEnv} {client : Client}
    (hclient : fallbackClient env = .ok client) :
    client.cfg.squadUuids = envSquads env := by
  rw [fallbackClient, construct] at hclient
  split_ifs at hclient
  rw [← Except.ok.inj hclient]
  rfl

/-! ## The two lists -/

/-- Every field between commas is a token: not empty and without a blank. -/
def IsPlainList (value : Option String) : Prop :=
  ∀ text, value = some text → text ≠ "" →
    ∀ field ∈ splitOn (· == ',') text,
      field ≠ "" ∧ ∀ c ∈ field.toList, isSpace c = false

private theorem filter_splitOn (isSeparator : Char → Bool) (text : String) :
    (splitOn isSeparator text).filter (· != "") =
      ((text.toList.splitOnP isSeparator).filter
        fun piece => !piece.isEmpty).map String.ofList := by
  rw [splitOn, List.filter_map]
  congr 1
  apply List.filter_congr
  intro piece _
  cases piece <;> simp

/-- The fallback's list is the constructor's list exactly for a plain list. -/
theorem envSquads_eq_splitCsv_iff (env : PanelEnv) :
    envSquads env = splitCsv env.remnawaveSquadUuids ↔
      IsPlainList env.remnawaveSquadUuids := by
  cases hvalue : env.remnawaveSquadUuids with
  | none => simp [envSquads, hvalue, splitCsv, IsPlainList, splitOn]
  | some text =>
      by_cases hempty : text = ""
      · subst hempty
        simp [envSquads, hvalue, splitCsv, IsPlainList, splitOn]
      · have hsplit : envSquads env = splitOn (· == ',') text := by
          rw [envSquads, hvalue]
          split
          · contradiction
          · next heq => exact absurd (Option.some.inj heq) hempty
          · next heq => rw [Option.some.inj heq]
        have hiff := @Splitting.splitOnP_eq_filter_iff _ (· == ',')
          (fun c => c == ',' || isSpace c) text.toList
          fun c hc => by simp_all
        have hinj : Function.Injective (List.map String.ofList) :=
          List.map_injective_iff.mpr fun _ _ => String.ofList_injective
        rw [hsplit, splitCsv, Option.getD_some, filter_splitOn, splitOn,
          hinj.eq_iff, hiff]
        constructor
        · intro hplain other heq _ field hfield
          rw [← Option.some.inj heq, splitOn] at hfield
          obtain ⟨piece, hpiece, rfl⟩ := List.mem_map.mp hfield
          obtain ⟨hne, hfree⟩ := hplain piece hpiece
          refine ⟨by simpa using hne, fun c hc => ?_⟩
          have hboth := hfree c (by simpa using hc)
          simp only [Bool.or_eq_false_iff] at hboth
          exact hboth.2
        · intro hplain piece hpiece
          obtain ⟨hne, hfree⟩ := hplain text rfl hempty (String.ofList piece)
            (List.mem_map_of_mem hpiece)
          refine ⟨by simpa using hne, fun c hc => ?_⟩
          rw [Splitting.not_separator_of_mem hpiece c hc,
            hfree c (by simpa using hc), Bool.or_false]

/-! ## What `createUser` sends -/

section Requests

variable {World : Type} (net : Network Failure World)

/-- The requests of `createUser` with a squad list: none without a squad. -/
def requestsWith (squads : List String) (client : Client)
    (params : CreateUserParams) : List HttpRequest :=
  if squads = [] then []
  else [apiRequest client "POST" "/users"
    (some (createUserPayload { client.cfg with squadUuids := squads } params))]

theorem requests_request (method path : String) (body : Option Json)
    (client : Client) (world : World) :
    (request net method path body client world).requests =
      [apiRequest client method path body] := by
  have hsilent : ∀ (res : HttpResponse Failure) client world, ((do
      if res.status = 404 then return none
      else if res.status = 204 then return none
      else if !res.ok then fail (requestFailed "remnawave" method path res)
      else return some (unwrap (jsonOf res)) : Call World (Option Json))
        client world).requests = [] := by
    intro res client world
    split_ifs <;> rfl
  exact @requests_bind_of_silent _ _ _ _ _ (fetchWithTimeout net _) _ hsilent
    client world

theorem requests_createUser (params : CreateUserParams) (client : Client)
    (world : World) :
    (createUser net params client world).requests =
      requestsWith client.cfg.squadUuids client params := by
  rw [createUser, bind_apply]
  change ((if isRefused client.cfg then _ else _ :
    Call World PanelUser) client world).requests = _
  by_cases hnone : client.cfg.squadUuids = []
  · rw [requestsWith, if_pos hnone, isRefused, hnone]
    rfl
  · have hsome : isRefused client.cfg = false := by
      simpa [isRefused] using hnone
    rw [requestsWith, if_neg hnone, hsome, if_neg Bool.false_ne_true,
      requests_bind_of_silent, requests_request]
    intro created client world
    cases created.filter Json.isTruthy with
    | none => rfl
    | some dto => exact requests_bind_of_silent (fun _ _ _ => rfl) client world

theorem requestsWith_injective {left right : List String} {client : Client}
    {params : CreateUserParams}
    (heq : requestsWith left client params = requestsWith right client params) :
    left = right := by
  have hsquads : ∀ squads, (createUserPayload
      { client.cfg with squadUuids := squads } params).member
        "activeInternalSquads" = some (.arr (squads.map .str)) := fun _ => rfl
  by_cases hleft : left = []
  · by_cases hright : right = []
    · rw [hleft, hright]
    · simp [requestsWith, hleft, hright] at heq
  · by_cases hright : right = []
    · simp [requestsWith, hleft, hright] at heq
    · simp only [requestsWith, hleft, hright, if_false, List.cons.injEq, and_true,
        apiRequest, HttpRequest.mk.injEq, bodyText, Option.map_some,
        Option.some.injEq, true_and] at heq
      have hpayload := stringify_injective (String.ofList_injective heq.2)
      have hmember := hsquads left
      rw [hpayload, hsquads right] at hmember
      have hinj : Function.Injective Json.str := fun _ _ => Json.str.inj
      exact (hinj.list_map (Json.arr.inj (Option.some.inj hmember))).symm

/-- Without a squad `createUser` throws. -/
theorem createUser_refuses {params : CreateUserParams} {client : Client}
    (hnone : client.cfg.squadUuids = []) (world : World) (user : PanelUser) :
    (createUser net params client world).result ≠ .ok user := by
  have hrefused : isRefused client.cfg = true := by rw [isRefused, hnone]; rfl
  rw [createUser, ne_eq, bind_result_ok]
  rintro ⟨_, hclient, hresult⟩
  cases hclient
  rw [hrefused] at hresult
  cases hresult

end Requests

/-! ## The two construction paths -/

/-- A client built from the fallback sends the constructor's list of the
variable, and refuses to create a user where that list is empty. -/
def ScopesAgree (value : Option String) : Prop :=
  ∀ env client, env.remnawaveSquadUuids = value →
    fallbackClient env = .ok client →
      ∀ (World : Type) (net : Network Failure World) params world,
        (createUser net params client world).requests =
            requestsWith (splitCsv value) client params ∧
          (splitCsv value = [] →
            ∀ user, (createUser net params client world).result ≠ .ok user)

/-- A panel that never answers. -/
def deadNet : Network Failure Unit where
  fetch _ world := (.error (.error "fetch failed"), world)
  now _ := 0

/-- An environment that configures a client, with this squad list. -/
def remnawaveEnv (value : Option String) : PanelEnv where
  remnawaveBaseUrl := some "https://panel"
  remnawaveToken := some "token"
  remnawaveSquadUuids := value

/-- What the agreement says about the lists. -/
theorem envSquads_of_scopesAgree {value : Option String}
    (hagree : ScopesAgree value) :
    envSquads (remnawaveEnv value) = splitCsv value := by
  obtain ⟨client, hclient⟩ : ∃ client,
      fallbackClient (remnawaveEnv value) = .ok client := ⟨_, rfl⟩
  have hsent := (hagree _ client rfl hclient Unit deadNet
    ⟨"user", 0, none, [], []⟩ ()).1
  rw [requests_createUser, squadUuids_fallbackClient hclient] at hsent
  exact requestsWith_injective hsent

theorem scopesAgree_iff (value : Option String) :
    ScopesAgree value ↔ IsPlainList value := by
  constructor
  · intro hagree
    exact (envSquads_eq_splitCsv_iff (remnawaveEnv value)).mp
      (envSquads_of_scopesAgree hagree)
  · rintro hplain env client rfl hclient World net params world
    have hsquads := squadUuids_fallbackClient hclient
    rw [(envSquads_eq_splitCsv_iff env).mpr hplain] at hsquads
    refine ⟨by rw [requests_createUser, hsquads], fun hnone user => ?_⟩
    exact createUser_refuses net (hsquads.trans hnone) world user

/-- A list of blanks and commas is sent as two squads. -/
theorem blank_squads_sent : ¬ ScopesAgree (some " , ") := by
  intro hagree
  exact absurd (envSquads_of_scopesAgree hagree) (by decide +kernel)

end VpnMiddleware.SquadLists
