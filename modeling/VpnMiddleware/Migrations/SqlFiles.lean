import VpnMiddleware.Migrations.DataDefinition

/-!
# The migration files

`schema.sql` and the files under `migrations`, statement by statement.
-/

namespace VpnMiddleware.SqlFiles

open VpnMiddleware.DataDefinition

structure File where
  name : String
  statements : List Ddl
  /-- The statements stand between `begin;` and `commit;`. -/
  ownTransaction : Bool := false

/-- `id uuid primary key`. -/
def idColumn : Column := ⟨"id", "uuid", true, none⟩

/-- `id bigint generated always as identity primary key`. -/
def identityColumn : Column := ⟨"id", "bigint", true, none⟩

def required (name type : String) : Column := ⟨name, type, true, none⟩

def nullable (name type : String) : Column := ⟨name, type, false, none⟩

/-! ## schema.sql -/

def enums : List Ddl :=
  [.createType "user_status" ["active", "suspended", "deleted"],
    .createType "plan_tier" ["free", "premium"],
    .createType "subscription_status" ["active", "in_grace", "on_hold", "paused",
      "canceled", "expired", "revoked"],
    .createType "subscription_source" ["google_play", "app_store", "promo",
      "internal"],
    .createType "device_platform" ["android", "ios"],
    .createType "device_status" ["active", "blocked"],
    .createType "session_status" ["provisioning", "active", "limited", "expired",
      "revoked", "closed", "failed"],
    .createType "node_status" ["active", "draining", "disabled"],
    .createType "panel_op_status" ["pending", "in_flight", "succeeded", "failed",
      "dead"],
    .createType "attestation_purpose" ["device_register", "connect", "iap_link"]]

def users : Table where
  name := "users"
  columns :=
    [idColumn, nullable "email" "citext", nullable "password_hash" "text",
      required "is_anonymous" "boolean", required "status" "user_status",
      required "created_at" "timestamptz", required "updated_at" "timestamptz",
      nullable "deleted_at" "timestamptz"]

def devices : Table where
  name := "devices"
  columns :=
    [idColumn, ⟨"user_id", "uuid", true, some "users"⟩,
      required "platform" "device_platform", required "install_id" "text",
      nullable "app_version" "text", required "status" "device_status",
      nullable "integrity_level" "smallint",
      nullable "last_integrity_verdict" "jsonb",
      nullable "app_attest_key_id" "text",
      nullable "app_attest_public_key" "bytea",
      required "app_attest_counter" "bigint",
      nullable "app_attest_receipt" "bytea",
      required "attestation_capable" "boolean",
      nullable "rooted_indicator" "boolean",
      nullable "last_attested_at" "timestamptz",
      required "created_at" "timestamptz", required "updated_at" "timestamptz"]

def attestationChallenges : Table where
  name := "attestation_challenges"
  columns :=
    [idColumn, ⟨"device_id", "uuid", false, some "devices"⟩,
      required "purpose" "attestation_purpose", required "challenge" "bytea",
      required "expires_at" "timestamptz", nullable "consumed_at" "timestamptz",
      required "created_at" "timestamptz"]

def refreshTokens : Table where
  name := "refresh_tokens"
  columns :=
    [idColumn, ⟨"user_id", "uuid", true, some "users"⟩,
      ⟨"device_id", "uuid", true, some "devices"⟩, required "family_id" "uuid",
      required "token_hash" "bytea", required "issued_at" "timestamptz",
      required "expires_at" "timestamptz",
      ⟨"rotated_from", "uuid", false, some "refresh_tokens"⟩,
      nullable "revoked_at" "timestamptz", nullable "revoke_reason" "text"]

def identity : List Ddl :=
  [.createTable false users, .createTable false devices,
    .createIndex false ⟨"devices_user_idx", "devices", ["user_id"]⟩,
    .createIndex false
      ⟨"devices_app_attest_key_uq", "devices", ["app_attest_key_id"]⟩,
    .createFunction "enforce_attest_counter_monotonic" [],
    .createTrigger "devices_attest_counter_monotonic" "devices"
      "enforce_attest_counter_monotonic",
    .createTable false attestationChallenges,
    .createIndex false ⟨"attestation_challenges_open_idx",
      "attestation_challenges", ["device_id", "purpose"]⟩,
    .createTable false refreshTokens,
    .createIndex false ⟨"refresh_tokens_live_idx", "refresh_tokens", ["user_id"]⟩,
    .createIndex false
      ⟨"refresh_tokens_family_idx", "refresh_tokens", ["family_id"]⟩,
    .createIndex false
      ⟨"refresh_tokens_device_idx", "refresh_tokens", ["device_id"]⟩]

def plans : Table where
  name := "plans"
  columns :=
    [idColumn, required "code" "text", required "tier" "plan_tier",
      required "max_devices" "smallint",
      required "max_concurrent_sessions" "smallint",
      required "session_ttl_seconds" "integer",
      nullable "daily_data_limit_bytes" "bigint",
      required "store_product_ids" "text[]", required "is_active" "boolean",
      required "created_at" "timestamptz"]

def subscriptions : Table where
  name := "subscriptions"
  columns :=
    [idColumn, ⟨"user_id", "uuid", true, some "users"⟩,
      ⟨"plan_id", "uuid", true, some "plans"⟩,
      required "source" "subscription_source",
      required "status" "subscription_status",
      nullable "current_period_start" "timestamptz",
      nullable "current_period_end" "timestamptz",
      nullable "auto_renewing" "boolean",
      nullable "google_purchase_token" "text",
      nullable "google_linked_purchase_token" "text",
      nullable "google_acknowledged_at" "timestamptz",
      nullable "apple_original_transaction_id" "text",
      nullable "apple_app_account_token" "uuid",
      nullable "grace_period_end" "timestamptz",
      nullable "latest_store_payload" "jsonb",
      required "created_at" "timestamptz", required "updated_at" "timestamptz"]

def storeNotifications : Table where
  name := "store_notifications"
  columns :=
    [idColumn, required "source" "subscription_source",
      required "dedupe_key" "text", required "event_type" "text",
      required "raw" "jsonb", required "received_at" "timestamptz",
      nullable "processed_at" "timestamptz", nullable "error" "text",
      required "expires_at" "timestamptz"]

def entitlements : List Ddl :=
  [.createTable false plans, .createTable false subscriptions,
    .createIndex false
      ⟨"subscriptions_google_uq", "subscriptions", ["google_purchase_token"]⟩,
    .createIndex false ⟨"subscriptions_apple_uq", "subscriptions",
      ["apple_original_transaction_id"]⟩,
    .createIndex false
      ⟨"subscriptions_user_idx", "subscriptions", ["user_id", "status"]⟩,
    .createIndex false ⟨"subscriptions_google_linked_idx", "subscriptions",
      ["google_linked_purchase_token"]⟩,
    .createIndex false
      ⟨"subscriptions_unacked_idx", "subscriptions", ["created_at"]⟩,
    .createTable false storeNotifications,
    .createIndex false ⟨"store_notifications_unprocessed_idx",
      "store_notifications", ["received_at"]⟩,
    .createFunction "effective_tier" ["subscriptions", "plans"]]

def nodes : Table where
  name := "nodes"
  columns :=
    [idColumn, nullable "panel_node_id" "text", required "name" "text",
      required "country_code" "char(2)", nullable "city" "text",
      required "tier" "plan_tier", required "status" "node_status",
      required "is_active" "boolean", required "error_streak" "integer",
      required "capacity" "integer", required "current_load" "real",
      required "sort_weight" "integer", nullable "last_synced_at" "timestamptz",
      required "created_at" "timestamptz", required "updated_at" "timestamptz"]

def nodeInbounds : Table where
  name := "node_inbounds"
  columns :=
    [idColumn, ⟨"node_id", "uuid", true, some "nodes"⟩,
      required "inbound_tag" "text", required "protocol" "text",
      required "tier" "plan_tier"]

def nodeEndpoints : Table where
  name := "node_endpoints"
  columns :=
    [idColumn, ⟨"node_id", "uuid", true, some "nodes"⟩,
      required "inbound_tag" "text", required "address" "text",
      required "port" "integer", required "security" "jsonb",
      required "is_active" "boolean", required "updated_at" "timestamptz"]

def vpnSessions : Table where
  name := "vpn_sessions"
  columns :=
    [idColumn, ⟨"user_id", "uuid", true, some "users"⟩,
      ⟨"device_id", "uuid", true, some "devices"⟩,
      ⟨"node_id", "uuid", true, some "nodes"⟩, required "tier" "plan_tier",
      required "status" "session_status", required "panel_username" "text",
      required "credential_ref" "uuid", required "expires_at" "timestamptz",
      nullable "last_heartbeat_at" "timestamptz", required "bytes_used" "bigint",
      required "created_at" "timestamptz", nullable "activated_at" "timestamptz",
      nullable "closed_at" "timestamptz", nullable "close_reason" "text"]

def dailyUsage : Table where
  name := "daily_usage"
  columns :=
    [⟨"user_id", "uuid", true, some "users"⟩, required "day" "date",
      required "bytes_used" "bigint"]

def panelOperations : Table where
  name := "panel_operations"
  columns :=
    [identityColumn, ⟨"session_id", "uuid", false, some "vpn_sessions"⟩,
      required "op" "text", required "payload" "jsonb",
      required "status" "panel_op_status", required "attempts" "integer",
      required "next_attempt_at" "timestamptz", nullable "last_error" "text",
      required "created_at" "timestamptz", nullable "completed_at" "timestamptz"]

def auditEvents : Table where
  name := "audit_events"
  columns :=
    [identityColumn, nullable "user_id" "uuid", nullable "device_id" "uuid",
      required "event" "text", nullable "ip" "inet", nullable "meta" "jsonb",
      required "created_at" "timestamptz"]

def systemSettings : Table where
  name := "system_settings"
  columns :=
    [required "key" "text", required "value" "jsonb",
      required "updated_at" "timestamptz"]

def operations : List Ddl :=
  [.createTable false nodes, .createTable false nodeInbounds,
    .createTable false nodeEndpoints,
    .createIndex false
      ⟨"node_endpoints_active_idx", "node_endpoints", ["node_id"]⟩,
    .createTable false vpnSessions,
    .createIndex false
      ⟨"vpn_sessions_one_live_per_device", "vpn_sessions", ["device_id"]⟩,
    .createIndex false
      ⟨"vpn_sessions_live_user_idx", "vpn_sessions", ["user_id"]⟩,
    .createIndex false
      ⟨"vpn_sessions_reaper_idx", "vpn_sessions", ["expires_at", "id"]⟩,
    .createTable false dailyUsage, .createTable false panelOperations,
    .createIndex false ⟨"panel_operations_due_idx", "panel_operations",
      ["next_attempt_at", "id"]⟩,
    .createIndex false
      ⟨"panel_operations_session_idx", "panel_operations", ["session_id"]⟩,
    .createTable false auditEvents,
    .createIndex false
      ⟨"audit_events_user_idx", "audit_events", ["user_id", "created_at"]⟩,
    .createIndex false
      ⟨"audit_events_event_idx", "audit_events", ["event", "created_at"]⟩,
    .createTable false systemSettings]

def schema : File where
  name := "schema.sql"
  statements :=
    [.createExtension "citext", .createExtension "pgcrypto"] ++ enums ++
      identity ++ entitlements ++ operations

/-! ## migrations -/

def remnawaveNodeId : File where
  name := "0001_remnawave_node_id.sql"
  statements :=
    [.setType "nodes" "panel_node_id" "text"]

def systemSettingsFile : File where
  name := "0002_system_settings.sql"
  statements :=
    [.createTable true systemSettings]

def adRewardGrants : Table where
  name := "ad_reward_grants"
  columns :=
    [idColumn, ⟨"user_id", "uuid", true, some "users"⟩,
      ⟨"device_id", "uuid", true, some "devices"⟩,
      ⟨"session_id", "uuid", false, some "vpn_sessions"⟩,
      required "purpose" "ad_grant_purpose", required "nonce" "text",
      required "required_ads" "smallint", required "verified_ads" "smallint",
      required "grant_minutes" "smallint", required "status" "ad_grant_status",
      required "issued_at" "timestamptz", required "expires_at" "timestamptz",
      nullable "fulfilled_at" "timestamptz", nullable "consumed_at" "timestamptz"]

def adRewards : Table where
  name := "ad_rewards"
  columns :=
    [idColumn, ⟨"grant_id", "uuid", true, some "ad_reward_grants"⟩,
      required "network" "ad_network", required "transaction_id" "text",
      nullable "ad_unit" "text", nullable "reward_item" "text",
      nullable "reward_amount" "integer", nullable "signature_key_id" "text",
      required "status" "ad_reward_status", required "verified_at" "timestamptz",
      nullable "raw" "jsonb"]

def timeBasedRewards : File where
  name := "0002_time_based_rewards.sql"
  statements :=
    [.dropTable "daily_usage", .dropColumn "plans" "daily_data_limit_bytes",
      .createType "ad_grant_purpose" ["connect", "extend", "disconnect"],
      .createType "ad_grant_status" ["pending", "fulfilled", "consumed", "expired",
        "revoked"],
      .createType "ad_reward_status" ["verified", "consumed", "rejected"],
      .createType "ad_network" ["admob", "applovin", "unity", "ironsource"],
      .addColumns false "plans"
        [required "ads_required_connect" "smallint",
          required "ads_required_extend" "smallint",
          required "ads_required_disconnect" "smallint",
          required "grant_minutes" "smallint",
          required "max_session_minutes" "integer"],
      .createTable false adRewardGrants,
      .createIndex false
        ⟨"ad_reward_grants_user_idx", "ad_reward_grants", ["user_id", "status"]⟩,
      .createIndex false
        ⟨"ad_reward_grants_open_idx", "ad_reward_grants", ["expires_at"]⟩,
      .createTable false adRewards,
      .createIndex false ⟨"ad_rewards_grant_idx", "ad_rewards", ["grant_id"]⟩,
      .addColumns false "vpn_sessions"
        [⟨"last_ad_grant_id", "uuid", false, some "ad_reward_grants"⟩,
          required "extensions_count" "integer",
          nullable "last_panel_sync_at" "timestamptz"],
      .commentOnColumn "vpn_sessions" "expires_at"]
  ownTransaction := true

def attestationAttempts : Table where
  name := "attestation_attempts"
  columns :=
    [identityColumn, ⟨"device_id", "uuid", false, some "devices"⟩,
      nullable "platform" "device_platform", required "outcome" "text",
      nullable "reason" "text", nullable "ip" "inet",
      required "created_at" "timestamptz"]

def deviceAttestation : File where
  name := "0003_device_attestation.sql"
  statements :=
    [.addColumns true "devices"
        [required "is_attested" "boolean", nullable "attested_until" "timestamptz",
          nullable "attested_client_public_key" "bytea"],
      .createIndex true ⟨"devices_attested_idx", "devices", ["id"]⟩,
      .createTable true attestationAttempts,
      .createIndex false ⟨"attestation_attempts_device_idx",
        "attestation_attempts", ["device_id", "created_at"]⟩,
      .createIndex false ⟨"attestation_attempts_rejected_idx",
        "attestation_attempts", ["created_at"]⟩]

def sessionInbound : File where
  name := "0004_session_inbound.sql"
  statements :=
    [.addColumns true "vpn_sessions"
      [nullable "inbound_tag" "text", nullable "protocol" "text",
        nullable "client_public_key" "bytea"]]

def authLockout : File where
  name := "0005_auth_lockout.sql"
  statements :=
    [.addColumns true "users"
      [required "failed_login_count" "integer",
        nullable "locked_until" "timestamptz"]]

def adminRoles : File where
  name := "0006_admin_roles.sql"
  statements :=
    [.createTypeIfMissing "user_role" ["user", "admin"],
      .addColumns true "users"
        [required "role" "user_role", required "is_banned" "boolean"],
      .createIndex true ⟨"users_admin_idx", "users", ["id"]⟩,
      .createIndex true ⟨"users_banned_idx", "users", ["id"]⟩]

def adminAuditLogs : Table where
  name := "admin_audit_logs"
  columns :=
    [idColumn, ⟨"admin_id", "uuid", false, some "users"⟩,
      required "action_type" "admin_action_type", nullable "target_id" "uuid",
      required "details" "jsonb", nullable "ip_address" "inet",
      required "created_at" "timestamptz"]

def adminAuditLog : File where
  name := "0007_admin_audit_log.sql"
  statements :=
    [.createTypeIfMissing "admin_action_type" ["KICK_SESSION", "BAN_USER",
        "UNBAN_USER", "CHANGE_TIER", "PANIC_FREE_SESSIONS"],
      .createTable true adminAuditLogs,
      .createIndex true
        ⟨"admin_audit_logs_created_brin", "admin_audit_logs", ["created_at"]⟩,
      .createIndex true ⟨"admin_audit_logs_action_time", "admin_audit_logs",
        ["action_type", "created_at"]⟩,
      .createIndex true ⟨"admin_audit_logs_admin_time", "admin_audit_logs",
        ["admin_id", "created_at"]⟩]

def adminSessions : File where
  name := "0008_admin_sessions.sql"
  statements :=
    [.dropNotNull "refresh_tokens" "device_id"]

def nodeDrain : File where
  name := "0009_node_drain.sql"
  statements :=
    [.addColumns true "nodes" [required "is_active" "boolean"],
      .createIndex true ⟨"nodes_active_idx", "nodes", ["id"]⟩,
      .addValue "admin_action_type" "SET_NODE_STATUS"]

def forceMigrate : File where
  name := "0010_force_migrate.sql"
  statements :=
    [.addValue "admin_action_type" "FORCE_MIGRATE_NODE"]

def panelNodeIdText : File where
  name := "0011_panel_node_id_text.sql"
  statements :=
    [.setType "nodes" "panel_node_id" "text",
      .commentOnColumn "nodes" "panel_node_id"]

/-- `/db/schema.sql`, then `/db/migrations/*.sql` in lexical order. -/
def files : List File :=
  [schema, remnawaveNodeId, systemSettingsFile, timeBasedRewards,
    deviceAttestation, sessionInbound, authLockout, adminRoles, adminAuditLog,
    adminSessions, nodeDrain, forceMigrate, panelNodeIdText]

end VpnMiddleware.SqlFiles
