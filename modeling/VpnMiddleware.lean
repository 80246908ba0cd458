import VpnMiddleware.Core.TransitionSystem
import VpnMiddleware.Core.Table
import VpnMiddleware.Core.Transaction
import VpnMiddleware.Core.JsonText
import VpnMiddleware.Core.WebText
import VpnMiddleware.Core.Http
import VpnMiddleware.Schema.Types
import VpnMiddleware.Schema.UuidText
import VpnMiddleware.Common.Errors
import VpnMiddleware.Common.Environment
import VpnMiddleware.Common.Random
import VpnMiddleware.Schema.Database
import VpnMiddleware.Schema.Closing
import VpnMiddleware.Connection.ConfigBuilder
import VpnMiddleware.Connection.SessionConfigService
import VpnMiddleware.Panel.PanelTypes
import VpnMiddleware.Panel.IdealPanel
import VpnMiddleware.Panel.PanelHttp
import VpnMiddleware.Settings.SettingsService
import VpnMiddleware.Panel.RebeccaPanelClient
import VpnMiddleware.Panel.RemnawavePanelClient
import VpnMiddleware.Panel.DynamicPanelClient
import VpnMiddleware.Connection.ConnectionService
import VpnMiddleware.Connection.Credential
import VpnMiddleware.Attest.AttestedGuard
import VpnMiddleware.Ads.AdsService
import VpnMiddleware.Admin.AdminService
import VpnMiddleware.Workers.OutboxDrainer
import VpnMiddleware.Workers.NodeSync
import VpnMiddleware.Core.Pool
import VpnMiddleware.System.Shared
import VpnMiddleware.System.ConnectFlow
import VpnMiddleware.System.VerifyFlow
import VpnMiddleware.System.DrainFlow
import VpnMiddleware.System.Middleware
import VpnMiddleware.System.Statements
import VpnMiddleware.System.Frames
import VpnMiddleware.Core.Frame
import VpnMiddleware.System.Evolution
import VpnMiddleware.Invariants.Keys
import VpnMiddleware.Invariants.SessionLifecycle
import VpnMiddleware.Invariants.LeaseExclusivity
import VpnMiddleware.Invariants.OutboxStatus
import VpnMiddleware.Invariants.Entitlement
import VpnMiddleware.Invariants.Evacuation
import VpnMiddleware.Invariants.DisableBeforeMint
import VpnMiddleware.Invariants.Reactivation
import VpnMiddleware.Invariants.AdGrants
import VpnMiddleware.Invariants.Processes
import VpnMiddleware.Invariants.Funding
import VpnMiddleware.Invariants.Outbox
import VpnMiddleware.Invariants.PanelMirror
import VpnMiddleware.Invariants.PanelExpiry
import VpnMiddleware.Invariants.PanelGrant
import VpnMiddleware.Panel.AccessScope
import VpnMiddleware.Auth.AuthService
import VpnMiddleware.Auth.AuthSystem
import VpnMiddleware.Invariants.TokenFamilies
import VpnMiddleware.Core.Base64
import VpnMiddleware.Core.DateText
import VpnMiddleware.Connection.PayloadCipher
import VpnMiddleware.Client.ConnectionModels
import VpnMiddleware.Client.PayloadCrypto
import VpnMiddleware.Client.ConnectionFlow
import VpnMiddleware.Client.TunnelService
import VpnMiddleware.Invariants.PayloadRoundTrip
import VpnMiddleware.Connection.WireFormat
import VpnMiddleware.Invariants.WireAgreement
import VpnMiddleware.Invariants.CancelSafety
import VpnMiddleware.Invariants.TunnelSafety
import VpnMiddleware.Attest.PlayIntegrityVerifier
import VpnMiddleware.Attest.AppAttestVerifier
import VpnMiddleware.Attest.AttestService
import VpnMiddleware.Client.AttestationBridge
import VpnMiddleware.System.Registration
import VpnMiddleware.Invariants.KeyRegistration
import VpnMiddleware.Auth.LoginFlow
import VpnMiddleware.Invariants.Lockout
import VpnMiddleware.Admin.AdminController
import VpnMiddleware.Invariants.AuditTrail
import VpnMiddleware.Auth.TokenLineage
import VpnMiddleware.Invariants.Principals
import VpnMiddleware.Web.Dashboard
import VpnMiddleware.Invariants.SpentTokens
import VpnMiddleware.Invariants.HonestRefresh
import VpnMiddleware.System.VerifyCall
import VpnMiddleware.Invariants.ClaimedTime
import VpnMiddleware.Invariants.LapsedGrants
import VpnMiddleware.Invariants.Reregistration
import VpnMiddleware.Invariants.Displacement
import VpnMiddleware.Invariants.FailSafe
import VpnMiddleware.System.AttestedMiddleware
import VpnMiddleware.Invariants.SingleUse
import VpnMiddleware.Core.SqlSession
import VpnMiddleware.Migrations.DataDefinition
import VpnMiddleware.Migrations.SqlFiles
import VpnMiddleware.Migrations.Migrator
import VpnMiddleware.Invariants.CrashSafety
import VpnMiddleware.Core.RowLocks
import VpnMiddleware.System.LockSequences
import VpnMiddleware.Invariants.LockRings
import VpnMiddleware.Invariants.KeyBinding
import VpnMiddleware.System.PanelSwitch
import VpnMiddleware.Invariants.PanelIdentity
import VpnMiddleware.Core.LikePattern
import VpnMiddleware.Admin.UserSearch
import VpnMiddleware.Client.AttestationService
import VpnMiddleware.Invariants.BindingStrings
import VpnMiddleware.Admin.AdminStats
import VpnMiddleware.Invariants.EntitlementCopies
import VpnMiddleware.Invariants.NodeReconciliation
import VpnMiddleware.Common.AllExceptionsFilter
import VpnMiddleware.Client.ApiClient
import VpnMiddleware.Invariants.ErrorBodies
import VpnMiddleware.Client.AuthInterceptor
import VpnMiddleware.Invariants.TokenRetention
import VpnMiddleware.Core.SearchParams
import VpnMiddleware.Ads.AdMobSsvVerifier
import VpnMiddleware.Ads.AdsController
import VpnMiddleware.Invariants.SignedCallbacks
import VpnMiddleware.Invariants.CallbackStatus
import VpnMiddleware.Invariants.FailureTally
import VpnMiddleware.Workers.ReaperWorker
import VpnMiddleware.Invariants.Reaping
import VpnMiddleware.Core.Splitting
import VpnMiddleware.Panel.SquadLists
import VpnMiddleware.Web.NodeHealth
import VpnMiddleware.Core.Der
import VpnMiddleware.Attest.AppleNonce
import VpnMiddleware.Core.InetText
import VpnMiddleware.Admin.AuditIp
import VpnMiddleware.Core.NumberText
import VpnMiddleware.Panel.ExpiryEcho
import VpnMiddleware.Panel.ExpiryReadBack
import VpnMiddleware.Invariants.ConfirmedExpiry
import VpnMiddleware.Invariants.ExpiryEncodings
import VpnMiddleware.Web.AuditPage
import VpnMiddleware.Invariants.OutboxProgress
import VpnMiddleware.Invariants.RebeccaContract
import VpnMiddleware.Invariants.RemnawaveContract
import VpnMiddleware.Invariants.Accounts
import VpnMiddleware.Invariants.AdminAuthority
import VpnMiddleware.Invariants.FlowProtocol
import VpnMiddleware.Core.SharedPromise
import VpnMiddleware.Panel.ConcurrentCalls
import VpnMiddleware.Invariants.SingleFlight
import VpnMiddleware.Ads.ConcurrentVerify
import VpnMiddleware.Invariants.KeyFreshness
import VpnMiddleware.Client.AdMobRewardService
import VpnMiddleware.Invariants.RewardBinding
import VpnMiddleware.Client.PacketTunnel
import VpnMiddleware.Invariants.KeychainHygiene
