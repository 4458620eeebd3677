import ParakoId.KeyStore.CallSequences
import ParakoId.KeyStore.LastKey
import ParakoId.Recovery.FailureBound
import ParakoId.TenantScope.Isolation
import ParakoId.TenantScope.UpdateScope
import ParakoId.Settings.Loading
import ParakoId.ConfigManager.Atomicity
import ParakoId.TenantProviders.KeyRotation
import ParakoId.OidcStore.Agreement
import ParakoId.OidcStore.MongoIdentity
import ParakoId.Redirects.TrustedTargets
import ParakoId.Redirects.IntentUse
import ParakoId.ClientRegistry.Changes
import ParakoId.Recovery.LostLockouts
import ParakoId.SessionAccounts.Reauthentication
import ParakoId.SessionStore.Breaker
import ParakoId.SessionStore.LoginRoom
import ParakoId.SessionStore.Revocation
import ParakoId.SessionStore.Readability
import ParakoId.Accounts.OneTime
import ParakoId.Accounts.DeliveryFailures
import ParakoId.SecondFactors.Credentials
import ParakoId.SettingsVersions.Numbers
import ParakoId.SettingsVersions.Availability
import ParakoId.SocialAccounts.UniqueIdentities
import ParakoId.Activities.Accounting
import ParakoId.SocialRelay.Returns
import ParakoId.OidcFlows.AuthenticationTime
import ParakoId.OidcFlows.AuthenticationMethods
import ParakoId.UserRecords.RoundTrip
import ParakoId.ManagementApi.SigningKeys
import ParakoId.ManagementApi.TenantConfig
import ParakoId.ManagementApi.Enumeration
import ParakoId.SocialAccounts.SignInLimits
import ParakoId.PubSub.Delivery
import ParakoId.SignIn.GuessLimits
import ParakoId.Recovery.Reporting
import ParakoId.TenantOverrides.Projection
import ParakoId.SocialAccounts.Unlinking
import ParakoId.SecondFactors.RecoveryCooldown
import ParakoId.SocialAccounts.VerifiedEmails
import ParakoId.Recovery.AvailableMethods
import ParakoId.SignIn.RightAccounts
import ParakoId.SignIn.Consents
import ParakoId.CredentialChanges.EndedSessions
import ParakoId.Logout.CompleteLogout
import ParakoId.Recovery.AnswerNormalization
import ParakoId.TenantOverrides.StrippedSubtree
import ParakoId.Tenancy.HostSpelling
import ParakoId.Tenancy.RelyingParty
import ParakoId.Settings.ConfigDiffs
import ParakoId.SocialRelay.HmacStates
import ParakoId.Config.BootstrapFields
import ParakoId.SessionStore.SealedSessions
import ParakoId.SocialAccounts.Tokens
import ParakoId.DataTransfer.CsvRoundTrips
import ParakoId.Accounts.SmsLimits
import ParakoId.Settings.ConfigLock
import ParakoId.ClientRegistry.PublicKeys
import ParakoId.OidcFlows.AccountClaims
import ParakoId.OidcFlows.RefreshTokens
import ParakoId.Middlewares.MongoSanitize
import ParakoId.Config.EnvInterpolation
import ParakoId.Activities.DeviceMatching
import ParakoId.Accounts.ProfileUpdates
