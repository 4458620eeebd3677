import ParakoId.Library.Json

/-!
The field lists of `TenantSettingsOverrideService`. A dotted path is the list of its
segments, `path.split('.')`.
-/

namespace ParakoId.TenantOverrides

open Json (Path)

def ALLOWED_TENANT_FIELDS : List Path := [
  ["application", "title"],
  ["application", "description"],
  ["application", "locales", "default"],
  ["application", "locales", "available"],
  ["branding", "companyName"],
  ["branding", "logo"],
  ["branding", "logoDark"],
  ["branding", "logoIcon"],
  ["branding", "logoIconDark"],
  ["branding", "favicon"],
  ["branding", "fonts", "sans"],
  ["branding", "fonts", "heading"],
  ["branding", "fonts", "mono"],
  ["branding", "colors", "light", "primary"],
  ["branding", "colors", "light", "primaryForeground"],
  ["branding", "colors", "light", "secondary"],
  ["branding", "colors", "light", "secondaryForeground"],
  ["branding", "colors", "light", "accent"],
  ["branding", "colors", "light", "accentForeground"],
  ["branding", "colors", "light", "destructive"],
  ["branding", "colors", "light", "destructiveForeground"],
  ["branding", "colors", "light", "success"],
  ["branding", "colors", "light", "successForeground"],
  ["branding", "colors", "light", "warning"],
  ["branding", "colors", "light", "warningForeground"],
  ["branding", "colors", "light", "info"],
  ["branding", "colors", "light", "infoForeground"],
  ["branding", "colors", "light", "background"],
  ["branding", "colors", "light", "foreground"],
  ["branding", "colors", "light", "card"],
  ["branding", "colors", "light", "cardForeground"],
  ["branding", "colors", "light", "popover"],
  ["branding", "colors", "light", "popoverForeground"],
  ["branding", "colors", "light", "muted"],
  ["branding", "colors", "light", "mutedForeground"],
  ["branding", "colors", "light", "border"],
  ["branding", "colors", "light", "input"],
  ["branding", "colors", "light", "ring"],
  ["branding", "colors", "light", "sidebar"],
  ["branding", "colors", "light", "sidebarForeground"],
  ["branding", "colors", "light", "sidebarPrimary"],
  ["branding", "colors", "light", "sidebarPrimaryForeground"],
  ["branding", "colors", "light", "sidebarAccent"],
  ["branding", "colors", "light", "sidebarAccentForeground"],
  ["branding", "colors", "light", "sidebarBorder"],
  ["branding", "colors", "light", "sidebarRing"],
  ["branding", "colors", "dark", "primary"],
  ["branding", "colors", "dark", "primaryForeground"],
  ["branding", "colors", "dark", "secondary"],
  ["branding", "colors", "dark", "secondaryForeground"],
  ["branding", "colors", "dark", "accent"],
  ["branding", "colors", "dark", "accentForeground"],
  ["branding", "colors", "dark", "destructive"],
  ["branding", "colors", "dark", "destructiveForeground"],
  ["branding", "colors", "dark", "success"],
  ["branding", "colors", "dark", "successForeground"],
  ["branding", "colors", "dark", "warning"],
  ["branding", "colors", "dark", "warningForeground"],
  ["branding", "colors", "dark", "info"],
  ["branding", "colors", "dark", "infoForeground"],
  ["branding", "colors", "dark", "background"],
  ["branding", "colors", "dark", "foreground"],
  ["branding", "colors", "dark", "card"],
  ["branding", "colors", "dark", "cardForeground"],
  ["branding", "colors", "dark", "popover"],
  ["branding", "colors", "dark", "popoverForeground"],
  ["branding", "colors", "dark", "muted"],
  ["branding", "colors", "dark", "mutedForeground"],
  ["branding", "colors", "dark", "border"],
  ["branding", "colors", "dark", "input"],
  ["branding", "colors", "dark", "ring"],
  ["branding", "colors", "dark", "sidebar"],
  ["branding", "colors", "dark", "sidebarForeground"],
  ["branding", "colors", "dark", "sidebarPrimary"],
  ["branding", "colors", "dark", "sidebarPrimaryForeground"],
  ["branding", "colors", "dark", "sidebarAccent"],
  ["branding", "colors", "dark", "sidebarAccentForeground"],
  ["branding", "colors", "dark", "sidebarBorder"],
  ["branding", "colors", "dark", "sidebarRing"],
  ["security", "authentication", "multi_factor", "enabled"],
  ["security", "authentication", "multi_factor", "totp", "enabled"],
  ["security", "authentication", "multi_factor", "totp", "issuer_name"],
  ["security", "authentication", "multi_factor", "email", "enabled"],
  ["security", "authentication", "multi_factor", "email", "code_ttl_seconds"],
  ["security", "authentication", "multi_factor", "sms", "enabled"],
  ["security", "authentication", "multi_factor", "webauthn", "enabled"],
  ["security", "authentication", "multi_factor", "webauthn", "rp_name"],
  ["security", "authentication", "multi_factor", "webauthn", "timeout"],
  ["security", "authentication", "multi_factor", "webauthn", "user_verification"],
  ["security", "authentication", "multi_factor", "webauthn", "authenticator_attachment"],
  ["security", "authentication", "multi_factor", "webauthn", "resident_key"],
  ["security", "authentication", "multi_factor", "webauthn", "max_credentials_per_user"],
  ["security", "authentication", "session_management", "multiple_accounts", "enabled"],
  ["security", "authentication", "session", "bind_ip"],
  ["security", "authentication", "session", "bind_user_agent"],
  ["security", "authentication", "session", "bind_device"],
  ["security", "authentication", "session", "idle_timeout_minutes"],
  ["security", "authentication", "session", "absolute_timeout_hours"],
  ["security", "authentication", "session", "max_concurrent_sessions"],
  ["security", "authentication", "session", "max_accounts_per_session"],
  ["security", "authentication", "session", "encrypt_session_data"],
  ["security", "authentication", "session", "notify_new_session"],
  ["security", "authentication", "session", "require_reauth_on_switch"],
  ["security", "authentication", "session", "require_2fa_for_new_device"],
  ["security", "authentication", "session", "new_device_2fa_method"],
  ["security", "authentication", "session", "new_device_confidence_threshold"],
  ["security", "authentication", "login", "login_methods"],
  ["security", "authentication", "login", "password_policy", "min_length"],
  ["security", "authentication", "login", "password_policy", "require_uppercase"],
  ["security", "authentication", "login", "password_policy", "require_lowercase"],
  ["security", "authentication", "login", "password_policy", "require_numbers"],
  ["security", "authentication", "login", "password_policy", "require_symbols"],
  ["security", "authentication", "login", "password_policy", "max_age_days"],
  ["security", "authentication", "signup", "signup_methods"],
  ["security", "authentication", "signup", "require_email_verification"],
  ["security", "authentication", "signup", "require_phone_verification"],
  ["security", "authentication", "signup", "auto_approval", "enabled"],
  ["security", "authentication", "signup", "auto_approval", "domains_whitelist"],
  ["security", "authentication", "signup", "contact_channels"],
  ["security", "authentication", "roles", "default"],
  ["security", "authentication", "custom_identifiers"],
  ["security", "authentication", "recovery"],
  ["security", "protection", "rate_limiting", "enabled"],
  ["security", "protection", "rate_limiting", "requests_per_minute"],
  ["security", "protection", "rate_limiting", "window_minutes"],
  ["security", "protection", "high_risk_countries"],
  ["security", "protection", "encrypt_device_data"],
  ["security", "protection", "device_matching", "min_confidence_score"],
  ["security", "protection", "device_matching", "ip_similarity_threshold"],
  ["security", "protection", "device_matching", "impossible_travel_max_speed_kmh"],
  ["security", "protection", "device_matching", "trust_duration_days"],
  ["features", "social_providers", "enabled"],
  ["features", "social_providers", "behavior"],
  ["features", "social_providers", "google", "client_id"],
  ["features", "social_providers", "google", "client_secret"],
  ["features", "social_providers", "github", "client_id"],
  ["features", "social_providers", "github", "client_secret"],
  ["features", "social_providers", "microsoft", "client_id"],
  ["features", "social_providers", "microsoft", "client_secret"],
  ["features", "social_providers", "linkedin", "client_id"],
  ["features", "social_providers", "linkedin", "client_secret"],
  ["features", "social_providers", "facebook", "client_id"],
  ["features", "social_providers", "facebook", "client_secret"],
  ["oidc", "discovery", "claims_locales_supported"],
  ["oidc", "discovery", "display_values_supported"],
  ["oidc", "discovery", "service_documentation"],
  ["oidc", "discovery", "op_policy_uri"],
  ["oidc", "discovery", "op_tos_uri"],
  ["oidc", "token_ttl", "access_token"],
  ["oidc", "token_ttl", "authorization_code"],
  ["oidc", "token_ttl", "backchannel_auth"],
  ["oidc", "token_ttl", "client_credentials"],
  ["oidc", "token_ttl", "device_code"],
  ["oidc", "token_ttl", "grant"],
  ["oidc", "token_ttl", "id_token"],
  ["oidc", "token_ttl", "interaction"],
  ["oidc", "token_ttl", "refresh_token"],
  ["oidc", "token_ttl", "session"],
  ["integrations", "email", "smtp_host"],
  ["integrations", "email", "smtp_port"],
  ["integrations", "email", "smtp_username"],
  ["integrations", "email", "smtp_password"],
  ["integrations", "email", "from"],
  ["integrations", "email", "tls_reject_unauthorized"],
  ["integrations", "urls", "website"],
  ["integrations", "urls", "privacy_policy"],
  ["integrations", "urls", "terms_of_service"],
  ["integrations", "urls", "contact"],
  ["notifications", "channels", "email", "enabled"],
  ["notifications", "channels", "sms", "enabled"],
  ["notifications", "channels", "sms", "provider"],
  ["notifications", "channels", "sms", "api_key"],
  ["notifications", "channels", "sms", "api_secret"],
  ["notifications", "channels", "sms", "from_number"],
  ["notifications", "channels", "sms", "rate_limits", "per_phone_per_hour"],
  ["notifications", "channels", "sms", "rate_limits", "per_ip_per_day"],
  ["notifications", "channels", "sms", "rate_limits", "cooldown_seconds"],
  ["notifications", "defaults", "security_alerts"],
  ["notifications", "defaults", "new_session_alerts"],
  ["notifications", "defaults", "allow_user_preferences"]]

def ALLOWED_OVERRIDE_SECTIONS : List String := [
  "application",
  "branding",
  "security",
  "features",
  "oidc",
  "integrations",
  "notifications"]

def TENANT_SENSITIVE_FIELDS : List Path := [
  ["integrations", "email", "smtp_password"],
  ["notifications", "channels", "sms", "api_key"],
  ["notifications", "channels", "sms", "api_secret"],
  ["features", "social_providers", "google", "client_secret"],
  ["features", "social_providers", "github", "client_secret"],
  ["features", "social_providers", "microsoft", "client_secret"],
  ["features", "social_providers", "linkedin", "client_secret"],
  ["features", "social_providers", "facebook", "client_secret"]]

inductive FloorType
  | boolean
  | numeric
  deriving DecidableEq

def FLOOR_CONSTRAINTS : List (Path × FloorType) := [
  (["security", "authentication", "multi_factor", "enabled"], .boolean),
  (["security", "authentication", "multi_factor", "totp", "enabled"], .boolean),
  (["security", "authentication", "multi_factor", "email", "enabled"], .boolean),
  (["security", "authentication", "multi_factor", "sms", "enabled"], .boolean),
  (["security", "authentication", "multi_factor", "webauthn", "enabled"], .boolean),
  (["security", "authentication", "login", "password_policy", "require_uppercase"], .boolean),
  (["security", "authentication", "login", "password_policy", "require_lowercase"], .boolean),
  (["security", "authentication", "login", "password_policy", "require_numbers"], .boolean),
  (["security", "authentication", "login", "password_policy", "require_symbols"], .boolean),
  (["security", "authentication", "signup", "require_email_verification"], .boolean),
  (["security", "authentication", "signup", "require_phone_verification"], .boolean),
  (["security", "authentication", "session", "bind_ip"], .boolean),
  (["security", "authentication", "session", "bind_user_agent"], .boolean),
  (["security", "authentication", "session", "bind_device"], .boolean),
  (["security", "authentication", "session", "encrypt_session_data"], .boolean),
  (["security", "authentication", "session", "require_reauth_on_switch"], .boolean),
  (["security", "authentication", "session", "require_2fa_for_new_device"], .boolean),
  (["security", "protection", "encrypt_device_data"], .boolean),
  (["security", "protection", "rate_limiting", "enabled"], .boolean),
  (["security", "authentication", "login", "password_policy", "min_length"], .numeric),
  (["security", "protection", "device_matching", "min_confidence_score"], .numeric),
  (["security", "protection", "device_matching", "ip_similarity_threshold"], .numeric),
  (["security", "authentication", "session", "new_device_confidence_threshold"], .numeric)]

def CEILING_CONSTRAINTS : List Path := [
  ["security", "authentication", "multi_factor", "email", "code_ttl_seconds"],
  ["security", "authentication", "multi_factor", "webauthn", "max_credentials_per_user"],
  ["security", "authentication", "login", "password_policy", "max_age_days"],
  ["security", "authentication", "session", "idle_timeout_minutes"],
  ["security", "authentication", "session", "absolute_timeout_hours"],
  ["security", "authentication", "session", "max_concurrent_sessions"],
  ["security", "authentication", "session", "max_accounts_per_session"],
  ["security", "protection", "rate_limiting", "requests_per_minute"],
  ["security", "protection", "rate_limiting", "window_minutes"],
  ["security", "protection", "device_matching", "impossible_travel_max_speed_kmh"],
  ["security", "protection", "device_matching", "trust_duration_days"],
  ["oidc", "token_ttl", "access_token"],
  ["oidc", "token_ttl", "authorization_code"],
  ["oidc", "token_ttl", "backchannel_auth"],
  ["oidc", "token_ttl", "client_credentials"],
  ["oidc", "token_ttl", "device_code"],
  ["oidc", "token_ttl", "grant"],
  ["oidc", "token_ttl", "id_token"],
  ["oidc", "token_ttl", "interaction"],
  ["oidc", "token_ttl", "refresh_token"],
  ["oidc", "token_ttl", "session"],
  ["notifications", "channels", "sms", "rate_limits", "per_phone_per_hour"],
  ["notifications", "channels", "sms", "rate_limits", "per_ip_per_day"],
  ["notifications", "channels", "sms", "rate_limits", "cooldown_seconds"]]

def ZERO_MEANS_UNLIMITED : List Path := [
  ["security", "authentication", "session", "max_concurrent_sessions"],
  ["security", "authentication", "session", "idle_timeout_minutes"],
  ["security", "authentication", "session", "absolute_timeout_hours"]]

def USER_VERIFICATION_ORDER : List String := ["discouraged", "preferred", "required"]

def NIST_MIN_PASSWORD_LENGTH : JsNumber := 8

def MASKED_SENTINEL : String := "**masked**"

def pwLenPath : Path := ["security", "authentication", "login", "password_policy", "min_length"]

def uvPath : Path :=
  ["security", "authentication", "multi_factor", "webauthn", "user_verification"]

end ParakoId.TenantOverrides
