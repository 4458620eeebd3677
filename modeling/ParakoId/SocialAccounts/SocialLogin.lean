import ParakoId.Library.Calls
import ParakoId.SocialAccounts.Integrations

/-!
`BaseSocialLogin`: how a social account is linked to a user, and how one that a provider presents
is made a sign-in. Any call to the database may fail.
-/

namespace ParakoId.SocialAccounts

open Calls (Call throwIf)

structure ProviderUserData where
  sub : String
  email : Option String
  email_verified : Option Bool
  phone_number : Option String

structure SocialUser where
  _id : String
  email : Option String
  account_enabled : Bool

inductive ExistingUserNoIntegration
  | auto_link
  | require_manual_link

inductive NoUserAccount
  | allow_registration
  | require_existing_account

inductive MissingContactInfo
  | redirect_to_form
  | reject_login
  deriving DecidableEq

structure SocialBehaviorConfig where
  existingUserNoIntegration : ExistingUserNoIntegration
  noUserAccount : NoUserAccount
  missingContactInfo : MissingContactInfo
  allowMultipleProviders : Bool
  showHelpfulErrors : Bool
  maxProvidersPerUser : ℚ

structure SocialLoginResult where
  success : Bool
  user : Option SocialUser
  integration : Option SocialIntegration
  requiresLinking : Bool
  error : Option String
  providerData : Option ProviderUserData

namespace SocialLoginResult

def signedIn (user : SocialUser) (integration : SocialIntegration) : SocialLoginResult :=
  ⟨true, some user, some integration, false, none, none⟩

def failed (error : String) : SocialLoginResult := ⟨false, none, none, false, some error, none⟩

def linkingRequired (error : String) (providerData : ProviderUserData) : SocialLoginResult :=
  ⟨false, none, none, true, some error, some providerData⟩

end SocialLoginResult

structure SocialRequest where
  isRegistration : Bool
  active : Option String

def SocialRequest.hasOther (request : SocialRequest) (userId : String) : Bool :=
  request.active.any fun active => userId != active

inductive IntegrationUpdate
  | providerData
  | tokens
  | lastUsed
  | activation
  | deactivation

inductive CreationCall
  | findUser
  | findByUserAndMethod
  | findByProviderSub
  | create

inductive DatabaseCall
  | findByProviderSub
  | findByUserAndMethod
  | findByUserAndMethodIncludingInactive
  | findByUser
  | findUser
  | findUserByEmail
  | creating (call : CreationCall)
  | finding (update : IntegrationUpdate)
  | updating (update : IntegrationUpdate)

inductive ServiceError
  | database
  | message (text : String)

/-- What does not change from call to call: the order in which the database gives rows, what the
language says of texts and numbers, and the configuration. -/
structure SocialSetting where
  firstRow : Tables.FirstRow SocialIntegration
  firstUser : Tables.FirstRow SocialUser
  toLowerCase : String → String
  toText : ℚ → String
  config : SocialBehaviorConfig

/-- The circumstances of one call: which requests to the database fail, and the time. -/
structure Attempt where
  fails : DatabaseCall → Bool
  now : Nat

def Attempt.refusal (attempt : Attempt) (call : DatabaseCall) : Option ServiceError :=
  if attempt.fails call then some .database else none

abbrev ServiceCall (database : Database) := Call ServiceError (IntegrationTable database)

def Database.castEmail (toLowerCase : String → String) : Database → String → String
  | .mongodb, email => Schemas.trim (toLowerCase email)
  | _, email => email

section Users

variable (setting : SocialSetting) (users : List SocialUser)

def findUserById (id : String) : Option SocialUser :=
  setting.firstUser.pick (users.filter fun user => user._id == id)

def findUserByEmail (database : Database) (email : String) : Option SocialUser :=
  setting.firstUser.pick <| users.filter fun user =>
    user.email == some (database.castEmail setting.toLowerCase email) && user.account_enabled

end Users

section Lookups

variable {database : Database} (firstRow : Tables.FirstRow SocialIntegration)
  (table : IntegrationTable database)

def findByUserAndMethodIncludingInactive (userId : String) (method : IntegrationMethod) :
    Option SocialIntegration :=
  firstRow.pick (table.rows.filter fun row => row.user_id == userId && row.method == method)

def findByUser (userId : String) : List SocialIntegration :=
  table.rows.filter fun row => row.user_id == userId && row.is_active

end Lookups

section Service

variable {database : Database} (setting : SocialSetting) (users : List SocialUser)
  (attempt : Attempt)

def query {Answer : Type} (call : DatabaseCall) (read : IntegrationTable database → Answer) :
    ServiceCall database Answer :=
  Calls.request (attempt.refusal call) fun table => .ok (read table, table)

def insert (link : Link) : ServiceCall database SocialIntegration :=
  Calls.request (attempt.refusal (.creating .create)) fun table =>
    match table.create? link attempt.now with
    | some created => .ok (link.row database table.created attempt.now, created)
    | none => .error .database

def createIntegration (userId : String) (method : IntegrationMethod)
    (providerData : ProviderUserData) : ServiceCall database SocialIntegration := do
  throwIf (Schemas.trim providerData.sub = "") (.message "Provider subject is required")
  let user ← query attempt (.creating .findUser) fun _ => findUserById setting users userId
  throwIf (user = none) (.message "User not found")
  let existingIntegration ← query attempt (.creating .findByUserAndMethod) fun table =>
    findByUserAndMethod setting.firstRow table userId method
  throwIf (existingIntegration ≠ none)
    (.message ("User already has a " ++ method.name ++ " integration"))
  let existingByProvider ← query attempt (.creating .findByProviderSub) fun table =>
    findByProviderSub setting.firstRow table providerData.sub method
  throwIf (existingByProvider ≠ none)
    (.message ("This " ++ method.name ++ " account is already linked to another user"))
  insert attempt ⟨userId, method, providerData.sub⟩

def updateIntegration (update : IntegrationUpdate) (integrationId : Nat)
    (data : IntegrationTable database → IntegrationTable database) : ServiceCall database Unit := do
  let isFound ← query attempt (.finding update) fun table =>
    table.rows.any fun row => row.id == integrationId
  throwIf (isFound = false) (.message "Integration not found")
  Calls.request (attempt.refusal (.updating update)) fun table => .ok ((), data table)

def updateProviderData (integrationId : Nat) : ServiceCall database Unit :=
  updateIntegration attempt .providerData integrationId id

def updateTokens (integrationId : Nat) : ServiceCall database Unit :=
  updateIntegration attempt .tokens integrationId id

def markAsUsed (integrationId : Nat) : ServiceCall database Unit :=
  updateIntegration attempt .lastUsed integrationId id

def activate (integrationId : Nat) : ServiceCall database Unit :=
  updateIntegration attempt .activation integrationId (·.update integrationId true)

def deactivate (integrationId : Nat) : ServiceCall database Unit :=
  updateIntegration attempt .deactivation integrationId (·.update integrationId false)

def queryIncludingInactive (userId : String) (method : IntegrationMethod) :
    ServiceCall database (Option SocialIntegration) :=
  tryCatch
    (query attempt .findByUserAndMethodIncludingInactive fun table =>
      findByUserAndMethodIncludingInactive setting.firstRow table userId method)
    fun _ => pure none

def reactivate (integration : SocialIntegration) : ServiceCall database Unit := do
  updateProviderData attempt integration.id
  updateTokens attempt integration.id
  activate attempt integration.id

def linkToUser (provider : IntegrationMethod) (userId : String)
    (providerData : ProviderUserData) : ServiceCall database SocialIntegration := do
  let existingIntegrationByProvider ← query attempt .findByProviderSub fun table =>
    findByProviderSub setting.firstRow table providerData.sub provider
  match existingIntegrationByProvider with
  | some existing =>
    if existing.user_id = userId then
      throw (.message ("User already has a " ++ provider.name ++ " integration"))
    else
      throw (.message ("This " ++ provider.name ++ " account is already linked to another user"))
  | none =>
    let existingUserIntegration ← query attempt .findByUserAndMethod fun table =>
      findByUserAndMethod setting.firstRow table userId provider
    throwIf (existingUserIntegration ≠ none)
      (.message ("User already has a " ++ provider.name ++ " integration"))
    let deactivatedIntegration ← queryIncludingInactive setting attempt userId provider
    match deactivatedIntegration with
    | some integration =>
      reactivate attempt integration
      return integration
    | none => createIntegration setting users attempt userId provider providerData

def unlinkFromUser (provider : IntegrationMethod) (userId : String) :
    ServiceCall database Unit := do
  let userIntegration ← query attempt .findByUserAndMethod fun table =>
    findByUserAndMethod setting.firstRow table userId provider
  match userIntegration with
  | none => throw (.message ("No " ++ provider.name ++ " integration found for user"))
  | some integration => deactivate attempt integration.id

section HandleUserIntegration

variable (provider : IntegrationMethod) (providerData : ProviderUserData)

def capitalizeFirstLetter (text : String) : String := text.capitalize

def signInExisting (request : SocialRequest) (existing : SocialIntegration) :
    ServiceCall database SocialLoginResult := do
  if request.hasOther existing.user_id then
    return .failed ("This " ++ provider.name ++ " account is already linked to another user")
  else
    match ← query attempt .findUser fun _ => findUserById setting users existing.user_id with
    | none => return .failed "User not found for existing integration"
    | some existingUser =>
      updateProviderData attempt existing.id
      updateTokens attempt existing.id
      markAsUsed attempt existing.id
      return .signedIn existingUser existing

def missingContact (request : SocialRequest) : SocialLoginResult :=
  if setting.config.missingContactInfo = .redirect_to_form ∧ request.isRegistration then
    .linkingRequired ("Please provide your contact information to complete the " ++
      capitalizeFirstLetter provider.name ++ " registration process") providerData
  else
    .failed (capitalizeFirstLetter provider.name ++
      " account must have an email address or phone number to sign in")

def createLink (userId : String) : ServiceCall database SocialLoginResult := do
  let newIntegration ← createIntegration setting users attempt userId provider providerData
  tryCatch
    (do
      match ← query attempt .findUser fun _ => findUserById setting users userId with
      | none => throw (.message "User not found after integration creation")
      | some user => return .signedIn user newIntegration)
    fun linkError => do
      tryCatch (deactivate attempt newIntegration.id) fun _ => pure ()
      throw linkError

def addToActiveUser (userId : String) : ServiceCall database SocialLoginResult := do
  let userIntegrations ← query attempt .findByUser fun table => findByUser table userId
  if setting.config.allowMultipleProviders = false ∧ 0 < userIntegrations.length then
    return .failed "Multiple social providers are not allowed for this account"
  else if setting.config.maxProvidersPerUser ≤ userIntegrations.length then
    return .failed ("Maximum number of social providers (" ++
      setting.toText setting.config.maxProvidersPerUser ++ ") reached for this account")
  else
    createLink setting users attempt provider providerData userId

def linkActiveUser (userId : String) : ServiceCall database SocialLoginResult := do
  let existingUserIntegration ← query attempt .findByUserAndMethod fun table =>
    findByUserAndMethod setting.firstRow table userId provider
  if existingUserIntegration ≠ none then
    return .failed ("This " ++ provider.name ++ " account is already linked to your account")
  else
    match ← queryIncludingInactive setting attempt userId provider with
    | some integration =>
      match ← query attempt .findUser fun _ => findUserById setting users userId with
      | none => return .failed "User not found for existing integration"
      | some user =>
        reactivate attempt integration
        return .signedIn user integration
    | none => addToActiveUser setting users attempt provider providerData userId

def linkByEmail (email : String) (existingUser : SocialUser) :
    ServiceCall database SocialLoginResult := do
  match setting.config.existingUserNoIntegration with
  | .auto_link =>
    if providerData.email_verified ≠ some true then
      return .linkingRequired
        (if setting.config.showHelpfulErrors then
          "Your " ++ capitalizeFirstLetter provider.name ++
            " email must be verified before we can link it to your existing account. " ++
            "Please verify your email with " ++ capitalizeFirstLetter provider.name ++
            " and try again."
        else "Email verification required. Please verify your email and try again.")
        providerData
    else
      let newIntegration ←
        createIntegration setting users attempt existingUser._id provider providerData
      return .signedIn existingUser newIntegration
  | .require_manual_link =>
    return .linkingRequired
      (if setting.config.showHelpfulErrors then
        "An account with email " ++ email ++ " already exists. Please log in first, then link " ++
          "your " ++ capitalizeFirstLetter provider.name ++
          " account from your account settings."
      else "Account already exists with this email address.")
      providerData

def noAccount : SocialLoginResult :=
  match setting.config.noUserAccount with
  | .require_existing_account =>
    .linkingRequired
      (if setting.config.showHelpfulErrors then
        "No account found with this " ++ capitalizeFirstLetter provider.name ++
          " account. Please create an account first, then link your " ++
          capitalizeFirstLetter provider.name ++ " account from your account settings."
      else "No account found. Please create an account first.")
      providerData
  | .allow_registration =>
    .linkingRequired "No account found. Registration will be completed." providerData

def handleUserIntegration (request : SocialRequest) : ServiceCall database SocialLoginResult := do
  let existingIntegration ← query attempt .findByProviderSub fun table =>
    findByProviderSub setting.firstRow table providerData.sub provider
  match existingIntegration with
  | some existing => signInExisting setting users attempt provider request existing
  | none =>
    if given providerData.email = none ∧ given providerData.phone_number = none then
      return missingContact setting provider providerData request
    else
      match request.active with
      | some userId => linkActiveUser setting users attempt provider providerData userId
      | none =>
        match given providerData.email with
        | none => return noAccount setting provider providerData
        | some email =>
          let existingUserByEmail ← query attempt .findUserByEmail fun _ =>
            findUserByEmail setting users database email
          match existingUserByEmail with
          | some existingUser =>
            linkByEmail setting users attempt provider providerData email existingUser
          | none => return noAccount setting provider providerData

end HandleUserIntegration

end Service

end ParakoId.SocialAccounts
