import ParakoId.Accounts.Users
import ParakoId.SocialAccounts.SocialLogin

/-! The e-mail address of each user and the flag that says it was verified. -/

namespace ParakoId.SocialAccounts

open Accounts (Primitives User truthy)
open Runs (AlwaysFrom AllowedFrom)
open Text (utf16Length)

inductive Ground
  | confirmed
  | vouched
  | marked

/-- `sentTo` is where the stored token was sent; `grounds` are those that there have been so
far. -/
structure EmailRecord where
  _id : String
  email : Option String
  phone_number : Option String
  user : User
  sentTo : Option String
  grounds : List (Ground × String)

structure EmailSetting where
  database : Database
  toLowerCase : String → String
  primitives : Primitives
  autoVerifyEmail : Bool
  emailRequired : Bool
  phoneRequired : Bool

def EmailSetting.cast (setting : EmailSetting) (email : String) : String :=
  setting.database.castEmail setting.toLowerCase email

structure ContactForm where
  email : Option String
  phone_number : Option String

def isLetter (letter : Char) : Bool :=
  ('a' ≤ letter && letter ≤ 'z') || ('A' ≤ letter && letter ≤ 'Z')

def isLetterOrDigit (letter : Char) : Bool := isLetter letter || ('0' ≤ letter && letter ≤ '9')

def isLocalPart (letters : List Char) : Bool :=
  letters ≠ [] && letters.all fun letter =>
    isLetterOrDigit letter || ".!#$%&'*+/=?^_\x7b|\x7d~-".toList.contains letter || letter.toNat = 96

def isDomainLabel (letters : List Char) : Bool :=
  letters.length ≤ 63 && letters.head?.any isLetterOrDigit &&
    letters.getLast?.any isLetterOrDigit && letters.all fun letter =>
      isLetterOrDigit letter || letter = '-'

def isFormEmail (email : String) : Bool :=
  match email.toList.splitOn '@' with
  | [localPart, domain] => isLocalPart localPart && (domain.splitOn '.').all isDomainLabel
  | _ => false

def isFormPhoneNumber (letters : List Char) : Bool :=
  match if letters.head? = some '+' then letters.tail else letters with
  | first :: rest => ('1' ≤ first && first ≤ '9') && rest.length ≤ 14 && rest.all fun letter =>
    '0' ≤ letter && letter ≤ '9'
  | [] => false

def normalizedPhoneNumber (phoneNumber : String) : String :=
  String.ofList (phoneNumber.toList.filter fun letter =>
    !(Text.isWhiteSpace letter || letter = '-' || letter = '(' || letter = ')'))

section Registration

variable (setting : EmailSetting) (rows : List EmailRecord)

def isEmailKnown (email : String) : Bool :=
  rows.any fun row => row.email == some (setting.cast email)

def isPhoneNumberKnown (phoneNumber : String) : Bool :=
  rows.any fun row => row.phone_number == some phoneNumber

/-- A text that is given must be an address that no user has. -/
def acceptsEmail : Option String → Bool
  | none => !setting.emailRequired
  | some email =>
    let normalizedEmail := setting.toLowerCase (Schemas.trim email)
    utf16Length normalizedEmail ≤ 254 && isFormEmail normalizedEmail &&
      !isEmailKnown setting rows normalizedEmail

def acceptsPhoneNumber : Option String → Bool
  | none => !setting.phoneRequired
  | some phoneNumber =>
    utf16Length phoneNumber ≤ 20 &&
      isFormPhoneNumber (normalizedPhoneNumber phoneNumber).toList &&
      !isPhoneNumberKnown rows (normalizedPhoneNumber phoneNumber)

def ProviderUserData.hasContact (data : ProviderUserData) : Bool :=
  (truthy data.email).isSome || (truthy data.phone_number).isSome

/-- `processSocialContactInfo`, for an account that was left pending without a contact. -/
def contactInfo (data : ProviderUserData) (form : ContactForm) : Option ProviderUserData :=
  let email := truthy form.email
  let phoneNumber := truthy form.phone_number
  if data.hasContact then none
  else if (email.isSome || phoneNumber.isSome) && acceptsEmail setting rows email &&
      acceptsPhoneNumber setting rows phoneNumber then
    some { data with
      email := (email.map fun text => setting.toLowerCase (Schemas.trim text)).or data.email
      phone_number := (phoneNumber.map normalizedPhoneNumber).or data.phone_number }
  else none

/-- `handleSocialRegistration` comes to the creation of a user. -/
def registers (data : ProviderUserData) : Bool :=
  data.hasContact && !(truthy data.email).any (isEmailKnown setting rows) &&
    !(truthy data.phone_number).any (isPhoneNumberKnown rows)

def created (id : String) (email phoneNumber : Option String) (email_verified : Bool)
    (grounds : List (Ground × String)) : EmailRecord where
  _id := id
  email := email.map setting.cast
  phone_number := phoneNumber
  user := { User.signedUp "" phoneNumber with email_verified }
  sentTo := none
  grounds := grounds.map fun ground => (ground.1, setting.cast ground.2)

def vouches (data : ProviderUserData) : Bool :=
  setting.autoVerifyEmail && data.email_verified == some true

/-- The user that is created for a social account, of which the provider says `original`. -/
def socialUser (id : String) (data original : ProviderUserData) : EmailRecord :=
  created setting id (truthy data.email) (truthy data.phone_number) (vouches setting data)
    (if original.email_verified = some true then
      (truthy original.email).toList.map fun email => (Ground.vouched, email)
    else [])

end Registration

def EMAIL_VERIFICATION_EXPIRY_HOURS : Nat := 24

inductive EmailEvent
  | register (id : String) (email phoneNumber : Option String)
  | createByAdmin (id email : String)
  | socialRegister (id : String) (data : ProviderUserData)
  | contactInfo (id : String) (data : ProviderUserData) (form : ContactForm)
  | requestVerification (id verificationToken : String) (now : Nat)
  | verifyEmail (token : String) (now : Nat)
  | updateByAdmin (id email : String)
  | updateByApi (id : String) (email : Option String)

section Steps

variable (setting : EmailSetting)

def updateById (rows : List EmailRecord) (id : String) (change : EmailRecord → EmailRecord) :
    List EmailRecord :=
  rows.map fun row => if row._id = id then change row else row

/-- `generateEmailVerificationToken`, and the message to the address of the user. -/
def requested (verificationToken : String) (now : Nat) (row : EmailRecord) : EmailRecord :=
  if row.user.email_verified then row
  else match truthy row.email with
    | none => row
    | some email =>
      { row with
        user := { row.user with
          email_verification_token := some (setting.primitives.hashToken verificationToken)
          email_verification_expires :=
            some (now + EMAIL_VERIFICATION_EXPIRY_HOURS * 60 * 60 * 1000) }
        sentTo := some email }

/-- `verifyEmail` writes the flag; the address that the token went to is confirmed. -/
def EmailRecord.verified (row : EmailRecord) : EmailRecord :=
  { row with
    user := row.user.withVerifiedEmail
    grounds := row.sentTo.toList.map (fun email => (Ground.confirmed, email)) ++ row.grounds }

def withEmail (email : String) (row : EmailRecord) : EmailRecord :=
  { row with email := some (setting.cast email) }

/-- The databases have a unique index of the addresses. -/
def isEmailOfOther (rows : List EmailRecord) (id email : String) : Bool :=
  rows.any fun row => row._id != id && row.email == some (setting.cast email)

def replaceEmail (rows : List EmailRecord) (id email : String) : List EmailRecord :=
  if isEmailOfOther setting rows id email then rows
  else updateById rows id (withEmail setting email)

def findByToken (rows : List EmailRecord) (token : String) (now : Nat) : Option EmailRecord :=
  if token = "" then none
  else (rows.find? fun row => row.user.hasEmailToken (setting.primitives.hashToken token)).filter
    fun row => row.user.acceptsEmailToken (setting.primitives.hashToken token) now

def emailStep (rows : List EmailRecord) : EmailEvent → List EmailRecord
  | .register id email phoneNumber =>
    if (truthy email).any (isEmailKnown setting rows) then rows
    else created setting id (truthy email) phoneNumber false [] :: rows
  | .createByAdmin id email =>
    if isEmailKnown setting rows email then rows
    else created setting id (some email) none true [(.marked, email)] :: rows
  | .socialRegister id data =>
    if registers setting rows data then socialUser setting id data data :: rows else rows
  | .contactInfo id data form =>
    match contactInfo setting rows data form with
    | none => rows
    | some updatedData =>
      if registers setting rows updatedData then
        socialUser setting id updatedData data :: rows
      else rows
  | .requestVerification id verificationToken now =>
    updateById rows id (requested setting verificationToken now)
  | .verifyEmail token now =>
    match findByToken setting rows token now with
    | none => rows
    | some user => updateById rows user._id EmailRecord.verified
  | .updateByAdmin id email => replaceEmail setting rows id email
  | .updateByApi id email =>
    match email with
    | none => rows
    | some email => replaceEmail setting rows id email

def HasGround (row : EmailRecord) (email : String) : Prop :=
  ∃ ground, (ground, email) ∈ row.grounds

def FlagIsGenuine (row : EmailRecord) : Prop :=
  row.user.email_verified = true → ∃ email, row.email = some email ∧ HasGround row email

def AllGenuine (rows : List EmailRecord) : Prop := ∀ row ∈ rows, FlagIsGenuine row

def KeepsFlag (rows : List EmailRecord) (id email : String) : Prop :=
  isEmailOfOther setting rows id email = false → ∀ row ∈ rows, row._id = id →
    row.user.email_verified = true → HasGround row (setting.cast email)

/-- The flag of a provider is taken over with the provider's own address, no verified address is
replaced by a new one, and a token comes back while its address is stored. -/
def KeepsGenuine (rows : List EmailRecord) : EmailEvent → Prop
  | .socialRegister _ data =>
    registers setting rows data = true → vouches setting data = true →
      (truthy data.email).isSome = true
  | .contactInfo _ data form => ∀ updatedData, contactInfo setting rows data form =
      some updatedData → registers setting rows updatedData = true → vouches setting data = false
  | .verifyEmail token now => ∀ user, findByToken setting rows token now = some user →
      ∀ row ∈ rows, row._id = user._id →
        ∃ email, row.email = some email ∧ (row.sentTo = some email ∨ HasGround row email)
  | .updateByAdmin id email => KeepsFlag setting rows id email
  | .updateByApi id email => ∀ address, email = some address → KeepsFlag setting rows id address
  | _ => True

end Steps

section Exact

variable {setting : EmailSetting} {rows : List EmailRecord}

theorem allGenuine_cons (row : EmailRecord) (allGenuine : AllGenuine rows) :
    AllGenuine (row :: rows) ↔ FlagIsGenuine row := by
  rw [AllGenuine, List.forall_mem_cons]
  exact and_iff_left allGenuine

theorem updateById_genuine_iff (id : String) (change : EmailRecord → EmailRecord)
    (allGenuine : AllGenuine rows) :
    AllGenuine (updateById rows id change) ↔
      ∀ row ∈ rows, row._id = id → FlagIsGenuine (change row) := by
  rw [AllGenuine, updateById, List.forall_mem_map]
  constructor
  · intro after row member isId
    have genuine := after row member
    rwa [if_pos isId] at genuine
  · intro changed row member
    split
    · rename_i isId
      exact changed row member isId
    · exact allGenuine row member

theorem created_genuine (id : String) {email phoneNumber : Option String}
    {email_verified : Bool} {grounds : List (Ground × String)}
    (grounded : email_verified = true → ∃ address ground,
      email = some address ∧ (ground, address) ∈ grounds) :
    FlagIsGenuine (created setting id email phoneNumber email_verified grounds) := by
  intro isVerified
  obtain ⟨address, ground, isEmail, member⟩ := grounded isVerified
  refine ⟨setting.cast address, congrArg (Option.map setting.cast) isEmail, ground, ?_⟩
  exact List.mem_map.mpr ⟨(ground, address), member, rfl⟩

theorem socialUser_genuine_iff (id : String) (data : ProviderUserData) :
    FlagIsGenuine (socialUser setting id data data) ↔
      (vouches setting data = true → (truthy data.email).isSome = true) := by
  constructor
  · intro genuine isVouched
    obtain ⟨email, isEmail, _⟩ := genuine isVouched
    obtain ⟨address, isAddress, _⟩ := Option.map_eq_some_iff.mp isEmail
    rw [isAddress]
    rfl
  · intro hasEmail
    apply created_genuine
    intro isVouched
    obtain ⟨address, isAddress⟩ := Option.isSome_iff_exists.mp (hasEmail isVouched)
    have isVerified : data.email_verified = some true :=
      eq_of_beq (Bool.and_eq_true_iff.mp isVouched).2
    refine ⟨address, .vouched, isAddress, ?_⟩
    rw [if_pos isVerified, isAddress]
    exact List.mem_singleton_self _

theorem contactUser_genuine_iff (id : String) {data updatedData : ProviderUserData}
    {form : ContactForm} (isUpdated : contactInfo setting rows data form = some updatedData) :
    FlagIsGenuine (socialUser setting id updatedData data) ↔
      vouches setting data = false := by
  rw [contactInfo] at isUpdated
  split at isUpdated
  · cases isUpdated
  · rename_i noContact
    split at isUpdated
    · injection isUpdated with isUpdated
      subst isUpdated
      have noEmail : truthy data.email = none := by
        rw [Bool.not_eq_true, ProviderUserData.hasContact, Bool.or_eq_false_iff] at noContact
        exact Option.not_isSome_iff_eq_none.mp (by rw [noContact.1]; exact Bool.false_ne_true)
      constructor
      · intro genuine
        by_contra isVouched
        rw [Bool.not_eq_false] at isVouched
        obtain ⟨email, _, ground, member⟩ := genuine isVouched
        simp only [socialUser, created, noEmail, Option.toList_none, List.map_nil, ite_self,
          List.not_mem_nil] at member
      · intro notVouched isVouched
        have isVerified : vouches setting data = true := isVouched
        rw [notVouched] at isVerified
        cases isVerified
    · cases isUpdated

theorem replaceEmail_genuine_iff (allGenuine : AllGenuine rows) (id email : String) :
    AllGenuine (replaceEmail setting rows id email) ↔ KeepsFlag setting rows id email := by
  rw [replaceEmail, KeepsFlag]
  cases isEmailOfOther setting rows id email with
  | true => exact iff_of_true allGenuine nofun
  | false =>
    rw [if_neg Bool.false_ne_true, imp_iff_right rfl, updateById_genuine_iff _ _ allGenuine]
    refine forall_congr' fun row => imp_congr_right fun _ => imp_congr_right fun _ => ?_
    refine imp_congr_right fun _ => ?_
    constructor
    · rintro ⟨address, isAddress, hasGround⟩
      injection isAddress with isAddress
      rw [isAddress]
      exact hasGround
    · intro hasGround
      exact ⟨setting.cast email, rfl, hasGround⟩

theorem requested_genuine (verificationToken : String) (now : Nat) {row : EmailRecord}
    (genuine : FlagIsGenuine row) :
    FlagIsGenuine (requested setting verificationToken now row) := by
  rw [requested]
  split
  · exact genuine
  · split
    · exact genuine
    · exact genuine

theorem verified_genuine_iff (row : EmailRecord) :
    FlagIsGenuine row.verified ↔
      ∃ email, row.email = some email ∧ (row.sentTo = some email ∨ HasGround row email) := by
  have grounds (email : String) :
      HasGround row.verified email ↔ row.sentTo = some email ∨ HasGround row email := by
    simp only [HasGround, EmailRecord.verified, List.mem_append, List.mem_map, Option.mem_toList,
      Prod.mk.injEq]
    constructor
    · rintro ⟨ground, ⟨address, isSent, -, rfl⟩ | member⟩
      · exact .inl isSent
      · exact .inr ⟨ground, member⟩
    · rintro (isSent | ⟨ground, member⟩)
      · exact ⟨.confirmed, .inl ⟨email, isSent, rfl, rfl⟩⟩
      · exact ⟨ground, .inr member⟩
  constructor
  · intro genuine
    obtain ⟨email, isEmail, hasGround⟩ := genuine rfl
    exact ⟨email, isEmail, (grounds email).mp hasGround⟩
  · rintro ⟨email, isEmail, either⟩ _
    exact ⟨email, isEmail, (grounds email).mpr either⟩

theorem emailStep_genuine_iff (event : EmailEvent) (allGenuine : AllGenuine rows) :
    AllGenuine (emailStep setting rows event) ↔ KeepsGenuine setting rows event := by
  cases event with
  | register id email phoneNumber =>
    refine iff_of_true ?_ trivial
    rw [emailStep]
    split
    · exact allGenuine
    · exact (allGenuine_cons _ allGenuine).mpr (created_genuine id fun impossible => by
        cases impossible)
  | createByAdmin id email =>
    refine iff_of_true ?_ trivial
    rw [emailStep]
    split
    · exact allGenuine
    · exact (allGenuine_cons _ allGenuine).mpr (created_genuine id fun _ =>
        ⟨email, .marked, rfl, List.mem_singleton_self _⟩)
  | socialRegister id data =>
    rw [emailStep, KeepsGenuine]
    by_cases isNew : registers setting rows data = true
    · rw [if_pos isNew, allGenuine_cons _ allGenuine, socialUser_genuine_iff,
        forall_prop_of_true isNew]
    · rw [if_neg isNew]
      exact iff_of_true allGenuine fun impossible => absurd impossible isNew
  | contactInfo id data form =>
    rw [emailStep, KeepsGenuine]
    cases isUpdated : contactInfo setting rows data form with
    | none => exact iff_of_true allGenuine (by rintro _ ⟨⟩)
    | some updatedData =>
      simp only [Option.some.injEq, forall_eq']
      by_cases isNew : registers setting rows updatedData = true
      · rw [if_pos isNew, allGenuine_cons _ allGenuine, contactUser_genuine_iff id isUpdated,
          forall_prop_of_true isNew]
      · rw [if_neg isNew]
        exact iff_of_true allGenuine fun impossible => absurd impossible isNew
  | requestVerification id verificationToken now =>
    refine iff_of_true ?_ trivial
    rw [emailStep, updateById_genuine_iff _ _ allGenuine]
    exact fun row member _ => requested_genuine verificationToken now (allGenuine row member)
  | verifyEmail token now =>
    rw [emailStep, KeepsGenuine]
    cases isFound : findByToken setting rows token now with
    | none => exact iff_of_true allGenuine (by rintro _ ⟨⟩)
    | some user =>
      simp only [Option.some.injEq, forall_eq', updateById_genuine_iff _ _ allGenuine,
        verified_genuine_iff]
  | updateByAdmin id email =>
    exact replaceEmail_genuine_iff allGenuine id email
  | updateByApi id email =>
    simp only [emailStep, KeepsGenuine]
    cases email with
    | none => exact iff_of_true allGenuine (by rintro _ ⟨⟩)
    | some email =>
      simp only [Option.some.injEq, forall_eq']
      exact replaceEmail_genuine_iff allGenuine id email

end Exact

/-- Over every run, each flag belongs to the stored address exactly where it does so to begin
with and every step keeps to its condition. -/
theorem verified_email_iff (setting : EmailSetting) (rows : List EmailRecord)
    (events : List EmailEvent) :
    AlwaysFrom (emailStep setting) AllGenuine rows events ↔
      AllGenuine rows ∧ AllowedFrom (emailStep setting) (KeepsGenuine setting) rows events :=
  Runs.always_iff_start (emailStep setting)
    (fun _ event allGenuine => emailStep_genuine_iff event allGenuine) rows events

def plainEmailSetting : EmailSetting where
  database := .postgresql
  toLowerCase := id
  primitives := ⟨id, fun password _ => password, fun _ => true⟩
  autoVerifyEmail := true
  emailRequired := true
  phoneRequired := false

/-- Facebook gives no address, and its accounts count as verified. -/
def withoutAddress : ProviderUserData where
  sub := "100001"
  email := none
  email_verified := some true
  phone_number := none

def IsUngrounded (rows : List EmailRecord) (email : String) : Prop :=
  ∃ row ∈ rows, row.user.email_verified = true ∧ row.email = some email ∧ ¬HasGround row email

theorem not_genuine_of_ungrounded {rows : List EmailRecord} {email : String}
    (isUngrounded : IsUngrounded rows email) : ¬AllGenuine rows := by
  intro allGenuine
  obtain ⟨row, member, flag, isEmail, noGround⟩ := isUngrounded
  obtain ⟨address, isAddress, hasGround⟩ := allGenuine row member flag
  rw [isEmail, Option.some.injEq] at isAddress
  exact noGround (isAddress ▸ hasGround)

theorem first_ungrounded {rows : List EmailRecord} {row : EmailRecord} {email : String}
    (isFirst : rows.head? = some row) (flag : row.user.email_verified = true)
    (isEmail : row.email = some email)
    (others : row.grounds.all (fun ground => ground.2 ≠ email) = true) :
    IsUngrounded rows email := by
  refine ⟨row, List.mem_of_mem_head? isFirst, flag, isEmail, ?_⟩
  rintro ⟨ground, isGround⟩
  exact of_decide_eq_true (List.all_eq_true.mp others _ isGround) rfl

theorem typed_address_is_verified :
    let step := emailStep plainEmailSetting
    let typed := Runs.run step [] [.socialRegister "user" withoutAddress,
      .contactInfo "user" withoutAddress ⟨some "ada@b.example", none⟩]
    let changed := Runs.run step [] [.createByAdmin "user" "eva@b.example",
      .updateByApi "user" (some "ada@b.example")]
    let outdated := Runs.run step [] [.register "user" (some "eva@b.example") none,
      .requestVerification "user" "token" 0, .updateByAdmin "user" "ada@b.example",
      .verifyEmail "token" 1000]
    IsUngrounded typed "ada@b.example" ∧ IsUngrounded changed "ada@b.example" ∧
      IsUngrounded outdated "ada@b.example" ∧
      ¬AllGenuine typed ∧ ¬AllGenuine changed ∧ ¬AllGenuine outdated := by
  intro step typed changed outdated
  have isTyped : IsUngrounded typed "ada@b.example" :=
    first_ungrounded rfl (by decide +kernel) (by decide +kernel) (by decide +kernel)
  have isChanged : IsUngrounded changed "ada@b.example" :=
    first_ungrounded rfl (by decide +kernel) (by decide +kernel) (by decide +kernel)
  have isOutdated : IsUngrounded outdated "ada@b.example" :=
    first_ungrounded rfl (by decide +kernel) (by decide +kernel) (by decide +kernel)
  exact ⟨isTyped, isChanged, isOutdated, not_genuine_of_ungrounded isTyped,
    not_genuine_of_ungrounded isChanged, not_genuine_of_ungrounded isOutdated⟩

end ParakoId.SocialAccounts
