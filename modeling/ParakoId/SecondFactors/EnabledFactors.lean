import ParakoId.SecondFactors.Satisfiable

/-!
The second factors that a user has enabled, one by one, and what each write to a repository
leaves of them.
-/

namespace ParakoId.SecondFactors

open Accounts (EmailOtp)

inductive Factor
  | totp (secret : String)
  | email
  | webauthn (credentialId : String)

def secretOf (mfa : Option Mfa) : Option String := (mfa.bind Mfa.totp).bind TotpMethod.secret

def credentialIds (mfa : Option Mfa) : List String := (countersOf mfa).map Prod.fst

def isTotpEnabled (mfa : Option Mfa) : Bool := (statusOf mfa).enabled && (statusOf mfa).totp

def isEmailMfaEnabled (mfa : Option Mfa) : Bool := (statusOf mfa).enabled && (statusOf mfa).email

def isWebAuthnEnabled (mfa : Option Mfa) : Bool :=
  (statusOf mfa).enabled && (statusOf mfa).webauthn

def MfaMethod.isEnabled (mfa : Option Mfa) : MfaMethod → Bool
  | .totp => isTotpEnabled mfa
  | .email => isEmailMfaEnabled mfa
  | .webauthn => isWebAuthnEnabled mfa

def MfaStatus.has (status : MfaStatus) : MfaMethod → Bool
  | .totp => status.enabled && status.totp
  | .email => status.enabled && status.email
  | .webauthn => status.enabled && status.webauthn

theorem isEnabled_eq (mfa : Option Mfa) (method : MfaMethod) :
    method.isEnabled mfa = (statusOf mfa).has method := by
  cases method <;> rfl

def hasFactor (mfa : Option Mfa) : Factor → Bool
  | .totp secret => isTotpEnabled mfa && secretOf mfa == some secret
  | .email => isEmailMfaEnabled mfa
  | .webauthn credentialId =>
    isWebAuthnEnabled mfa && (credentialIds mfa).contains credentialId

def FactorsKept (before after : Option Mfa) : Prop :=
  ∀ factor, hasFactor before factor = true → hasFactor after factor = true

theorem secret_of_usable {mfa : Option Mfa} (usable : (statusOf mfa).totp = true) :
    ∃ secret, secretOf mfa = some secret := by
  cases mfa with
  | none => cases usable
  | some mfa =>
    obtain ⟨totp, isTotp, isUsable⟩ := (Option.any_eq_true _ _).mp usable
    rw [Option.getD_some] at isTotp
    rw [TotpMethod.usable, Bool.and_eq_true] at isUsable
    obtain ⟨secret, isSecret⟩ := Option.isSome_iff_exists.mp isUsable.2
    rw [Accounts.truthy, Option.filter_eq_some_iff] at isSecret
    exact ⟨secret, by rw [secretOf, Option.bind_some, isTotp, Option.bind_some, isSecret.1]⟩

theorem credential_of_usable {mfa : Option Mfa} (usable : (statusOf mfa).webauthn = true) :
    ∃ credentialId, (credentialIds mfa).contains credentialId = true := by
  cases mfa with
  | none => cases usable
  | some mfa =>
    obtain ⟨webauthn, isWebAuthn, isUsable⟩ := (Option.any_eq_true _ _).mp usable
    rw [Option.getD_some] at isWebAuthn
    rw [WebAuthnMethod.usable, Bool.and_eq_true] at isUsable
    obtain ⟨credential, member⟩ := List.exists_mem_of_ne_nil webauthn.credentials
      (by simpa using isUsable.2)
    refine ⟨credential.credential_id, List.contains_iff_mem.mpr ?_⟩
    rw [credentialIds, countersOf, credentialsOf, Option.bind_some, isWebAuthn, List.map_map]
    exact List.mem_map.mpr ⟨credential, member, rfl⟩

theorem not_kept_of_disabled {before after : Option Mfa} {method : MfaMethod}
    (enabled : method.isEnabled before = true) (disabled : method.isEnabled after = false) :
    ¬FactorsKept before after := by
  intro kept
  cases method with
  | totp =>
    have flags := Bool.and_eq_true_iff.mp enabled
    obtain ⟨secret, isSecret⟩ := secret_of_usable flags.2
    have still := kept (.totp secret)
      (Bool.and_eq_true_iff.mpr ⟨enabled, by rw [isSecret, beq_self_eq_true]⟩)
    have stillEnabled := (Bool.and_eq_true_iff.mp still).1
    rw [MfaMethod.isEnabled, stillEnabled] at disabled
    cases disabled
  | email =>
    have still := kept .email enabled
    rw [MfaMethod.isEnabled, show isEmailMfaEnabled after = true from still] at disabled
    cases disabled
  | webauthn =>
    have flags := Bool.and_eq_true_iff.mp enabled
    obtain ⟨credentialId, member⟩ := credential_of_usable flags.2
    have still := kept (.webauthn credentialId) (Bool.and_eq_true_iff.mpr ⟨enabled, member⟩)
    have stillEnabled := (Bool.and_eq_true_iff.mp still).1
    rw [MfaMethod.isEnabled, stillEnabled] at disabled
    cases disabled

theorem factorsKept_of {before after : Option Mfa}
    (enabled : ∀ method : MfaMethod, method.isEnabled before = true →
      method.isEnabled after = true)
    (secret : isTotpEnabled before = true → secretOf after = secretOf before)
    (credentials : isWebAuthnEnabled before = true → credentialIds before ⊆ credentialIds after) :
    FactorsKept before after := by
  intro factor has
  cases factor with
  | totp code =>
    have both := Bool.and_eq_true_iff.mp has
    refine Bool.and_eq_true_iff.mpr ⟨enabled .totp both.1, ?_⟩
    rw [secret both.1]
    exact both.2
  | email => exact enabled .email has
  | webauthn credentialId =>
    have both := Bool.and_eq_true_iff.mp has
    refine Bool.and_eq_true_iff.mpr ⟨enabled .webauthn both.1, ?_⟩
    exact List.contains_iff_mem.mpr
      (credentials both.1 (List.contains_iff_mem.mp both.2))

theorem FactorsKept.refl (mfa : Option Mfa) : FactorsKept mfa mfa := fun _ has => has

structure KeepsFactors {Stored : Type} (repository : Repository Stored) : Prop where
  update_secret : ∀ written stored, written.totp = (repository.mfa stored).bind Mfa.totp →
    secretOf (repository.mfa (repository.update written stored)) =
      secretOf (repository.mfa stored)
  updateMfa_secret : ∀ update stored, update.totp = none →
    secretOf (repository.mfa (repository.updateMfa update stored)) =
      secretOf (repository.mfa stored)
  updateMfa_credentials : ∀ update stored, update.disablesWebAuthn = false →
    credentialIds (repository.mfa (repository.updateMfa update stored)) =
      credentialIds (repository.mfa stored)
  setEmailOtp : ∀ otp stored,
    secretOf (repository.mfa (repository.setEmailOtp otp stored)) =
        secretOf (repository.mfa stored) ∧
      credentialIds (repository.mfa (repository.setEmailOtp otp stored)) =
        credentialIds (repository.mfa stored)
  clearEmailOtp : ∀ stored,
    secretOf (repository.mfa (repository.clearEmailOtp stored)) =
        secretOf (repository.mfa stored) ∧
      credentialIds (repository.mfa (repository.clearEmailOtp stored)) =
        credentialIds (repository.mfa stored)

theorem mongoose_keepsFactors : KeepsFactors mongoose where
  update_secret written stored same := by
    simp only [mongoose, secretOf, Option.bind_some] at same ⊢
    rw [same]
  updateMfa_secret update stored untouched := by
    simp only [mongoose, secretOf, Mongoose.updateMfa, Option.bind_some, untouched,
      Option.map_none, Option.none_or]
    cases stored <;> rfl
  updateMfa_credentials update stored untouched := by
    simp only [mongoose, credentialIds, countersOf, credentialsOf, Mongoose.updateMfa,
      Option.bind_some, untouched]
    cases stored <;> rfl
  setEmailOtp otp stored := by cases stored <;> exact ⟨rfl, rfl⟩
  clearEmailOtp stored := by cases stored <;> exact ⟨rfl, rfl⟩

namespace Prisma

theorem secretOf_toIUser (rows : MfaRows) :
    secretOf (toIUser rows) = rows.mfa_totp.bind TotpMethod.secret := by
  rw [secretOf, bind_toIUser_totp]

theorem credentialIds_toIUser (rows : MfaRows) :
    credentialIds (toIUser rows) =
      rows.webauthn_credentials.map WebAuthnCredential.credential_id := by
  rw [credentialIds, countersOf_toIUser, List.map_map]
  rfl

end Prisma

theorem prisma_keepsFactors : KeepsFactors prisma where
  update_secret written rows same := by
    simp only [prisma, Prisma.bind_toIUser_totp, Prisma.secretOf_toIUser] at same ⊢
    rw [Prisma.update, same, Option.or_self]
  updateMfa_secret update rows untouched := by
    simp only [prisma, Prisma.secretOf_toIUser, Prisma.updateMfa, untouched, Option.map_none,
      Option.none_or]
  updateMfa_credentials update rows _ := by
    simp only [prisma, Prisma.credentialIds_toIUser, Prisma.updateMfa]
  setEmailOtp otp rows := by
    simp only [prisma, Prisma.secretOf_toIUser, Prisma.credentialIds_toIUser, Prisma.setEmailOtp,
      and_self]
  clearEmailOtp rows := by
    simp only [prisma, Prisma.secretOf_toIUser, Prisma.credentialIds_toIUser,
      Prisma.clearEmailOtp, and_self]

section Operations

variable {Stored : Type} {repository : Repository Stored} (services : MfaServices)
  (keeps : KeepsFactors repository) (user : MfaUser Stored)

theorem factorsKept_of_same {stored : Stored}
    (status : statusOf (repository.mfa stored) = statusOf (repository.mfa user.stored))
    (same : secretOf (repository.mfa stored) = secretOf (repository.mfa user.stored) ∧
      credentialIds (repository.mfa stored) = credentialIds (repository.mfa user.stored)) :
    FactorsKept (repository.mfa user.stored) (repository.mfa stored) := by
  apply factorsKept_of
  · intro method enabled
    rw [isEnabled_eq] at enabled ⊢
    rwa [status]
  · exact fun _ => same.1
  · intro _
    rw [same.2]
    exact List.Subset.refl _

include keeps

theorem updateMfa_kept_iff (update : MfaUpdate)
    (noOther : isTotpEnabled (repository.mfa user.stored) = true →
      ∀ totp, update.totp = some totp → totp.usable = false) :
    FactorsKept (repository.mfa user.stored)
        (repository.mfa (user.updateMfa repository update).stored) ↔
      ∀ method, (statusOf (repository.mfa user.stored)).has method = true →
        ((statusOf (repository.mfa user.stored)).updated update).has method = true := by
  have after (method : MfaMethod) :
      method.isEnabled (repository.mfa (user.updateMfa repository update).stored) =
        ((statusOf (repository.mfa user.stored)).updated update).has method := by
    rw [isEnabled_eq, MfaUser.updateMfa, repository.updateMfa_status]
  constructor
  · intro kept method enabled
    by_contra disabled
    rw [Bool.not_eq_true, ← after] at disabled
    rw [← isEnabled_eq] at enabled
    exact not_kept_of_disabled enabled disabled kept
  · intro stays
    apply factorsKept_of
    · intro method enabled
      rw [after]
      exact stays method (isEnabled_eq _ method ▸ enabled)
    · intro enabled
      apply keeps.updateMfa_secret
      cases isTotp : update.totp with
      | none => rfl
      | some totp =>
        have usable := stays .totp enabled
        simp only [MfaStatus.has, MfaStatus.updated, isTotp, Option.map_some, Option.getD_some,
          noOther enabled totp isTotp, Bool.and_false] at usable
        cases usable
    · intro enabled
      have usable := stays .webauthn enabled
      simp only [MfaStatus.has, MfaStatus.updated, Bool.and_eq_true, Bool.not_eq_true'] at usable
      rw [MfaUser.updateMfa, keeps.updateMfa_credentials update user.stored usable.2.1]
      exact List.Subset.refl _

theorem initiateMfaTotpSetup_kept_iff (now : Nat) (secret : String) :
    FactorsKept (repository.mfa user.stored) (repository.mfa
        (mfaStep repository services user (now, .initiateMfaTotpSetup secret)).stored) ↔
      (isTotpSecret secret = true → isTotpEnabled (repository.mfa user.stored) = false) := by
  simp only [mfaStep]
  by_cases isSecret : isTotpSecret secret = true
  · rw [if_pos isSecret, updateMfa_kept_iff keeps user]
    · rw [forall_prop_of_true isSecret, isTotpEnabled]
      obtain ⟨enabled, totp, email, webauthn⟩ := statusOf (repository.mfa user.stored)
      constructor
      · intro stays
        simpa [MfaStatus.has, MfaStatus.updated, TotpUpdate.usable] using stays .totp
      · intro disabled method has
        cases method with
        | totp => exact absurd has (by rw [MfaStatus.has, disabled]; exact Bool.false_ne_true)
        | email | webauthn => simpa [MfaStatus.has, MfaStatus.updated] using has
    · rintro _ totp ⟨⟩
      rfl
  · rw [if_neg isSecret]
    exact iff_of_true (FactorsKept.refl _) fun positive => absurd positive isSecret

theorem enableMfaTotp_kept (now : Nat) (secret : String)
    (isPending : (statusOf (repository.mfa user.stored)).totp = false) :
    FactorsKept (repository.mfa user.stored) (repository.mfa
      (mfaStep repository services user (now, .enableMfaTotp secret)).stored) := by
  simp only [mfaStep]
  split
  · apply (updateMfa_kept_iff keeps user _ ?_).mpr
    · intro method has
      cases method <;> simp_all [MfaStatus.has, MfaStatus.updated]
    · intro enabled
      rw [isTotpEnabled, isPending, Bool.and_false] at enabled
      cases enabled
  · exact FactorsKept.refl _

theorem enableMfaEmail_kept (now : Nat) :
    FactorsKept (repository.mfa user.stored) (repository.mfa
      (mfaStep repository services user (now, .enableMfaEmail)).stored) := by
  simp only [mfaStep]
  apply (updateMfa_kept_iff keeps user _ ?_).mpr
  · intro method has
    cases method <;> simp_all [MfaStatus.has, MfaStatus.updated, EmailUpdate.enabled]
  · rintro _ totp ⟨⟩

omit keeps in
theorem disabled_iff (status : MfaStatus) (method : MfaMethod) {update : MfaUpdate}
    (isUpdate : status.updated update =
      { enabled := status.hasOther method
        totp := status.totp && decide (method ≠ .totp)
        email := status.email && decide (method ≠ .email)
        webauthn := status.webauthn && decide (method ≠ .webauthn) }) :
    (∀ other, status.has other = true → (status.updated update).has other = true) ↔
      status.has method = false := by
  rw [isUpdate]
  obtain ⟨enabled, totp, email, webauthn⟩ := status
  constructor
  · intro stays
    by_contra has
    have impossible := stays method (by simpa using has)
    cases method <;> simp [MfaStatus.has] at impossible
  · intro disabled other has
    cases method <;> cases other <;> simp_all [MfaStatus.has, MfaStatus.hasOther]

theorem disableMfa_kept_iff (now : Nat) (method : Option MfaMethod) :
    FactorsKept (repository.mfa user.stored) (repository.mfa
        (mfaStep repository services user (now, .disableMfa method)).stored) ↔
      ∀ disabled, method = none ∨ method = some disabled →
        disabled.isEnabled (repository.mfa user.stored) = false := by
  simp only [mfaStep]
  have noOther : ∀ totp, (disableUpdate (repository.mfa user.stored) method).totp = some totp →
      totp.usable = false := by
    intro totp isTotp
    rcases method with _ | method
    · injection isTotp with isTotp
      subst isTotp
      rfl
    · cases method with
      | totp =>
        injection isTotp with isTotp
        subst isTotp
        rfl
      | email | webauthn => cases isTotp
  rw [updateMfa_kept_iff keeps user _ fun _ => noOther]
  simp only [isEnabled_eq]
  rcases method with _ | method
  · rw [disableUpdate]
    obtain ⟨enabled, totp, email, webauthn⟩ := statusOf (repository.mfa user.stored)
    constructor
    · intro stays disabled _
      by_contra has
      have impossible := stays disabled (by simpa using has)
      cases disabled <;> cases impossible
    · intro noMethod method has
      rw [noMethod method (.inl rfl)] at has
      cases has
  · simp only [reduceCtorEq, Option.some.injEq, false_or, forall_eq']
    cases method <;> rw [disableUpdate, hasAnyMethodEnabled_eq] <;> apply disabled_iff <;>
      simp [MfaStatus.updated, TotpUpdate.usable, EmailUpdate.enabled]

omit keeps in
theorem credentialIds_written {call : CredentialCall} {maxCredentialsPerUser now : Nat}
    {written : Mfa} (writes : call.write maxCredentialsPerUser now (repository.mfa user.stored) =
      .ok (some written)) :
    credentialIds (repository.mfa (repository.update written user.stored)) =
      (call.counters (countersOf (repository.mfa user.stored))).map Prod.fst := by
  obtain ⟨isSome, counters⟩ := write_counters writes
  rw [credentialIds, repository.update_counters written user.stored isSome, counters]

theorem secret_written (enabled : Bool) (webauthn : WebAuthnMethod) :
    secretOf (repository.mfa (repository.update
        (withWebAuthn (repository.mfa user.stored) enabled webauthn) user.stored)) =
      secretOf (repository.mfa user.stored) := by
  apply keeps.update_secret
  cases repository.mfa user.stored <;> rfl

theorem changed_kept {call : CredentialCall} {maxCredentialsPerUser now : Nat}
    (unchanging : Unchanging (repository.mfa user.stored)
      (call.write maxCredentialsPerUser now (repository.mfa user.stored)))
    (sameIds : ∀ copy, (call.counters copy).map Prod.fst = copy.map Prod.fst) :
    FactorsKept (repository.mfa user.stored) (repository.mfa (user.write repository
      (call.write maxCredentialsPerUser now (repository.mfa user.stored))).stored) := by
  have status := (unchanging_status unchanging).1
  generalize isWritten : call.write maxCredentialsPerUser now (repository.mfa user.stored) =
    written at unchanging status ⊢
  cases unchanging with
  | fails _ | finds => exact FactorsKept.refl _
  | changes credentialId change =>
    refine factorsKept_of_same user status ⟨secret_written keeps user _ _, ?_⟩
    exact (credentialIds_written user isWritten).trans (sameIds _)

theorem addCredential_kept (maxCredentialsPerUser now : Nat) (credential : WebAuthnCredential) :
    FactorsKept (repository.mfa user.stored) (repository.mfa (user.write repository
      ((CredentialCall.add credential).write maxCredentialsPerUser now
        (repository.mfa user.stored))).stored) := by
  cases isWritten : (CredentialCall.add credential).write maxCredentialsPerUser now
      (repository.mfa user.stored) with
  | error message => exact FactorsKept.refl _
  | ok written =>
    cases written with
    | none => exact FactorsKept.refl _
    | some written =>
      have ids := credentialIds_written user isWritten
      simp only [CredentialCall.write, addCredential] at isWritten
      split at isWritten
      · cases isWritten
      · split at isWritten
        · cases isWritten
        · injection isWritten with isWritten
          injection isWritten with isWritten
          subst isWritten
          apply factorsKept_of
          · intro method enabled
            rw [isEnabled_eq] at enabled ⊢
            rw [MfaUser.write, written_status]
            cases method <;> simp_all [MfaStatus.has, WebAuthnMethod.usable]
          · exact fun _ => secret_written keeps user _ _
          · intro _
            rw [MfaUser.write, ids, CredentialCall.counters, List.map_append]
            exact List.subset_append_left _ _

omit keeps in
theorem credentialIds_mem (mfa : Option Mfa) (credentialId : String) :
    credentialId ∈ credentialIds mfa ↔
      ∃ credential ∈ credentialsOf mfa, credential.credential_id = credentialId := by
  simp [credentialIds, countersOf]

omit keeps in
theorem removeCredential_none_iff (mfa : Option Mfa) (credentialId : String) :
    removeCredential mfa credentialId = none ↔ credentialId ∉ credentialIds mfa := by
  rw [removeCredential, credentialIds_mem]
  simp only [ite_eq_left_iff, reduceCtorEq, imp_false, not_not, List.length_filter_eq_length_iff,
    decide_eq_true_eq, not_exists, not_and]

theorem removeCredential_kept_iff (maxCredentialsPerUser now : Nat) (credentialId : String) :
    FactorsKept (repository.mfa user.stored) (repository.mfa (user.write repository
        ((CredentialCall.remove credentialId).write maxCredentialsPerUser now
          (repository.mfa user.stored))).stored) ↔
      hasFactor (repository.mfa user.stored) (.webauthn credentialId) = false := by
  cases removed : removeCredential (repository.mfa user.stored) credentialId with
  | none =>
    have unknown := (removeCredential_none_iff _ _).mp removed
    rw [CredentialCall.write, removed]
    refine iff_of_true (FactorsKept.refl _) ?_
    rw [hasFactor, Bool.and_eq_false_iff, ← Bool.not_eq_true, ← Bool.not_eq_true,
      List.contains_iff_mem]
    exact .inr unknown
  | some written =>
    have isWritten : (CredentialCall.remove credentialId).write maxCredentialsPerUser now
        (repository.mfa user.stored) = .ok (some written) := congrArg Except.ok removed
    have ids := credentialIds_written user isWritten
    have known : credentialId ∈ credentialIds (repository.mfa user.stored) := by
      by_contra unknown
      rw [(removeCredential_none_iff _ _).mpr unknown] at removed
      cases removed
    rw [isWritten]
    constructor
    · intro kept
      by_contra has
      have still := kept _ (by simpa using has)
      have member := List.contains_iff_mem.mp (Bool.and_eq_true_iff.mp still).2
      rw [MfaUser.write, ids, CredentialCall.counters] at member
      obtain ⟨entry, isLeft, same⟩ := List.mem_map.mp member
      exact of_decide_eq_true (List.mem_filter.mp isLeft).2 same
    · intro hasNot
      have disabled : isWebAuthnEnabled (repository.mfa user.stored) = false := by
        rw [hasFactor, Bool.and_eq_false_iff] at hasNot
        rcases hasNot with disabled | unknown
        · exact disabled
        · rw [List.contains_iff_mem.mpr known] at unknown
          cases unknown
      rw [removeCredential] at removed
      split at removed
      · cases removed
      · injection removed with removed
        subst removed
        apply factorsKept_of
        · intro method enabled
          cases method with
          | webauthn =>
            rw [MfaMethod.isEnabled, disabled] at enabled
            cases enabled
          | totp | email =>
            rw [isEnabled_eq] at enabled ⊢
            rw [MfaUser.write, written_status]
            simp_all [MfaStatus.has, hasOtherMethods]
        · exact fun _ => secret_written keeps user _ _
        · intro enabled
          rw [disabled] at enabled
          cases enabled

theorem credentials_kept_iff (now : Nat) (call : CredentialCall) :
    FactorsKept (repository.mfa user.stored) (repository.mfa
        (mfaStep repository services user (now, .credentials call)).stored) ↔
      ∀ credentialId, call = .remove credentialId →
        hasFactor (repository.mfa user.stored) (.webauthn credentialId) = false := by
  simp only [mfaStep]
  cases call with
  | remove credentialId =>
    rw [removeCredential_kept_iff keeps]
    simp only [CredentialCall.remove.injEq, forall_eq']
  | add credential =>
    refine iff_of_true (addCredential_kept keeps user _ _ credential) ?_
    rintro _ ⟨⟩
  | rename credentialId newName =>
    refine iff_of_true (changed_kept keeps user ?_ fun _ => rfl) ?_
    · exact renameCredential_unchanging _ credentialId newName
    · rintro _ ⟨⟩
  | updateCounter credentialId newCounter =>
    refine iff_of_true (changed_kept keeps user ?_ fun copy => ?_) ?_
    · exact updateCredentialCounter_unchanging _ credentialId newCounter
    · rw [CredentialCall.counters, List.map_map]
      apply List.map_congr_left
      intro entry _
      rw [Function.comp_apply]
      split <;> rfl
    · rintro _ ⟨⟩
  | updateLastUsed credentialId =>
    refine iff_of_true (changed_kept keeps user ?_ fun _ => rfl) ?_
    · exact updateCredentialLastUsed_unchanging now _ credentialId
    · rintro _ ⟨⟩

end Operations

end ParakoId.SecondFactors
