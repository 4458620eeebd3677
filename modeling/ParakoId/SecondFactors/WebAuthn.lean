import ParakoId.SecondFactors.Methods

/-!
The operations on WebAuthn credentials. Each reads the second factors of the user and writes all
of them back, with the credentials changed.
-/

namespace ParakoId.SecondFactors

/-- `{ ...user.mfa, enabled, methods: { ...user.mfa?.methods, webauthn } }`. -/
def withWebAuthn (mfa : Option Mfa) (enabled : Bool) (webauthn : WebAuthnMethod) : Mfa :=
  { mfa.getD .blank with enabled, webauthn := some webauthn }

def verifiedAt (mfa : Option Mfa) : Option Nat :=
  (mfa.bind Mfa.webauthn).bind WebAuthnMethod.verified_at

/-- Another method to sign in with once there is no credential. -/
def hasOtherMethods (mfa : Option Mfa) : Bool := (statusOf mfa).totp || (statusOf mfa).email

def addCredential (maxCredentialsPerUser : Nat) (now : Nat) (mfa : Option Mfa)
    (credential : WebAuthnCredential) : Except String Mfa :=
  let existingCreds := credentialsOf mfa
  if maxCredentialsPerUser ≤ existingCreds.length then
    .error ("Maximum number of passkeys (" ++ toString maxCredentialsPerUser ++ ") reached")
  else if existingCreds.any fun other => other.credential_id == credential.credential_id then
    .error "Credential already exists"
  else
    .ok (withWebAuthn mfa true
      { enabled := true, credentials := existingCreds ++ [credential]
        verified_at := some ((verifiedAt mfa).getD now) })

def removeCredential (mfa : Option Mfa) (credentialId : String) : Option Mfa :=
  let existingCreds := credentialsOf mfa
  let updatedCreds := existingCreds.filter fun other => other.credential_id ≠ credentialId
  if updatedCreds.length = existingCreds.length then none
  else
    some (withWebAuthn mfa (hasOtherMethods mfa || !updatedCreds.isEmpty)
      { enabled := !updatedCreds.isEmpty, credentials := updatedCreds
        verified_at := verifiedAt mfa })

def changeCredential (mfa : Option Mfa) (credentialId : String)
    (change : WebAuthnCredential → WebAuthnCredential) : Mfa :=
  withWebAuthn mfa (mfa.any Mfa.enabled)
    { enabled := (mfa.bind Mfa.webauthn).any WebAuthnMethod.enabled
      credentials := (credentialsOf mfa).map fun other =>
        if other.credential_id = credentialId then change other else other
      verified_at := verifiedAt mfa }

def findCredential (mfa : Option Mfa) (credentialId : String) : Option WebAuthnCredential :=
  (credentialsOf mfa).find? fun other => other.credential_id == credentialId

/-- Without such a credential nothing is written. -/
def renameCredential (mfa : Option Mfa) (credentialId newName : String) :
    Except String (Option Mfa) :=
  let normalizedName := Schemas.trim newName
  if normalizedName = "" then .error "Friendly name is required"
  else .ok ((findCredential mfa credentialId).map fun _ =>
    changeCredential mfa credentialId fun other => { other with friendly_name := normalizedName })

def MAX_SAFE_INTEGER : Int := 2 ^ 53 - 1

def updateCredentialCounter (mfa : Option Mfa) (credentialId : String) (newCounter : Int) :
    Except String Mfa :=
  if MAX_SAFE_INTEGER < newCounter ∨ newCounter < 0 then
    .error "Credential counter must be a non-negative safe integer"
  else match findCredential mfa credentialId with
    | none => .error "Credential not found"
    | some existingCredential =>
      if newCounter < existingCredential.counter then
        .error "Credential counter cannot move backwards"
      else .ok (changeCredential mfa credentialId fun other =>
        { other with counter := newCounter })

def updateCredentialLastUsed (now : Nat) (mfa : Option Mfa) (credentialId : String) :
    Except String Mfa :=
  match findCredential mfa credentialId with
  | none => .error "Credential not found"
  | some _ => .ok (changeCredential mfa credentialId fun other =>
    { other with last_used_at := some now })

def enableWebAuthnMfa (now : Nat) (mfa : Option Mfa) : Except String Mfa :=
  if (credentialsOf mfa).isEmpty then
    .error "Cannot enable WebAuthn MFA without any registered credentials"
  else
    .ok (withWebAuthn mfa true
      { enabled := true, credentials := credentialsOf mfa
        verified_at := some ((verifiedAt mfa).getD now) })

def disableWebAuthnMfa (mfa : Option Mfa) : Mfa :=
  withWebAuthn mfa (hasOtherMethods mfa)
    { enabled := false, credentials := [], verified_at := none }

inductive CredentialCall
  | add (credential : WebAuthnCredential)
  | remove (credentialId : String)
  | rename (credentialId newName : String)
  | updateCounter (credentialId : String) (newCounter : Int)
  | updateLastUsed (credentialId : String)

/-- What a call writes back for what it has read; it may fail, or find nothing to change. -/
def CredentialCall.write (call : CredentialCall) (maxCredentialsPerUser now : Nat)
    (mfa : Option Mfa) : Except String (Option Mfa) :=
  match call with
  | .add credential => (addCredential maxCredentialsPerUser now mfa credential).map some
  | .remove credentialId => .ok (removeCredential mfa credentialId)
  | .rename credentialId newName => renameCredential mfa credentialId newName
  | .updateCounter credentialId newCounter =>
    (updateCredentialCounter mfa credentialId newCounter).map some
  | .updateLastUsed credentialId => (updateCredentialLastUsed now mfa credentialId).map some

def CredentialCall.counters (call : CredentialCall) (copy : List (String × Int)) :
    List (String × Int) :=
  match call with
  | .add credential => copy ++ [(credential.credential_id, credential.counter)]
  | .remove credentialId => copy.filter fun entry => entry.1 ≠ credentialId
  | .updateCounter credentialId newCounter =>
    copy.map fun entry => if entry.1 = credentialId then (entry.1, newCounter) else entry
  | _ => copy

theorem countersOf_withWebAuthn (mfa : Option Mfa) (enabled : Bool) (webauthn : WebAuthnMethod) :
    countersOf (some (withWebAuthn mfa enabled webauthn)) =
      webauthn.credentials.map fun credential =>
        (credential.credential_id, credential.counter) := rfl

theorem countersOf_kept (mfa : Option Mfa) (credentialId : String)
    {change : WebAuthnCredential → WebAuthnCredential}
    (kept : ∀ other, (change other).credential_id = other.credential_id ∧
      (change other).counter = other.counter) :
    countersOf (some (changeCredential mfa credentialId change)) = countersOf mfa := by
  rw [changeCredential, countersOf_withWebAuthn, countersOf, List.map_map]
  apply List.map_congr_left
  intro other _
  rw [Function.comp_apply]
  split
  · rw [(kept other).1, (kept other).2]
  · rfl

theorem countersOf_counted (mfa : Option Mfa) (credentialId : String) (newCounter : Int) :
    countersOf (some (changeCredential mfa credentialId fun other =>
        { other with counter := newCounter })) =
      (countersOf mfa).map fun entry =>
        if entry.1 = credentialId then (entry.1, newCounter) else entry := by
  rw [changeCredential, countersOf_withWebAuthn, countersOf, List.map_map, List.map_map]
  apply List.map_congr_left
  intro other _
  rw [Function.comp_apply, Function.comp_apply]
  split <;> rfl

theorem write_counters {call : CredentialCall} {maxCredentialsPerUser now : Nat}
    {mfa : Option Mfa} {written : Mfa}
    (writes : call.write maxCredentialsPerUser now mfa = .ok (some written)) :
    written.webauthn.isSome = true ∧
      countersOf (some written) = call.counters (countersOf mfa) := by
  cases call with
  | add credential =>
    simp only [CredentialCall.write, addCredential] at writes
    split at writes
    · cases writes
    · split at writes
      · cases writes
      · injection writes with writes
        injection writes with isWritten
        subst isWritten
        refine ⟨rfl, ?_⟩
        rw [countersOf_withWebAuthn, List.map_append]
        rfl
  | remove credentialId =>
    simp only [CredentialCall.write, removeCredential] at writes
    split at writes
    · cases writes
    · injection writes with writes
      injection writes with isWritten
      subst isWritten
      refine ⟨rfl, ?_⟩
      rw [countersOf_withWebAuthn, CredentialCall.counters, countersOf, List.filter_map]
      rfl
  | rename credentialId newName =>
    simp only [CredentialCall.write, renameCredential] at writes
    split at writes
    · cases writes
    · injection writes with writes
      obtain ⟨_, _, isWritten⟩ := Option.map_eq_some_iff.mp writes
      subst isWritten
      exact ⟨rfl, countersOf_kept mfa credentialId fun _ => ⟨rfl, rfl⟩⟩
  | updateCounter credentialId newCounter =>
    simp only [CredentialCall.write, updateCredentialCounter] at writes
    split at writes
    · cases writes
    · split at writes
      · cases writes
      · split at writes
        · cases writes
        · injection writes with writes
          injection writes with isWritten
          subst isWritten
          exact ⟨rfl, countersOf_counted mfa credentialId newCounter⟩
  | updateLastUsed credentialId =>
    simp only [CredentialCall.write, updateCredentialLastUsed] at writes
    split at writes
    · cases writes
    · injection writes with writes
      injection writes with isWritten
      subst isWritten
      exact ⟨rfl, countersOf_kept mfa credentialId fun _ => ⟨rfl, rfl⟩⟩

theorem add_writes {credential : WebAuthnCredential} {maxCredentialsPerUser now : Nat}
    {mfa written : Option Mfa}
    (writes : (CredentialCall.add credential).write maxCredentialsPerUser now mfa =
      .ok written) :
    (countersOf mfa).length < maxCredentialsPerUser ∧
      ∀ entry ∈ countersOf mfa, entry.1 ≠ credential.credential_id := by
  simp only [CredentialCall.write, addCredential] at writes
  split at writes
  · cases writes
  · rename_i room
    split at writes
    · cases writes
    · rename_i isNew
      rw [countersOf, List.length_map]
      refine ⟨by omega, ?_⟩
      intro entry member same
      obtain ⟨other, isOther, rfl⟩ := List.mem_map.mp member
      exact isNew (List.any_eq_true.mpr ⟨other, isOther, by simpa using same⟩)

end ParakoId.SecondFactors
