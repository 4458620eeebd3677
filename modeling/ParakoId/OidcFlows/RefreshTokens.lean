import Mathlib.Tactic.Linarith
import ParakoId.Library.Json
import ParakoId.Library.Runs

/-! The lifetimes of the refresh tokens that replace each other. -/

namespace ParakoId.OidcFlows

def getPositiveFiniteTtl : Option Json → Option ℚ
  | some (.num (.finite value)) => if 0 < value then some value else none
  | _ => none

structure TokenClient where
  applicationType : Option String
  clientAuthMethod : Option String
  ttl : Option Json

def getClientTtlOverride (client : TokenClient) (key : String) : Option ℚ :=
  getPositiveFiniteTtl (client.ttl.bind (·.property key))

/-- `rotated` is the `remainingTTL` of the token that is replaced, if one is. -/
def RefreshTokenTTL (refresh_token : ℚ) (rotated : Option (Option Json)) (client : TokenClient)
    (isSenderConstrained : Option Bool) : ℚ :=
  let remainingTtl := match rotated with
    | some remainingTTL =>
      if client.applicationType = some "web" ∧ client.clientAuthMethod = some "none" ∧
          isSenderConstrained = some false then getPositiveFiniteTtl remainingTTL
      else none
    | none => none
  match remainingTtl with
  | some remaining => remaining
  | none => (getClientTtlOverride client "RefreshToken").getD refresh_token

def publicWebClient (ttl : Option Json) : TokenClient := ⟨some "web", some "none", ttl⟩

/-- oidc-provider checks the expiry of the token, creates the next one, and asks for its lifetime;
that its clock reads the times in this order is assumed of it. -/
structure Rotation where
  accepted : ℚ
  created : ℚ
  asked : ℚ
  in_order : accepted ≤ created ∧ created ≤ asked

/-- When the first token of a chain expires, and when the last one does. -/
structure TokenChain where
  first : ℚ
  expiry : ℚ
  deriving DecidableEq

def TokenChain.NotProlonged (chain : TokenChain) : Prop := chain.expiry ≤ chain.first

section

variable (refresh_token : ℚ) (ttl : Option Json)

def fullTtl : ℚ := RefreshTokenTTL refresh_token none (publicWebClient ttl) (some false)

def issued (created : ℚ) : TokenChain :=
  ⟨created + fullTtl refresh_token ttl, created + fullTtl refresh_token ttl⟩

def rotate (chain : TokenChain) (rotation : Rotation) : TokenChain :=
  if rotation.accepted < chain.expiry then
    let remainingTTL := Json.num (.finite (chain.expiry - rotation.asked))
    { chain with expiry := rotation.created +
        RefreshTokenTTL refresh_token (some (some remainingTTL)) (publicWebClient ttl) (some false) }
  else chain

/-- Where the provider accepts the token, it has time left when the new lifetime is asked for, or
the full lifetime ends with that of the first token. -/
def EndsInTime (chain : TokenChain) (rotation : Rotation) : Prop :=
  rotation.accepted < chain.expiry →
    rotation.asked < chain.expiry ∨ rotation.created + fullTtl refresh_token ttl ≤ chain.first

end

variable {refresh_token : ℚ} {ttl : Option Json}

theorem rotated_lifetime (remaining : ℚ) :
    RefreshTokenTTL refresh_token (some (some (.num (.finite remaining)))) (publicWebClient ttl)
        (some false) =
      if 0 < remaining then remaining else fullTtl refresh_token ttl := by
  by_cases isLeft : 0 < remaining
  · simp [RefreshTokenTTL, publicWebClient, getPositiveFiniteTtl, isLeft]
  · simp [RefreshTokenTTL, publicWebClient, getPositiveFiniteTtl, isLeft, fullTtl]

theorem rotate_notProlonged_iff {chain : TokenChain} (isBounded : chain.NotProlonged)
    (rotation : Rotation) :
    (rotate refresh_token ttl chain rotation).NotProlonged ↔
      EndsInTime refresh_token ttl chain rotation := by
  rw [TokenChain.NotProlonged] at isBounded ⊢
  by_cases isAccepted : rotation.accepted < chain.expiry
  · simp only [rotate, EndsInTime, isAccepted, if_true, rotated_lifetime, forall_const, sub_pos]
    by_cases isLeft : rotation.asked < chain.expiry
    · have inOrder := rotation.in_order.2
      simp only [isLeft, if_true, true_or, iff_true]
      linarith
    · simp only [isLeft, if_false, false_or]
  · simp [rotate, EndsInTime, isAccepted, isBounded]

end ParakoId.OidcFlows
