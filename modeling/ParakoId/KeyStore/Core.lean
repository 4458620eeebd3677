import ParakoId.Library.Tables

/-!
The rows of `jwks_keys`, the statements of `PrismaJwksKeyRepository`, key
generation, and the order in which `DBKeyStore` hands keys out. Times are
milliseconds.
-/

namespace ParakoId.KeyStore

inductive KeyStatus
  | active
  | expiring
  | retired
  deriving DecidableEq

structure JsonWebKey where
  kid : String
  alg : String
  use : String

/-- What `encryptJWK` stores: only `decryptJWK` under the same derived key opens it. -/
structure EncryptedJwk where
  sealedKey : JsonWebKey

def encryptJWK (privateJwk : JsonWebKey) : EncryptedJwk := ⟨privateJwk⟩

def decryptJWK (stored : EncryptedJwk) : JsonWebKey := stored.sealedKey

structure JwksKeyRecord where
  kid : String
  alg : String
  use : String
  status : KeyStatus
  promoted : Bool
  encrypted_private_key : EncryptedJwk
  public_key : JsonWebKey
  tenant_id : String
  created_at : Nat
  rotated_at : Option Nat

abbrev KeyTable := List JwksKeyRecord

def isCurrent (key : JwksKeyRecord) : Bool := key.status == .active || key.status == .expiring

def isActive (key : JwksKeyRecord) : Bool := key.status == .active

def isSigner (key : JwksKeyRecord) : Bool := key.status == .active && key.promoted

def algorithmKey (key : JwksKeyRecord) : String × String := (key.tenant_id, key.alg)

def kidKey (key : JwksKeyRecord) : String × String := (key.tenant_id, key.kid)

def UniqueKid (table : KeyTable) : Prop := Tables.UniqueOn (fun _ => true) kidKey table

-- index `jwks_keys_one_promoted_active_per_algorithm`
def UniqueSigner (table : KeyTable) : Prop := Tables.UniqueOn isSigner algorithmKey table

def Admissible (table : KeyTable) : Prop := UniqueKid table ∧ UniqueSigner table

instance (table : KeyTable) : Decidable (Admissible table) :=
  inferInstanceAs (Decidable (Tables.UniqueOn _ _ _ ∧ Tables.UniqueOn _ _ _))

def countCurrent (tenantId : String) (table : KeyTable) : Nat :=
  table.countP fun key => key.tenant_id == tenantId && isCurrent key

def findCurrent (tenantId : String) (table : KeyTable) : List JwksKeyRecord :=
  table.filter fun key => key.tenant_id == tenantId && isCurrent key

def findAll (tenantId : String) (table : KeyTable) : List JwksKeyRecord :=
  (table.filter fun key => key.tenant_id == tenantId).mergeSort fun first second =>
    decide (second.created_at ≤ first.created_at)

/-- One `INSERT` of all rows; `none` is the unique-constraint error P2002. -/
def insertMany (keys : List JwksKeyRecord) (table : KeyTable) : Option KeyTable :=
  if Admissible (table ++ keys) then some (table ++ keys) else none

def markPromotedActiveExpiring (tenantId : String) (rotatedAt : Nat) : KeyTable → KeyTable :=
  Tables.updateMany (fun key => key.tenant_id == tenantId && isSigner key)
    fun key => { key with status := .expiring, rotated_at := some rotatedAt }

def isUnpromoted (key : JwksKeyRecord) : Bool := key.status == .active && !key.promoted

def promotedTable (tenantId : String) : KeyTable → KeyTable :=
  Tables.updateMany (fun key => key.tenant_id == tenantId && isUnpromoted key)
    fun key => { key with promoted := true }

/-- The statement only adds rows to the partial index, so it fails at some row
exactly when its final rows are refused. -/
def promoteUnpromotedActive (tenantId : String) (table : KeyTable) : Option (KeyTable × Nat) :=
  if Admissible (promotedTable tenantId table) then
    some (promotedTable tenantId table,
      table.countP fun key => key.tenant_id == tenantId && isUnpromoted key)
  else none

def pastCutoff (cutoff : Int) (key : JwksKeyRecord) : Bool :=
  match key.rotated_at with
  | some rotatedAt => decide ((rotatedAt : Int) < cutoff)
  | none => false

def retireExpired (tenantId : String) (cutoff : Int) (table : KeyTable) : KeyTable × Nat :=
  (Tables.updateMany
      (fun key => key.tenant_id == tenantId && key.status == .expiring && pastCutoff cutoff key)
      (fun key => { key with status := .retired }) table,
    table.countP fun key =>
      key.tenant_id == tenantId && key.status == .expiring && pastCutoff cutoff key)

def retireByKid (tenantId kid : String) (table : KeyTable) : KeyTable × Bool :=
  (Tables.updateMany
      (fun key => key.tenant_id == tenantId && key.kid == kid && key.status != .retired)
      (fun key => { key with status := .retired, promoted := false }) table,
    table.countP
      (fun key => key.tenant_id == tenantId && key.kid == kid && key.status != .retired) == 1)

def promotionGroup (key : JwksKeyRecord) : Nat :=
  if key.status = .active ∧ key.promoted = true then 0
  else if key.status = .active then 1
  else 2

-- the comparator of `sortByPromotionGroup` does not return a positive number
def comesFirst (a b : JwksKeyRecord) : Bool :=
  if promotionGroup a ≠ promotionGroup b then decide (promotionGroup a < promotionGroup b)
  else decide (b.created_at ≤ a.created_at)

def sortByPromotionGroup (docs : List JwksKeyRecord) : List JwksKeyRecord :=
  docs.mergeSort comesFirst

def getJWKS (tenantId : String) (table : KeyTable) : List JsonWebKey :=
  (sortByPromotionGroup (findCurrent tenantId table)).map fun doc =>
    decryptJWK doc.encrypted_private_key

def getPublicJWKS (tenantId : String) (table : KeyTable) : List JsonWebKey :=
  (sortByPromotionGroup (findCurrent tenantId table)).map fun doc => doc.public_key

/-- One pass of the loop over the configured algorithms: `kid` is the thumbprint
of the fresh key pair. -/
structure GeneratedKey where
  alg : String
  kid : String
  created_at : Nat

def newRecord (tenantId : String) (promoted : Bool) (key : GeneratedKey) : JwksKeyRecord :=
  let jwk : JsonWebKey := { kid := key.kid, alg := key.alg, use := "sig" }
  { kid := key.kid
    alg := key.alg
    use := "sig"
    status := .active
    promoted := promoted
    encrypted_private_key := encryptJWK jwk
    public_key := jwk
    tenant_id := tenantId
    created_at := key.created_at
    rotated_at := none }

def generateKeys (tenantId : String) (promoted : Bool) (generated : List GeneratedKey) :
    List JwksKeyRecord :=
  generated.map (newRecord tenantId promoted)

end ParakoId.KeyStore
