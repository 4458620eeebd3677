import ParakoId.RedisKeys.Disjoint
import ParakoId.Tenancy.SessionBinding

/-!
Session ids that carry a tenant, and the SQL session store that takes the tenant from the id.
-/

namespace ParakoId.SessionStore

open TenantScope (isTenantSlug SYSTEM_TENANTS DEFAULT_TENANT_ID)
open Tenancy (Request ExtractionSource MultiTenancy Session presentText)
open RedisKeys (RandomUUID uuid_free)
open Url (labels)

def isSessionTenantId (value : String) : Bool :=
  value == DEFAULT_TENANT_ID || SYSTEM_TENANTS.contains value || isTenantSlug value

def createTenantSessionId (tenantId randomComponent : String) : Except String String :=
  if isSessionTenantId tenantId = false then
    .error "Invalid tenant identifier for session ID"
  else if randomComponent = "" then .error "Session ID random component must not be empty"
  else .ok (tenantId ++ "." ++ randomComponent)

def tenantIdFromSessionId (sessionId : String) : String :=
  let tenantId := String.ofList (sessionId.toList.takeWhile (· != '.'))
  if sessionId.toList.contains '.' ∧ isSessionTenantId tenantId = true then tenantId
  else DEFAULT_TENANT_ID

def sourceCandidate (tenantHeader : String) (request : Request) : ExtractionSource → Option String
  | .header => presentText
      (request.headers (if tenantHeader = "" then "x-tenant-id" else tenantHeader))
  | .subdomain =>
    let parts := labels request.hostname.toList
    if 3 ≤ parts.length then parts.head?.map String.ofList else none

def resolveNewSessionTenantId (multiTenancy : MultiTenancy) (request : Option Request) : String :=
  match request with
  | none => DEFAULT_TENANT_ID
  | some request =>
    if multiTenancy.enabled = false then DEFAULT_TENANT_ID
    else
      let candidate := (multiTenancy.extraction_priority.findSome?
        (sourceCandidate multiTenancy.tenant_header request)).getD DEFAULT_TENANT_ID
      match createTenantSessionId candidate "validation" with
      | .ok _ => candidate
      | .error _ => DEFAULT_TENANT_ID

def generateSessionId (multiTenancy : MultiTenancy) (request : Option Request)
    (randomComponent : String) : Except String String :=
  if multiTenancy.enabled = false then .ok randomComponent
  else createTenantSessionId (resolveNewSessionTenantId multiTenancy request) randomComponent

/-- The default `sessionIdGenerator`. -/
structure RandomComponent extends RandomUUID where
  nonempty : text ≠ ""

theorem isSessionTenantId_default : isSessionTenantId DEFAULT_TENANT_ID = true := by
  simp [isSessionTenantId]

theorem isSessionTenantId_noDot {tenantId : String} (valid : isSessionTenantId tenantId = true) :
    '.' ∉ tenantId.toList := by
  by_cases isDefault : tenantId = DEFAULT_TENANT_ID
  · rw [isDefault]
    decide
  · have accepted : tenantId ∈ SYSTEM_TENANTS ∨ isTenantSlug tenantId = true := by
      simpa [isSessionTenantId, isDefault] using valid
    exact RedisKeys.tenant_noDot ⟨tenantId, accepted⟩

theorem takeWhile_prefix {first rest : List Char} (noDot : '.' ∉ first) :
    (first ++ '.' :: rest).takeWhile (· != '.') = first := by
  have kept : ∀ letter ∈ first, (letter != '.') = true := by
    intro letter member
    simp only [bne_iff_ne, ne_eq]
    rintro rfl
    exact noDot member
  rw [Text.takeWhile_append_of_neg first rest (by simp)]
  exact List.takeWhile_eq_self_iff.mpr kept

theorem tenantIdFromSessionId_create {tenantId randomComponent sessionId : String}
    (created : createTenantSessionId tenantId randomComponent = .ok sessionId) :
    tenantIdFromSessionId sessionId = tenantId := by
  rw [createTenantSessionId] at created
  split at created
  · cases created
  · rename_i valid
    rw [Bool.not_eq_false] at valid
    split at created
    · cases created
    · injection created with isId
      subst isId
      have isTenant : (tenantId ++ "." ++ randomComponent).toList.takeWhile (· != '.') =
          tenantId.toList := by
        have parts : (tenantId ++ "." ++ randomComponent).toList =
            tenantId.toList ++ '.' :: randomComponent.toList := by simp
        rw [parts, takeWhile_prefix (isSessionTenantId_noDot valid)]
      have hasDot : (tenantId ++ "." ++ randomComponent).toList.contains '.' = true := by simp
      rw [tenantIdFromSessionId]
      simp only [isTenant, String.ofList_toList, hasDot, valid, and_self, if_true]

theorem tenantIdFromSessionId_random (random : RandomComponent) :
    tenantIdFromSessionId random.text = DEFAULT_TENANT_ID := by
  have noDot : '.' ∉ random.text.toList := uuid_free random.toRandomUUID (by decide)
  simp [tenantIdFromSessionId, noDot]

theorem resolveNewSessionTenantId_enabled {multiTenancy : MultiTenancy} (request : Request)
    (enabled : multiTenancy.enabled = true) :
    resolveNewSessionTenantId multiTenancy (some request) =
      let candidate := (multiTenancy.extraction_priority.findSome?
        (sourceCandidate multiTenancy.tenant_header request)).getD DEFAULT_TENANT_ID
      if isSessionTenantId candidate = true then candidate else DEFAULT_TENANT_ID := by
  simp only [resolveNewSessionTenantId, enabled, createTenantSessionId]
  generalize (multiTenancy.extraction_priority.findSome? _).getD DEFAULT_TENANT_ID = candidate
  cases isSessionTenantId candidate <;> rfl

theorem isSessionTenantId_resolved (multiTenancy : MultiTenancy) (request : Request) :
    isSessionTenantId (resolveNewSessionTenantId multiTenancy (some request)) = true := by
  cases enabled : multiTenancy.enabled with
  | false => simp [resolveNewSessionTenantId, enabled, isSessionTenantId_default]
  | true =>
    rw [resolveNewSessionTenantId_enabled request enabled]
    simp only
    split
    · assumption
    · exact isSessionTenantId_default

/-! The SQL store. The client scopes what it runs to the tenant it runs for. -/

structure SessionRow where
  sid : String
  data : Session
  expires_at : Nat
  tenant_id : String

def SessionRow.isAt (tenantId sid : String) (row : SessionRow) : Bool :=
  row.sid == sid && row.tenant_id == tenantId

/-- How many rows an `updateMany` has found, and what becomes of the rows. -/
def updateMany (tenantId sid : String) (written : SessionRow) (rows : List SessionRow) :
    Nat × List SessionRow :=
  (rows.countP (SessionRow.isAt tenantId sid),
    rows.map fun row => if row.isAt tenantId sid then written else row)

def create (written : SessionRow) (rows : List SessionRow) : Option (List SessionRow) :=
  if rows.any fun row => row.sid == written.sid then none else some (rows ++ [written])

def PrismaSessionStore.set (rows : List SessionRow) (sid : String) (session : Session)
    (expires_at : Nat) : Except String (List SessionRow) :=
  let tenant_id := tenantIdFromSessionId sid
  let written : SessionRow := { sid, data := session, expires_at, tenant_id }
  let updated := updateMany tenant_id sid written rows
  if 0 < updated.1 then .ok updated.2
  else
    match create written rows with
    | some created => .ok created
    | none =>
      let retried := updateMany tenant_id sid written rows
      if retried.1 = 0 then .error "P2002" else .ok retried.2

def PrismaSessionStore.get (rows : List SessionRow) (sid : String) (now : Nat) : Option Session :=
  let tenantId := tenantIdFromSessionId sid
  match rows.find? (SessionRow.isAt tenantId sid) with
  | none => none
  | some row =>
    if row.expires_at < now then none
    else if row.data.tenantId.any (· != tenantId) then none
    else some row.data

def Partitioned (rows : List SessionRow) : Prop :=
  ∀ row ∈ rows, row.tenant_id = tenantIdFromSessionId row.sid

variable {rows : List SessionRow}

theorem isAt_partitioned (partitioned : Partitioned rows) {row : SessionRow}
    (member : row ∈ rows) (sid : String) :
    row.isAt (tenantIdFromSessionId sid) sid = true ↔ row.sid = sid := by
  simp only [SessionRow.isAt, Bool.and_eq_true, beq_iff_eq]
  constructor
  · exact fun both => both.1
  · rintro rfl
    exact ⟨rfl, partitioned row member⟩

theorem find_updated {test : SessionRow → Bool} {written : SessionRow}
    (isFound : test written = true) (found : 0 < rows.countP test) :
    (rows.map fun row => if test row then written else row).find? test = some written := by
  induction rows with
  | nil => simp at found
  | cons first rest ih =>
    rw [List.map_cons]
    by_cases passes : test first = true
    · rw [if_pos passes, List.find?_cons_of_pos isFound]
    · rw [if_neg passes, List.find?_cons_of_neg passes]
      rw [List.countP_cons_of_neg passes] at found
      exact ih found

theorem set_partitioned (partitioned : Partitioned rows) (sid : String) (session : Session)
    (expires_at : Nat) :
    ∃ written, PrismaSessionStore.set rows sid session expires_at = .ok written ∧
      Partitioned written ∧
      written.find? (SessionRow.isAt (tenantIdFromSessionId sid) sid) =
        some ⟨sid, session, expires_at, tenantIdFromSessionId sid⟩ := by
  let row : SessionRow := ⟨sid, session, expires_at, tenantIdFromSessionId sid⟩
  have isFound : row.isAt (tenantIdFromSessionId sid) sid = true := by
    simp [SessionRow.isAt, row]
  by_cases found : 0 < rows.countP (SessionRow.isAt (tenantIdFromSessionId sid) sid)
  · refine ⟨_, if_pos found, ?_, find_updated isFound found⟩
    intro other member
    obtain ⟨original, isRow, rfl⟩ := List.mem_map.mp member
    split
    · rfl
    · exact partitioned original isRow
  · have absent : ∀ other ∈ rows, ¬ other.isAt (tenantIdFromSessionId sid) sid = true := by
      rw [← List.countP_eq_zero]
      omega
    have fresh : rows.any (fun other => other.sid == sid) = false := by
      rw [List.any_eq_false]
      intro other member same
      exact absent other member ((isAt_partitioned partitioned member sid).mpr (by simpa using same))
    refine ⟨rows ++ [row], ?_, ?_, ?_⟩
    · have created : create row rows = some (rows ++ [row]) := by
        rw [create, fresh]
        rfl
      refine (if_neg found).trans ?_
      rw [created]
    · intro other member
      rcases List.mem_append.mp member with earlier | isNew
      · exact partitioned other earlier
      · rw [List.mem_singleton.mp isNew]
    · rw [List.find?_append, List.find?_eq_none.mpr absent, Option.none_or,
        List.find?_cons_of_pos isFound]

theorem get_set (partitioned : Partitioned rows) (sid : String) (session : Session)
    {expires_at now : Nat} (live : now ≤ expires_at) :
    ∃ written, PrismaSessionStore.set rows sid session expires_at = .ok written ∧
      (PrismaSessionStore.get written sid now = some session ↔
        ∀ bound, session.tenantId = some bound → bound = tenantIdFromSessionId sid) := by
  obtain ⟨written, isSet, _, found⟩ := set_partitioned partitioned sid session expires_at
  refine ⟨written, isSet, ?_⟩
  have notExpired : ¬ expires_at < now := by omega
  simp only [PrismaSessionStore.get, found, if_neg notExpired]
  cases isBound : session.tenantId with
  | none | some _ => simp

end ParakoId.SessionStore
