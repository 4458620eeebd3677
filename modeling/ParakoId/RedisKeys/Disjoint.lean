import ParakoId.RedisKeys.Keys

/-!
The keys of different tenants: they differ from each other and from the keys without a tenant, and
no scan for one tenant or for sessions finds a key of another kind.
-/

namespace ParakoId.RedisKeys

open RedisAdapter (ModelName Kind Key buildRedisKey)
open TenantScope (SYSTEM_TENANTS DEFAULT_TENANT_ID isTenantSlug)

theorem keyPrefix_letters (keyPrefix : KeyPrefix) {letter : Char}
    (member : letter ∈ keyPrefix.text.toList) : letter ∉ [':', '*', '?', '[', '\\'] := by
  have valid := keyPrefix.characters letter member
  intro special
  simp only [List.mem_cons, List.not_mem_nil, or_false] at special
  rcases special with rfl | rfl | rfl | rfl | rfl <;> exact absurd valid (by decide)

theorem tenant_letters (tenant : TenantId) {letter : Char} (member : letter ∈ tenant.text.toList) :
    letter ∉ ['.', ':', '*', '?', '[', '\\'] := by
  intro special
  simp only [List.mem_cons, List.not_mem_nil, or_false] at special
  rcases tenant.accepted with system | slug
  · rw [List.mem_singleton.mp system] at member
    rcases special with rfl | rfl | rfl | rfl | rfl | rfl <;> exact absurd member (by decide)
  · simp only [isTenantSlug] at slug
    split at slug
    · cases slug
    · rename_i first rest isList
      rw [isList, List.mem_cons] at member
      simp only [Bool.and_eq_true, List.all_eq_true] at slug
      obtain ⟨⟨firstWord, _⟩, words⟩ := slug
      rcases member with rfl | inRest
      · rcases special with rfl | rfl | rfl | rfl | rfl | rfl <;> exact absurd firstWord (by decide)
      · have word := words letter inRest
        rcases special with rfl | rfl | rfl | rfl | rfl | rfl <;> exact absurd word (by decide)

theorem keyPrefix_noColon (keyPrefix : KeyPrefix) : ':' ∉ keyPrefix.text.toList :=
  fun member => keyPrefix_letters keyPrefix member (by decide)

theorem tenant_noColon (tenant : TenantId) : ':' ∉ tenant.text.toList :=
  fun member => tenant_letters tenant member (by decide)

theorem tenant_noDot (tenant : TenantId) : '.' ∉ tenant.text.toList :=
  fun member => tenant_letters tenant member (by decide)

theorem uuid_free (random : RandomUUID) {letter : Char}
    (foreign : letter ∉ "0123456789abcdef-".toList) : letter ∉ random.text.toList :=
  fun member => foreign (random.characters letter member)

theorem place_noColon (tenant : TenantId) (key : TenantKey) :
    ':' ∉ (key.place tenant.text).toList := by
  cases key with
  | userSessions _ | session _ => exact (by decide : ':' ∉ "session".toList)
  | _ => exact tenant_noColon tenant

theorem parts_toList (first second rest : String) :
    (first ++ ":" ++ second ++ ":" ++ rest).toList =
      first.toList ++ ':' :: (second.toList ++ ':' :: rest.toList) := by
  simp

theorem parts_of_key (keyPrefix : KeyPrefix) (tenant : TenantId) (key : TenantKey)
    {first second rest : List Char} (firstNoColon : ':' ∉ first) (secondNoColon : ':' ∉ second)
    (isKey : (key.text keyPrefix.text tenant.text).toList =
      first ++ ':' :: (second ++ ':' :: rest)) :
    (key.place tenant.text).toList = second ∧ (key.rest tenant.text).toList = rest := by
  rw [TenantKey.text_eq, parts_toList] at isKey
  obtain ⟨_, isRest⟩ := Text.split_at_first (keyPrefix_noColon keyPrefix) firstNoColon isKey
  exact Text.split_at_first (place_noColon tenant key) secondNoColon isRest

def TenantKey.isBuilt : TenantKey → Bool
  | .adapter _ | .custom _ _ | .rateLimit _ _ | .activity => true
  | .userSessions _ | .session _ => false

def TenantKey.head (tenantId : String) : TenantKey → String
  | .adapter _ | .custom _ _ => "oidc"
  | .rateLimit _ _ => "rl"
  | .activity => "activity"
  | .userSessions _ => "user-sessions"
  | .session randomComponent => createTenantSessionId tenantId randomComponent

def upToColon (text : List Char) : List Char := text.takeWhile (· ≠ ':')

theorem upToColon_append {first : List Char} (noColon : ':' ∉ first) (rest : List Char) :
    upToColon (first ++ ':' :: rest) = first := by
  rw [upToColon, Text.takeWhile_append_of_neg first rest (by simp)]
  apply List.takeWhile_eq_self_iff.mpr
  intro letter member
  simpa using fun isColon : letter = ':' => noColon (isColon ▸ member)

theorem upToColon_self {text : List Char} (noColon : ':' ∉ text) : upToColon text = text := by
  apply List.takeWhile_eq_self_iff.mpr
  intro letter member
  simpa using fun isColon : letter = ':' => noColon (isColon ▸ member)

theorem sessionId_noColon (tenant : TenantId) (random : RandomUUID) :
    ':' ∉ (createTenantSessionId tenant.text random).toList := by
  have randomNoColon : ':' ∉ random.text.toList := uuid_free random (by decide)
  simp [createTenantSessionId, tenant_noColon tenant, randomNoColon]

theorem rest_head (tenant : TenantId) (key : TenantKey) :
    upToColon (key.rest tenant.text).toList = (key.head tenant.text).toList := by
  have split : ∀ (head next : String) (segments : List String), ':' ∉ head.toList →
      upToColon (":".intercalate (head :: next :: segments)).toList = head.toList := by
    intro head next segments noColon
    rw [String.intercalate_cons_cons, String.toList_append, String.toList_append,
      List.append_assoc]
    exact upToColon_append noColon _
  cases key with
  | adapter _ | custom _ _ => exact split "oidc" _ _ (by decide)
  | rateLimit name fullKey => exact split "rl" _ _ (by decide)
  | activity => exact upToColon_self (by decide : ':' ∉ "activity".toList)
  | userSessions accountId =>
    rw [TenantKey.rest]
    split
    · exact split "user-sessions" _ _ (by decide)
    · exact split "user-sessions" _ _ (by decide)
  | session random => exact upToColon_self (sessionId_noColon tenant random)

theorem head_foreign (tenant : TenantId) (key : TenantKey) (random : RandomUUID) :
    (key.head tenant.text).toList ≠ random.text.toList := by
  have foreign : ∀ letter, letter ∉ "0123456789abcdef-".toList →
      letter ∈ (key.head tenant.text).toList →
        (key.head tenant.text).toList ≠ random.text.toList := by
    intro letter notRandom member same
    exact uuid_free random notRandom (same ▸ member)
  cases key with
  | adapter _ | custom _ _ => exact foreign 'o' (by decide) (by decide : 'o' ∈ "oidc".toList)
  | rateLimit name fullKey => exact foreign 'r' (by decide) (by decide : 'r' ∈ "rl".toList)
  | activity => exact foreign 't' (by decide) (by decide : 't' ∈ "activity".toList)
  | userSessions accountId =>
    exact foreign 'u' (by decide) (by decide : 'u' ∈ "user-sessions".toList)
  | session other =>
    refine foreign '.' (by decide) ?_
    simp [TenantKey.head, createTenantSessionId]

variable {key : TenantKey}

theorem built_head (built : key.isBuilt = true) (tenantId : String) :
    key.head tenantId ∈ ["oidc", "rl", "activity"] := by
  cases key with
  | userSessions _ | session _ => cases built
  | adapter _ | custom _ _ => exact .head _
  | rateLimit _ _ => exact .tail _ (.head _)
  | activity => exact .tail _ (.tail _ (.head _))

theorem unbuilt_head (unbuilt : key.isBuilt = false) (tenantId : String) :
    key.head tenantId ∉ ["oidc", "rl", "activity"] := by
  cases key with
  | userSessions accountId => exact (by decide : "user-sessions" ∉ ["oidc", "rl", "activity"])
  | session random =>
    intro member
    have dotted : '.' ∈ ((TenantKey.session random).head tenantId).toList := by
      simp [TenantKey.head, createTenantSessionId]
    simp only [List.mem_cons, List.not_mem_nil, or_false] at member
    rcases member with same | same | same
    all_goals
      rw [same] at dotted
      exact absurd dotted (by decide)
  | adapter _ | custom _ _ | rateLimit _ _ | activity => cases unbuilt

theorem built_place (built : key.isBuilt = true) (tenantId : String) :
    key.place tenantId = tenantId := by
  cases key with
  | userSessions _ | session _ => cases built
  | _ => rfl

theorem userSessions_same_cases {first second : TenantId} (distinct : first.text ≠ second.text)
    {accountId other : String}
    (same : (TenantKey.userSessions accountId).rest first.text =
      (TenantKey.userSessions other).rest second.text) :
    first.text = DEFAULT_TENANT_ID ∧ accountId = second.text ++ ":" ++ other ∨
      second.text = DEFAULT_TENANT_ID ∧ other = first.text ++ ":" ++ accountId := by
  have chars := congrArg String.toList same
  simp only [TenantKey.rest] at chars
  by_cases firstDefault : first.text = DEFAULT_TENANT_ID
  · by_cases secondDefault : second.text = DEFAULT_TENANT_ID
    · exact absurd (firstDefault.trans secondDefault.symm) distinct
    · left
      rw [if_neg (not_not.mpr firstDefault), if_pos secondDefault] at chars
      simp only [String.intercalate_cons_cons, String.intercalate_singleton, String.toList_append,
        List.append_cancel_left_eq] at chars
      exact ⟨firstDefault, String.toList_injective (by simpa using chars)⟩
  · by_cases secondDefault : second.text = DEFAULT_TENANT_ID
    · right
      rw [if_pos firstDefault, if_neg (not_not.mpr secondDefault)] at chars
      simp only [String.intercalate_cons_cons, String.intercalate_singleton, String.toList_append,
        List.append_cancel_left_eq] at chars
      exact ⟨secondDefault, String.toList_injective (by simpa using chars.symm)⟩
    · rw [if_pos firstDefault, if_pos secondDefault] at chars
      simp only [String.intercalate_cons_cons, String.intercalate_singleton, String.toList_append,
        List.append_cancel_left_eq] at chars
      have fromTenant : first.text.toList ++ ':' :: accountId.toList =
          second.text.toList ++ ':' :: other.toList := by simpa using chars
      obtain ⟨sameTenant, _⟩ :=
        Text.split_at_first (tenant_noColon first) (tenant_noColon second) fromTenant
      exact absurd (String.toList_injective sameTenant) distinct

theorem session_different {first second : TenantId} (distinct : first.text ≠ second.text)
    (random other : RandomUUID) :
    (TenantKey.session random).rest first.text ≠ (TenantKey.session other).rest second.text := by
  intro same
  have chars := congrArg String.toList same
  have fromTenant : first.text.toList ++ '.' :: random.text.toList =
      second.text.toList ++ '.' :: other.text.toList := by
    simpa [TenantKey.rest, createTenantSessionId] using chars
  obtain ⟨sameTenant, _⟩ :=
    Text.split_at_first (tenant_noDot first) (tenant_noDot second) fromTenant
  exact distinct (String.toList_injective sameTenant)

theorem userSessions_head_ne (accountId tenantId otherTenant : String) (random : RandomUUID) :
    (TenantKey.userSessions accountId).head tenantId ≠
      (TenantKey.session random).head otherTenant := by
  intro same
  have dotted : '.' ∈ ((TenantKey.session random).head otherTenant).toList := by
    simp [TenantKey.head, createTenantSessionId]
  rw [← same] at dotted
  exact absurd dotted (by decide : '.' ∉ "user-sessions".toList)

theorem plain_of_not_mem {text : List Char}
    (letters : ∀ letter ∈ text, letter ∉ ['*', '?', '[', '\\']) :
    ∀ letter ∈ text, Glob.isPlain letter = true := by
  intro letter member
  simpa [Glob.isPlain] using letters letter member

theorem keyPrefix_plain (keyPrefix : KeyPrefix) :
    ∀ letter ∈ keyPrefix.text.toList, Glob.isPlain letter = true :=
  plain_of_not_mem fun _ member special =>
    keyPrefix_letters keyPrefix member (List.mem_cons_of_mem _ special)

theorem start_plain (keyPrefix : KeyPrefix) (tenant : TenantId) (name : ModelName) :
    ∀ letter ∈ (keyPrefix.text ++ ":" ++ tenant.text ++ ":" ++
        ("oidc:" ++ (Kind.record name).segment ++ ":")).toList,
      Glob.isPlain letter = true := by
  have segmentPlain : ∀ letter ∈ ("oidc:" ++ (Kind.record name).segment ++ ":").toList,
      Glob.isPlain letter = true := by
    cases name <;> exact Text.forall_of_all (by decide)
  intro letter member
  rw [parts_toList, List.mem_append, List.mem_cons, List.mem_append, List.mem_cons] at member
  rcases member with inPrefix | rfl | inTenant | rfl | inSegment
  · exact keyPrefix_plain keyPrefix letter inPrefix
  · decide
  · exact plain_of_not_mem (fun _ inText special => tenant_letters tenant inText
      (List.mem_cons_of_mem _ (List.mem_cons_of_mem _ special))) letter inTenant
  · decide
  · exact segmentPlain letter inSegment

theorem Scan.finds_start {keyPrefix : KeyPrefix} {tenant : TenantId} {scan : Scan} {key : String}
    (found : scan.finds keyPrefix.text tenant.text key = true) :
    ∃ rest, key.toList = keyPrefix.text.toList ++ ':' ::
      (tenant.text.toList ++ ':' :: ("oidc".toList ++ ':' :: rest)) := by
  have start : ∀ (name : ModelName) (last : List Char),
      (∀ letter ∈ last, Glob.isPlain letter = true) →
      Glob.matchesPattern ((keyPrefix.text ++ ":" ++ tenant.text ++ ":" ++
        ("oidc:" ++ (Kind.record name).segment ++ ":")).toList ++ '*' :: last) key.toList = true →
      ∃ rest, key.toList = keyPrefix.text.toList ++ ':' ::
        (tenant.text.toList ++ ':' :: ("oidc".toList ++ ':' :: rest)) := by
    intro name last plain matched
    obtain ⟨middle, isKey⟩ :=
      (Glob.matches_between (start_plain keyPrefix tenant name) plain _).mp matched
    refine ⟨(Kind.record name).segment.toList ++ ':' :: (middle ++ last), ?_⟩
    rw [isKey]
    simp
  cases scan with
  | records name =>
    apply start name [] (by simp)
    simpa [Scan.finds, Scan.pattern, buildRedisKey_eq, String.intercalate_cons_cons] using found
  | custom name =>
    apply start name ":custom".toList (Text.forall_of_all (by decide))
    simpa [Scan.finds, Scan.pattern, buildRedisKey_eq, String.intercalate_cons_cons] using found

theorem sessionScan_iff (keyPrefix : KeyPrefix) (text : List Char) :
    Glob.matchesPattern (sessionPrefix keyPrefix.text ++ "*").toList text = true ↔
      ∃ rest, text = keyPrefix.text.toList ++ ':' :: ("session".toList ++ ':' :: rest) := by
  have isPattern : (sessionPrefix keyPrefix.text ++ "*").toList =
      (keyPrefix.text.toList ++ ":session:".toList) ++ '*' :: [] := by
    simp [sessionPrefix]
  have sessionPlain : ∀ letter ∈ ":session:".toList, Glob.isPlain letter = true :=
    Text.forall_of_all (by decide)
  have plain : ∀ letter ∈ keyPrefix.text.toList ++ ":session:".toList,
      Glob.isPlain letter = true := by
    intro letter member
    rcases List.mem_append.mp member with inPrefix | inSession
    · exact keyPrefix_plain keyPrefix letter inPrefix
    · exact sessionPlain letter inSession
  rw [isPattern, Glob.matches_between plain (by simp)]
  constructor
  · rintro ⟨middle, rfl⟩
    exact ⟨middle, by simp⟩
  · rintro ⟨rest, rfl⟩
    exact ⟨rest, by simp⟩

theorem userSessionsPrefix_toList (keyPrefix : String) :
    (userSessionsPrefix keyPrefix).toList =
      keyPrefix.toList ++ ':' :: ("session".toList ++ ':' :: ("user-sessions".toList ++ [':'])) := by
  simp [userSessionsPrefix]

theorem isIndex_head {keyPrefix : KeyPrefix} {tenant : TenantId}
    (isIndex : (userSessionsPrefix keyPrefix.text).toList.isPrefixOf
      (key.text keyPrefix.text tenant.text).toList = true) :
    key.head tenant.text = "user-sessions" := by
  obtain ⟨more, isKey⟩ := List.isPrefixOf_iff_prefix.mp isIndex
  have taken : (key.text keyPrefix.text tenant.text).toList = keyPrefix.text.toList ++ ':' ::
      ("session".toList ++ ':' :: ("user-sessions".toList ++ ':' :: more)) := by
    rw [← isKey, userSessionsPrefix_toList]
    simp
  obtain ⟨_, isRest⟩ :=
    parts_of_key keyPrefix tenant key (keyPrefix_noColon keyPrefix) (by decide) taken
  apply String.toList_injective
  rw [← rest_head tenant key, isRest]
  exact upToColon_append (by decide) more

theorem built_scanned_iff (keyPrefix : KeyPrefix) (tenant : TenantId)
    (built : key.isBuilt = true) :
    isScannedSession keyPrefix.text (key.text keyPrefix.text tenant.text) = true ↔
      tenant.text = "session" := by
  rw [isScannedSession, Bool.and_eq_true, sessionScan_iff]
  constructor
  · rintro ⟨⟨rest, isKey⟩, _⟩
    obtain ⟨isPlace, _⟩ :=
      parts_of_key keyPrefix tenant key (keyPrefix_noColon keyPrefix) (by decide) isKey
    rw [← built_place built tenant.text]
    exact String.toList_injective isPlace
  · intro isSession
    refine ⟨⟨(key.rest tenant.text).toList, ?_⟩, ?_⟩
    · rw [TenantKey.text_eq, parts_toList, built_place built, isSession]
    · rw [Bool.not_eq_true', Bool.eq_false_iff]
      intro isIndex
      have listed := built_head built tenant.text
      rw [isIndex_head isIndex] at listed
      exact absurd listed (by decide)

theorem userSessionsKey_isIndex (keyPrefix accountId tenantId : String) :
    (userSessionsPrefix keyPrefix).toList <+:
      (redisUserSessionsKey keyPrefix accountId tenantId).toList := by
  rw [redisUserSessionsKey]
  split
  · simp only [String.toList_append, List.append_assoc]
    exact List.prefix_append _ _
  · rw [String.toList_append]
    exact List.prefix_append _ _

theorem userSessions_unscanned (keyPrefix tenantId accountId : String) :
    isScannedSession keyPrefix ((TenantKey.userSessions accountId).text keyPrefix tenantId) =
      false := by
  have isIndex : (userSessionsPrefix keyPrefix).toList <+:
      ((TenantKey.userSessions accountId).text keyPrefix tenantId).toList :=
    userSessionsKey_isIndex keyPrefix accountId tenantId
  rw [isScannedSession, List.isPrefixOf_iff_prefix.mpr isIndex, Bool.not_true, Bool.and_false]

/-- A key of one tenant against a key of another one: they differ, no scan for the other tenant
finds it, and unless it is a session no key without a tenant is the same and no scan for sessions
finds it. -/
structure Apart (keyPrefix : KeyPrefix) (first : TenantId) (key : TenantKey) (second : TenantId)
    (other : TenantKey) : Prop where
  different : key.text keyPrefix.text first.text ≠ other.text keyPrefix.text second.text
  unscanned : ∀ scan : Scan,
    scan.finds keyPrefix.text second.text (key.text keyPrefix.text first.text) = false
  offPlatform : ∀ platformKey : PlatformKey,
    key.text keyPrefix.text first.text ≠ platformKey.text keyPrefix.text
  outsideSessions : (∀ randomComponent, key ≠ .session randomComponent) →
    isScannedSession keyPrefix.text (key.text keyPrefix.text first.text) = false

def NamesAccountOf (first : TenantId) (key : TenantKey) (second : TenantId) (other : TenantKey) :
    Prop :=
  first.text = DEFAULT_TENANT_ID ∧ ∃ accountId,
    key = .userSessions (second.text ++ ":" ++ accountId) ∧ other = .userSessions accountId

def Clash (first : TenantId) (key : TenantKey) (second : TenantId) (other : TenantKey) : Prop :=
  first.text = "session" ∧ key.isBuilt = true ∨
    NamesAccountOf first key second other ∨ NamesAccountOf second other first key

section Proofs

variable {keyPrefix : KeyPrefix} {first second : TenantId} {key other : TenantKey}

theorem same_place_rest
    (same : key.text keyPrefix.text first.text = other.text keyPrefix.text second.text) :
    key.place first.text = other.place second.text ∧
      key.rest first.text = other.rest second.text := by
  have taken := congrArg String.toList same
  rw [other.text_eq, parts_toList] at taken
  obtain ⟨samePlace, sameRest⟩ := parts_of_key keyPrefix first key (keyPrefix_noColon keyPrefix)
    (place_noColon second other) taken
  exact ⟨String.toList_injective samePlace, String.toList_injective sameRest⟩

theorem same_head (sameRest : key.rest first.text = other.rest second.text) :
    key.head first.text = other.head second.text := by
  apply String.toList_injective
  rw [← rest_head first key, ← rest_head second other, sameRest]

theorem same_cases (distinct : first.text ≠ second.text)
    (same : key.text keyPrefix.text first.text = other.text keyPrefix.text second.text) :
    NamesAccountOf first key second other ∨ NamesAccountOf second other first key := by
  obtain ⟨samePlace, sameRest⟩ := same_place_rest same
  have sameHead := same_head sameRest
  cases keyBuilt : key.isBuilt with
  | true =>
    cases otherBuilt : other.isBuilt with
    | true =>
      rw [built_place keyBuilt, built_place otherBuilt] at samePlace
      exact absurd samePlace distinct
    | false =>
      have listed := built_head keyBuilt first.text
      rw [sameHead] at listed
      exact absurd listed (unbuilt_head otherBuilt second.text)
  | false =>
    cases otherBuilt : other.isBuilt with
    | true =>
      have listed := built_head otherBuilt second.text
      rw [← sameHead] at listed
      exact absurd listed (unbuilt_head keyBuilt first.text)
    | false =>
      cases key with
      | adapter _ | custom _ _ | rateLimit _ _ | activity => cases keyBuilt
      | userSessions accountId =>
        cases other with
        | adapter _ | custom _ _ | rateLimit _ _ | activity => cases otherBuilt
        | userSessions otherId =>
          rcases userSessions_same_cases distinct sameRest with
            ⟨isDefault, rfl⟩ | ⟨isDefault, rfl⟩
          · exact .inl ⟨isDefault, otherId, rfl, rfl⟩
          · exact .inr ⟨isDefault, accountId, rfl, rfl⟩
        | session random =>
          exact absurd sameHead (userSessions_head_ne accountId _ _ random)
      | session random =>
        cases other with
        | adapter _ | custom _ _ | rateLimit _ _ | activity => cases otherBuilt
        | userSessions otherId =>
          exact absurd sameHead.symm (userSessions_head_ne otherId _ _ random)
        | session otherRandom =>
          exact absurd sameRest (session_different distinct random otherRandom)

theorem same_of_names (distinct : first.text ≠ second.text)
    (names : NamesAccountOf first key second other) :
    key.text keyPrefix.text first.text = other.text keyPrefix.text second.text := by
  obtain ⟨isDefault, accountId, rfl, rfl⟩ := names
  have notDefault : second.text ≠ DEFAULT_TENANT_ID := fun isSecond =>
    distinct (isDefault.trans isSecond.symm)
  rw [TenantKey.text, TenantKey.text, redisUserSessionsKey, redisUserSessionsKey,
    if_neg (not_not.mpr isDefault), if_pos notDefault]
  simp only [String.append_assoc]

theorem scan_misses (distinct : first.text ≠ second.text) (scan : Scan) :
    scan.finds keyPrefix.text second.text (key.text keyPrefix.text first.text) = false := by
  rw [Bool.eq_false_iff]
  intro found
  obtain ⟨rest, isKey⟩ := Scan.finds_start found
  obtain ⟨isPlace, isRest⟩ := parts_of_key keyPrefix first key (keyPrefix_noColon keyPrefix)
    (tenant_noColon second) isKey
  have isHead : key.head first.text = "oidc" := by
    apply String.toList_injective
    rw [← rest_head first key, isRest]
    exact upToColon_append (by decide) rest
  cases built : key.isBuilt with
  | true =>
    rw [built_place built] at isPlace
    exact distinct (String.toList_injective isPlace)
  | false =>
    have unlisted := unbuilt_head built first.text
    rw [isHead] at unlisted
    exact unlisted (.head _)

theorem platform_differs (platformKey : PlatformKey) :
    key.text keyPrefix.text first.text ≠ platformKey.text keyPrefix.text := by
  have differs : ∀ (start : String) (random : RandomUUID), ':' ∉ start.toList →
      ∀ middle : String, ':' ∉ middle.toList →
        key.text keyPrefix.text first.text ≠ start ++ ":" ++ middle ++ ":" ++ random.text := by
    intro start random startNoColon middle middleNoColon same
    have taken := congrArg String.toList same
    rw [parts_toList] at taken
    obtain ⟨_, isRest⟩ := parts_of_key keyPrefix first key startNoColon middleNoColon taken
    have randomNoColon : ':' ∉ random.text.toList := uuid_free random (by decide)
    apply head_foreign first key random
    rw [← rest_head first key, isRest, upToColon_self randomNoColon]
  cases platformKey with
  | session random =>
    have isParts : (PlatformKey.session random).text keyPrefix.text =
        keyPrefix.text ++ ":" ++ "session" ++ ":" ++ random.text := by
      simp only [PlatformKey.text, sessionPrefix, String.append_assoc]
      rfl
    rw [isParts]
    exact differs _ random (keyPrefix_noColon keyPrefix) _ (by decide)
  | socialRef ref => exact differs "social" ref (by decide) "ref" (by decide)

end Proofs

/-- Keys of two tenants stay apart, exactly where the tenant of the first is not named like the
sessions' part of all keys, and no account of the default tenant like one of the other tenant. -/
theorem keys_apart_iff (keyPrefix : KeyPrefix) {first second : TenantId}
    (distinct : first.text ≠ second.text) (key other : TenantKey) :
    Apart keyPrefix first key second other ↔ ¬Clash first key second other := by
  constructor
  · rintro apart (⟨isSession, built⟩ | names | names)
    · have scanned := (built_scanned_iff keyPrefix first built).mpr isSession
      rw [apart.outsideSessions] at scanned
      · cases scanned
      · rintro randomComponent rfl
        cases built
    · exact apart.different (same_of_names distinct names)
    · exact apart.different (same_of_names distinct.symm names).symm
  · intro noClash
    refine ⟨fun same => noClash (.inr (same_cases distinct same)), scan_misses distinct,
      platform_differs, ?_⟩
    intro notSession
    cases built : key.isBuilt with
    | true =>
      rw [Bool.eq_false_iff]
      intro scanned
      exact noClash (.inl ⟨(built_scanned_iff keyPrefix first built).mp scanned, built⟩)
    | false =>
      cases key with
      | adapter _ | custom _ _ | rateLimit _ _ | activity => cases built
      | userSessions accountId => exact userSessions_unscanned _ _ accountId
      | session randomComponent => exact absurd rfl (notSession randomComponent)

def parako : KeyPrefix where
  text := "parako"
  nonempty := by decide
  characters := Text.forall_of_all (by decide)

def acme : TenantId where
  text := "acme"
  accepted := .inr (by decide)

def sessionTenant : TenantId where
  text := "session"
  accepted := .inr (by decide)

def defaultTenant : TenantId where
  text := DEFAULT_TENANT_ID
  accepted := .inr (by decide)

theorem acme_activity_apart :
    Apart parako acme .activity sessionTenant (.adapter (RedisAdapter.key .AccessToken "x")) := by
  apply (keys_apart_iff parako (by decide : acme.text ≠ sessionTenant.text) _ _).mpr
  rintro (⟨isSession, _⟩ | ⟨isDefault, _⟩ | ⟨isDefault, _⟩)
  · exact absurd isSession (by decide)
  · exact absurd isDefault (by decide)
  · exact absurd isDefault (by decide)

theorem keys_meet :
    isScannedSession "parako"
        ((TenantKey.adapter (RedisAdapter.key .AccessToken "x")).text "parako" sessionTenant.text) =
      true ∧
    (TenantKey.userSessions "acme:bob").text "parako" defaultTenant.text =
      (TenantKey.userSessions "bob").text "parako" acme.text ∧
    ¬∀ first second : TenantId, first.text ≠ second.text → ∀ key other,
      Apart parako first key second other := by
  have scanned : isScannedSession "parako"
      ((TenantKey.adapter (RedisAdapter.key .AccessToken "x")).text "parako"
        sessionTenant.text) = true :=
    (built_scanned_iff parako sessionTenant rfl).mpr rfl
  refine ⟨scanned, rfl, ?_⟩
  intro apart
  have unscanned := (apart sessionTenant acme (by decide)
    (.adapter (RedisAdapter.key .AccessToken "x")) .activity).outsideSessions
    (fun _ isSession => by cases isSession)
  exact absurd (scanned.symm.trans unscanned) (by decide)

end ParakoId.RedisKeys
