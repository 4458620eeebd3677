import ParakoId.RedisAdapter.Upserts

/-! Revocation by grant. -/

namespace ParakoId.RedisAdapter

def Found (store : Store) (name : ModelName) (payload : OIDCPayload) : Prop :=
  (∃ id, find store name id = .ok (some payload)) ∨
    (∃ userCode, findByUserCode store name userCode = .ok (some payload)) ∨
    ∃ uid, findByUid store name uid = .ok (some payload)

def Revocable (store : Store) : Prop :=
  ∀ grantId, grantId ≠ "" → ∃ after, revokeByGrantId store grantId = .ok after ∧
    ∀ name payload, grantable name = true → Found after name payload →
      payload.grantId ≠ some grantId

def RevocableLater (state : State) : Prop :=
  ∀ milliseconds, Revocable (state.store.wait milliseconds)

def grantIndex : ExpiringIndex Key Value String where
  owner key value :=
    match key.kind with
    | .record name =>
      if grantable name ∧ key.id ≠ "" then
        (decode name value).toOption.bind fun payload => truthy payload.grantId
      else none
    | _ => none
  indexKey := grantKeyFor
  members
    | .list keys => keys
    | _ => []
  unowned _ _ := rfl

/-- A grant that is given the lifetime of the upserted record outlives its other records with it;
a grant that is not given it outlives the record already, or never expires. -/
def OutlivedByGrant (store : Store) (call : Upsert) (grantId : String) (ttl : Int) : Prop :=
  match call.extension ttl with
  | some seconds => ∀ other entry, other ≠ call.key →
      grantIndex.Belongs store grantId other entry →
        0 < seconds ∧ entry.expiresAt ≤ store.deadline seconds
  | none => call.id = "" ∨ ∀ list, store.lookup (grantKeyFor grantId) = some list →
      call.expiresAt store ≤ list.expiresAt

def KeepsGrant (state : State) : Event → Prop
  | .turn index =>
    match state.calls index with
    | .exec call grantId ttl => OutlivedByGrant state.store call grantId ttl
    | _ => True
  | _ => True

structure Inside (state : State) : Prop where
  typed : Keyspace.Each Typed state.store
  grants : ∀ index call grantId ttl, state.calls index = .exec call grantId ttl →
    call.grant = some grantId

theorem truthy_eq_some {text : Option String} {value : String} :
    truthy text = some value ↔ text = some value ∧ value ≠ "" := by
  simp [truthy, Option.filter_eq_some_iff]

variable {store : Store} {name : ModelName} {grantId : String} {entry : Keyspace.Entry Value}
  {call : Upsert}

theorem find_of_findByHelper {helperKey : Key} {payload : OIDCPayload}
    (found : findByHelper store name helperKey = .ok (some payload)) :
    ∃ id, find store name id = .ok (some payload) := by
  simp only [findByHelper] at found
  split at found
  · cases found
  · exact ⟨_, found⟩
  · cases found

theorem found_iff {payload : OIDCPayload} :
    Found store name payload ↔ ∃ id, find store name id = .ok (some payload) := by
  constructor
  · rintro (found | ⟨userCode, found⟩ | ⟨uid, found⟩)
    · exact found
    · simp only [findByUserCode] at found
      split at found
      · cases found
      · exact find_of_findByHelper found
    · simp only [findByUid] at found
      split at found
      · cases found
      · exact find_of_findByHelper found
  · exact .inl

@[simp] theorem owner_key (name : ModelName) (id : String) (value : Value) :
    grantIndex.owner (key name id) value =
      if grantable name ∧ id ≠ "" then
        (decode name value).toOption.bind fun payload => truthy payload.grantId
      else none := rfl

theorem belongs_record {other : Key} (belongs : grantIndex.Belongs store grantId other entry) :
    ∃ name id, other = key name id ∧ grantable name = true ∧ id ≠ "" := by
  obtain ⟨kind, id⟩ := other
  cases kind with
  | record name =>
    refine ⟨name, id, rfl, ?_⟩
    by_contra unfit
    simp [ExpiringIndex.Belongs, grantIndex, unfit] at belongs
  | _ => simp [ExpiringIndex.Belongs, grantIndex] at belongs

theorem belongs_iff_found {id : String} (isGrantable : grantable name = true)
    (isGrant : grantId ≠ "") :
    (∃ entry, grantIndex.Belongs store grantId (key name id) entry) ↔
      ∃ payload, find store name id = .ok (some payload) ∧ payload.grantId = some grantId := by
  by_cases noId : id = ""
  · simp [ExpiringIndex.Belongs, find, noId]
  · cases found : store.lookup (key name id) with
    | none => simp [ExpiringIndex.Belongs, find, noId, found]
    | some entry =>
      cases decoded : decode name entry.value with
      | error failure =>
        simp [ExpiringIndex.Belongs, find, noId, found, decoded, Except.toOption, Except.map]
      | ok payload =>
        simp [ExpiringIndex.Belongs, find, noId, found, decoded, isGrantable, isGrant,
          Except.toOption, Except.map, truthy_eq_some]

theorem revokeByGrantId_eq (isGrant : grantId ≠ "")
    (isList : ∀ entry, store.lookup (grantKeyFor grantId) = some entry →
      ∃ keys, entry.value = .list keys) :
    revokeByGrantId store grantId = .ok (grantIndex.dropGroup store grantId) := by
  simp only [revokeByGrantId, if_neg isGrant, ExpiringIndex.dropGroup, ExpiringIndex.listed,
    grantIndex]
  cases found : store.lookup (grantKeyFor grantId) with
  | none => rfl
  | some entry =>
    obtain ⟨keys, isKeys⟩ := isList entry found
    obtain ⟨value, expiresAt⟩ := entry
    simp only at isKeys
    subst isKeys
    rfl

theorem grant_of_belongs {other : Key} (belongs : grantIndex.Belongs store grantId other entry) :
    grantId ≠ "" := by
  obtain ⟨name, id, rfl, fits⟩ := belongs_record belongs
  have owned := belongs.2
  rw [owner_key, if_pos fits] at owned
  obtain ⟨payload, _, isGrant⟩ := Option.bind_eq_some_iff.mp owned
  exact (truthy_eq_some.mp isGrant).2

theorem revocable_iff (typed : Keyspace.Each Typed store) :
    Revocable store ↔ grantIndex.Droppable store := by
  constructor
  · intro revocable grantId other entry belongs
    have isGrant := grant_of_belongs belongs
    obtain ⟨name, id, rfl, isGrantable, _⟩ := belongs_record belongs
    obtain ⟨after, isAfter, gone⟩ := revocable grantId isGrant
    rw [revokeByGrantId_eq isGrant (typed _), Except.ok.injEq] at isAfter
    subst isAfter
    obtain ⟨payload, found, sameGrant⟩ :=
      (belongs_iff_found isGrantable isGrant).mp ⟨entry, belongs⟩
    exact gone name payload isGrantable (found_iff.mpr ⟨id, found⟩) sameGrant
  · intro droppable grantId isGrant
    refine ⟨_, revokeByGrantId_eq isGrant (typed _), ?_⟩
    intro name payload isGrantable isFound sameGrant
    obtain ⟨id, found⟩ := found_iff.mp isFound
    obtain ⟨entry, belongs⟩ :=
      (belongs_iff_found isGrantable isGrant).mpr ⟨payload, found, sameGrant⟩
    exact droppable grantId _ entry belongs

theorem revocableLater_iff {state : State} (typed : Keyspace.Each Typed state.store) :
    RevocableLater state ↔ grantIndex.Indexed state.store := by
  rw [← ExpiringIndex.droppable_later_iff]
  exact forall_congr' fun milliseconds => revocable_iff (typed.wait milliseconds)

theorem grant_of_call (isGrant : call.grant = some grantId) :
    grantable call.name = true ∧ truthy call.payload.grantId = some grantId := by
  cases isGrantable : grantable call.name <;> simp_all [Upsert.grant]

theorem decode_value (typed : Keyspace.Each Typed store) (call : Upsert) :
    ∃ consumed, decode call.name (call.value store) = .ok { call.payload with consumed } := by
  cases consumes : consumable call.name with
  | false => exact ⟨call.payload.consumed, by simp [decode, Upsert.value, consumes]⟩
  | true =>
    cases found : store.lookup call.key with
    | none => exact ⟨call.payload.consumed, by simp [decode, Upsert.value, consumes, found]⟩
    | some entry =>
      obtain ⟨payload, consumed, isHash⟩ := typed call.key entry found consumes
      exact ⟨call.payload.consumed <|> consumed, by
        simp [decode, Upsert.value, consumes, found, isHash, setPayload]⟩

theorem owner_value (typed : Keyspace.Each Typed store) (isGrant : call.grant = some grantId) :
    grantIndex.owner call.key (call.value store) =
      if call.id = "" then none else some grantId := by
  obtain ⟨isGrantable, sameGrant⟩ := grant_of_call isGrant
  obtain ⟨consumed, decoded⟩ := decode_value typed call
  by_cases noId : call.id = "" <;>
    simp [Upsert.key, isGrantable, noId, decoded, Except.toOption, sameGrant]

theorem lookup_exec_key (store : Store) (call : Upsert) (grantId : String) (ttl : Int) :
    (exec store call grantId ttl).lookup call.key =
      if call.lifetime.all (fun seconds => 0 < seconds) then
        some ⟨call.value store, call.expiresAt store⟩
      else none := by
  rw [← lookup_writeRecord]
  simp only [exec]
  rw [lookup_writeHelpers, lookup_appendToGrant_other] <;> simp [Upsert.key, key, grantKeyFor]

theorem lookup_exec_record (store : Store) (call : Upsert) (grantId : String) (ttl : Int)
    {id : String} (different : key name id ≠ call.key) :
    (exec store call grantId ttl).lookup (key name id) = store.lookup (key name id) := by
  simp only [exec]
  rw [lookup_writeHelpers, lookup_appendToGrant_other, lookup_writeRecord_other _ _ different] <;>
    simp [key, grantKeyFor]

theorem lookup_exec_grant_other (store : Store) (call : Upsert) {other : String} (ttl : Int)
    (different : other ≠ grantId) :
    (exec store call grantId ttl).lookup (grantKeyFor other) =
      store.lookup (grantKeyFor other) := by
  simp only [exec]
  rw [lookup_writeHelpers, lookup_appendToGrant_other, lookup_writeRecord_other] <;>
    simp [Upsert.key, key, grantKeyFor, different]

theorem lookup_exec_grant (store : Store) (call : Upsert) (grantId : String) (ttl : Int) :
    (exec store call grantId ttl).lookup (grantKeyFor grantId) =
      match call.extension ttl with
      | none => some (call.grantEntry store grantId)
      | some seconds =>
        if 0 < seconds then
          some { call.grantEntry store grantId with expiresAt := store.deadline seconds }
        else none := by
  have sameEntry : call.grantEntry (writeRecord store call) grantId =
      call.grantEntry store grantId := by
    simp only [Upsert.grantEntry]
    rw [lookup_writeRecord_other]
    simp [Upsert.key, key, grantKeyFor]
  simp only [exec]
  rw [lookup_writeHelpers _ _ (by simp [grantKeyFor]) (by simp [grantKeyFor]),
    lookup_appendToGrant, sameEntry]
  cases call.extension ttl <;> simp [Keyspace.deadline]

theorem belongs_exec_other {group : String} {ttl : Int} {other : Key}
    (different : other ≠ call.key) :
    grantIndex.Belongs (exec store call grantId ttl) group other entry ↔
      grantIndex.Belongs store group other entry := by
  obtain ⟨kind, id⟩ := other
  cases kind with
  | record name =>
    have same := lookup_exec_record store call grantId ttl different
    simp only [key] at same
    simp only [ExpiringIndex.Belongs, same]
  | _ => simp [ExpiringIndex.Belongs, grantIndex]

theorem belongs_exec_key (typed : Keyspace.Each Typed store) {group : String}
    (isGrant : call.grant = some grantId) {ttl : Int} :
    grantIndex.Belongs (exec store call grantId ttl) group call.key entry ↔
      call.id ≠ "" ∧ group = grantId ∧ call.lifetime.all (fun seconds => 0 < seconds) ∧
        entry = ⟨call.value store, call.expiresAt store⟩ := by
  simp only [ExpiringIndex.Belongs, lookup_exec_key]
  constructor
  · rintro ⟨found, owned⟩
    split at found
    · next positive =>
        cases found
        rw [owner_value typed isGrant] at owned
        split at owned
        · cases owned
        · next hasId =>
            cases owned
            exact ⟨hasId, rfl, positive, rfl⟩
    · cases found
  · rintro ⟨hasId, rfl, positive, rfl⟩
    simp [positive, owner_value typed isGrant, hasId]

theorem members_exec (typed : Keyspace.Each Typed store) {ttl : Int}
    {list : Keyspace.Entry Value}
    (isList : (exec store call grantId ttl).lookup (grantKeyFor grantId) = some list) :
    grantIndex.members list.value = grantIndex.listed store grantId ++ [call.key] := by
  have sameValue : list.value = (call.grantEntry store grantId).value := by
    rw [lookup_exec_grant] at isList
    split at isList
    · cases isList
      rfl
    · split at isList
      · cases isList
        rfl
      · cases isList
  rw [sameValue]
  cases found : store.lookup (grantKeyFor grantId) with
  | none => simp [Upsert.grantEntry, grantIndex, ExpiringIndex.listed, found]
  | some entry =>
    obtain ⟨keys, isKeys⟩ := typed (grantKeyFor grantId) entry found
    simp [Upsert.grantEntry, grantIndex, ExpiringIndex.listed, found, isKeys, rpush]

theorem outlives_exec_iff {ttl : Int} :
    grantIndex.Outlives (exec store call grantId ttl) grantId entry ↔
      match call.extension ttl with
      | none => entry.expiresAt ≤ (call.grantEntry store grantId).expiresAt
      | some seconds => 0 < seconds ∧ entry.expiresAt ≤ store.deadline seconds := by
  have isList := lookup_exec_grant store call grantId ttl
  cases extension : call.extension ttl with
  | none => simp_all [ExpiringIndex.Outlives, grantIndex]
  | some seconds =>
    by_cases positive : 0 < seconds <;> simp_all [ExpiringIndex.Outlives, grantIndex]

theorem grantEntry_expiresAt_ge {expiresAt : WithTop Nat} :
    expiresAt ≤ (call.grantEntry store grantId).expiresAt ↔
      ∀ list, store.lookup (grantKeyFor grantId) = some list → expiresAt ≤ list.expiresAt := by
  cases found : store.lookup (grantKeyFor grantId) with
  | none | some _ => simp [Upsert.grantEntry, found]

theorem lifetime_of_extension {ttl seconds : Int} (extension : call.extension ttl = some seconds) :
    call.lifetime = some seconds := by
  rw [Upsert.extension, Option.filter_eq_some_iff] at extension
  exact extension.1

theorem expiresAt_le_of_ended (ended : ¬call.lifetime.all (fun seconds => 0 < seconds) = true)
    {list : Keyspace.Entry Value} (isList : store.lookup (grantKeyFor grantId) = some list) :
    call.expiresAt store ≤ list.expiresAt := by
  have live := Keyspace.live_of_lookup isList
  rw [Keyspace.Entry.live_iff] at live
  cases lifetime : call.lifetime with
  | none => simp [lifetime] at ended
  | some seconds =>
    have notAhead : seconds.toNat = 0 := by
      simp only [lifetime, Option.all_some, decide_eq_true_eq] at ended
      omega
    simpa [Upsert.expiresAt, lifetime, Keyspace.deadline, notAhead] using live

theorem exec_indexed_iff (typed : Keyspace.Each Typed store) (indexed : grantIndex.Indexed store)
    (isGrant : call.grant = some grantId) (ttl : Int) :
    grantIndex.Indexed (exec store call grantId ttl) ↔
      OutlivedByGrant store call grantId ttl := by
  refine (grantIndex.indexed_append_iff indexed
    (fun group other entry different => belongs_exec_other different)
    (fun group different => lookup_exec_grant_other store call ttl different)
    (fun group entry belongs => ((belongs_exec_key typed isGrant).mp belongs).2.1)
    (fun list isList => members_exec typed isList)).trans ?_
  simp only [outlives_exec_iff, belongs_exec_key typed isGrant, OutlivedByGrant]
  cases extension : call.extension ttl with
  | some seconds =>
    have lifetime := lifetime_of_extension extension
    constructor
    · exact fun outlived => outlived.1
    · intro outlived
      refine ⟨outlived, ?_⟩
      rintro entry ⟨_, _, positive, rfl⟩
      simp only [lifetime, Option.all_some, decide_eq_true_eq] at positive
      exact ⟨positive, by simp [Upsert.expiresAt, lifetime]⟩
  | none =>
    simp only [grantEntry_expiresAt_ge]
    constructor
    · rintro ⟨_, outlived⟩
      by_cases noId : call.id = ""
      · exact .inl noId
      · right
        intro list isList
        by_cases positive : call.lifetime.all (fun seconds => 0 < seconds) = true
        · exact outlived _ ⟨noId, trivial, positive, rfl⟩ list isList
        · exact expiresAt_le_of_ended positive isList
    · intro outlived
      constructor
      · intro other entry _ belongs list isList
        obtain ⟨found, isFound, atMost⟩ := (indexed grantId other entry belongs).2
        rw [show grantIndex.indexKey grantId = grantKeyFor grantId from rfl, isList] at isFound
        cases isFound
        exact atMost
      · rintro entry ⟨hasId, _, _, rfl⟩
        exact outlived.resolve_left hasId

theorem indexed_execUngranted (typed : Keyspace.Each Typed store)
    (indexed : grantIndex.Indexed store) (noGrant : call.grant = none) :
    grantIndex.Indexed (execUngranted store call) := by
  have others : ∀ kind id, (⟨kind, id⟩ : Key) ≠ call.key → kind ≠ .userCode → kind ≠ .uid →
      (execUngranted store call).lookup ⟨kind, id⟩ = store.lookup ⟨kind, id⟩ := by
    intro kind id different notUserCode notUid
    rw [execUngranted, lookup_writeHelpers _ _ notUserCode notUid,
      lookup_writeRecord_other _ _ different]
  refine grantIndex.indexed_of_frame indexed ?_ ?_
  · intro group
    exact others .grant group (by simp [Upsert.key, key]) (by simp) (by simp)
  · intro group other entry belongs
    obtain ⟨name, id, rfl, isGrantable, hasId⟩ := belongs_record belongs
    by_cases same : key name id = call.key
    · exfalso
      have isCall : name = call.name ∧ id = call.id := by simpa [Upsert.key, key] using same
      obtain ⟨rfl, rfl⟩ := isCall
      obtain ⟨found, owned⟩ := belongs
      rw [execUngranted, lookup_writeHelpers _ _ (by simp [key]) (by simp [key]), same,
        lookup_writeRecord] at found
      split at found
      · cases found
        obtain ⟨consumed, decoded⟩ := decode_value typed call
        simp [Upsert.grant, isGrantable] at noGrant
        simp [decoded, Except.toOption, noGrant] at owned
      · cases found
    · refine ⟨entry, ⟨?_, belongs.2⟩, le_rfl⟩
      rw [← belongs.1]
      exact (others _ _ same (by simp) (by simp)).symm

theorem indexed_destroy (indexed : grantIndex.Indexed store) (name : ModelName) (id : String) :
    grantIndex.Indexed (destroy store name id) := by
  simp only [destroy]
  split
  · exact indexed
  · refine grantIndex.indexed_of_frame indexed ?_ ?_
    · intro group
      simp [Keyspace.lookup_del, grantIndex, grantKeyFor, key]
    · rintro group other entry ⟨found, owned⟩
      rw [Keyspace.lookup_del] at found
      split at found
      · cases found
      · exact ⟨entry, ⟨found, owned⟩, le_rfl⟩

theorem owner_setConsumed (name : ModelName) (id : String) (seconds : Nat) (value : Value) :
    grantIndex.owner (key name id) (setConsumed seconds value) =
      grantIndex.owner (key name id) value := by
  have sameGrant :
      ((decode name (setConsumed seconds value)).toOption.bind fun payload =>
        truthy payload.grantId) =
      (decode name value).toOption.bind fun payload => truthy payload.grantId := by
    cases value with
    | hash payload consumed =>
      cases consumes : consumable name <;> cases payload <;>
        simp [decode, consumes, setConsumed, Except.toOption]
    | _ => rfl
  simp only [owner_key, sameGrant]

theorem owner_consumedOnly (name : ModelName) (id : String) (seconds : Nat) :
    grantIndex.owner (key name id) (.hash none (some seconds)) = none := by
  cases consumes : consumable name <;> simp [decode, consumes, Except.toOption]

theorem indexed_consume {after : Store} (indexed : grantIndex.Indexed store) {id : String}
    (consumed : consume store name id = .ok after) : grantIndex.Indexed after := by
  simp only [consume] at consumed
  split at consumed
  · cases consumed
    exact indexed
  · split at consumed
    · cases consumed
      refine grantIndex.indexed_of_frame indexed ?_ ?_
      · intro group
        simp [Keyspace.lookup_set, grantIndex, grantKeyFor, key]
      · rintro group other entry ⟨found, owned⟩
        rw [Keyspace.lookup_set] at found
        split at found
        · next same =>
            cases found
            rw [same, owner_consumedOnly] at owned
            cases owned
        · exact ⟨entry, ⟨found, owned⟩, le_rfl⟩
    · next payload seconds expiresAt isHash =>
        cases consumed
        refine grantIndex.indexed_of_frame indexed ?_ ?_
        · intro group
          simp [Keyspace.lookup_update, grantIndex, grantKeyFor, key]
        · rintro group other entry ⟨found, owned⟩
          rw [Keyspace.lookup_update] at found
          split at found
          · next same =>
              rw [isHash] at found
              cases found
              rw [same, owner_setConsumed] at owned
              exact ⟨⟨.hash payload seconds, expiresAt⟩, ⟨by rw [same, isHash], by rwa [same]⟩,
                le_rfl⟩
          · exact ⟨entry, ⟨found, owned⟩, le_rfl⟩
    · cases consumed

theorem step_inside (state : State) (event : Event) (inside : Inside state) :
    Inside (step state event) := by
  have put : ∀ {store : Store} {index : Nat} {call : Call}, Keyspace.Each Typed store →
      (∀ granted grantId ttl, call = .exec granted grantId ttl →
        granted.grant = some grantId) →
      Inside { state.put index call with store } := by
    intro store index call typed isGrant
    refine ⟨typed, ?_⟩
    intro other granted grantId ttl isExec
    simp only [State.put] at isExec
    split at isExec
    · exact isGrant granted grantId ttl isExec
    · exact inside.grants other granted grantId ttl isExec
  cases event with
  | wait milliseconds => exact ⟨inside.typed.wait milliseconds, inside.grants⟩
  | destroy name id =>
    refine ⟨?_, inside.grants⟩
    simp only [step, destroy]
    split
    · exact inside.typed
    · exact inside.typed.del _
  | consume name id =>
    simp only [step]
    split
    · next store consumed => exact ⟨typed_consume inside.typed consumed, inside.grants⟩
    · exact inside
  | upsert index call =>
    simp only [step]
    split
    · exact put inside.typed (by simp)
    · exact inside
  | turn index =>
    cases isCall : state.calls index with
    | idle | done => simpa [step, isCall] using inside
    | upsert call =>
      cases isGrant : call.grant with
      | none =>
        simp only [step, isCall, isGrant]
        exact put (each_execUngranted inside.typed (typed_keptBy call)) (by simp)
      | some grantId =>
        simp only [step, isCall, isGrant]
        refine put inside.typed ?_
        rintro granted other ttl ⟨⟩
        exact isGrant
    | exec call grantId ttl =>
      simp only [step, isCall]
      exact put (each_exec inside.typed (typed_keptBy call) grantId ttl) (by simp)

theorem step_indexed_iff (state : State) (event : Event) (inside : Inside state)
    (indexed : grantIndex.Indexed state.store) :
    grantIndex.Indexed (step state event).store ↔ KeepsGrant state event := by
  cases event with
  | wait milliseconds => simpa [step, KeepsGrant] using grantIndex.indexed_wait indexed milliseconds
  | destroy name id => simpa [step, KeepsGrant] using indexed_destroy indexed name id
  | consume name id =>
    simp only [step, KeepsGrant, iff_true]
    split
    · next store consumed => exact indexed_consume indexed consumed
    · exact indexed
  | upsert index call =>
    simp only [step, KeepsGrant, iff_true]
    split <;> exact indexed
  | turn index =>
    cases isCall : state.calls index with
    | idle | done => simpa [step, KeepsGrant, isCall] using indexed
    | upsert call =>
      cases isGrant : call.grant with
      | none =>
        simpa [step, KeepsGrant, isCall, isGrant] using
          indexed_execUngranted inside.typed indexed isGrant
      | some grantId => simpa [step, KeepsGrant, isCall, isGrant, State.put] using indexed
    | exec call grantId ttl =>
      have isGrant := inside.grants index call grantId ttl isCall
      simpa [step, KeepsGrant, isCall] using
        exec_indexed_iff inside.typed indexed isGrant ttl

theorem emptyStore_inside (now : Nat) : Inside (emptyStore now) where
  typed := Keyspace.each_empty now
  grants := by simp [emptyStore]

/-- A grant can be revoked completely at every time of a run, and after any further wait, exactly
where each upsert that executes leaves the key of its grant to outlive the records. -/
theorem revocation_along_runs (now : Nat) (events : List Event) :
    Runs.AlwaysFrom step RevocableLater (emptyStore now) events ↔
      Runs.AllowedFrom step KeepsGrant (emptyStore now) events := by
  refine Runs.always_iff_allowed step step_inside ?_ (emptyStore_inside now) ?_
  · intro state event inside revocable
    rw [revocableLater_iff inside.typed] at revocable
    rw [revocableLater_iff (step_inside state event inside).typed]
    exact step_indexed_iff state event inside revocable
  · rw [revocableLater_iff (emptyStore_inside now).typed]
    exact grantIndex.indexed_empty now

def grantedPayload : OIDCPayload :=
  { grantId := some "grant", userCode := none, uid := none, consumed := none, others := "" }

def sharedLifetime : List Event :=
  [.upsert 0 ⟨.AccessToken, "token", grantedPayload, some 3600⟩,
    .upsert 1 ⟨.AuthorizationCode, "code", grantedPayload, some 60⟩,
    .turn 0, .turn 1, .turn 0, .turn 1, .wait 61000]

theorem token_outlivesGrant :
    let final := Runs.run step (emptyStore 0) sharedLifetime
    (∃ after, revokeByGrantId final.store "grant" = .ok after ∧
      find after .AccessToken "token" = .ok (some grantedPayload)) ∧
    ¬Revocable final.store := by
  have left : ∃ after,
      revokeByGrantId (Runs.run step (emptyStore 0) sharedLifetime).store "grant" = .ok after ∧
        find after .AccessToken "token" = .ok (some grantedPayload) := by
    exact ⟨_, rfl, rfl⟩
  refine ⟨left, ?_⟩
  intro revocable
  obtain ⟨after, isAfter, found⟩ := left
  obtain ⟨other, isOther, gone⟩ := revocable "grant" (by decide)
  rw [isAfter, Except.ok.injEq] at isOther
  subst isOther
  exact gone .AccessToken grantedPayload rfl (.inl ⟨"token", found⟩) rfl

end ParakoId.RedisAdapter
