import ParakoId.TenantScope.Extension

/-!
What the Mongoose plugin makes of an update, and what that leaves in a document, next to the update
as the caller wrote it.
-/

namespace ParakoId.TenantScope

@[grind =]
def isOperator (key : String) : Bool := key.toList.head? == some '$'

def namesTenant : Json → Bool
  | .str target => target == "tenant_id"
  | _ => false

@[grind =]
def scopeOperands (operator : String) (value : Json) : Json :=
  let operands := value.spread.keep fun key _ => key != "tenant_id"
  if operator = "$rename" then operands.keep fun _ target => !namesTenant target else operands

def scopeOperators (update : Json) : Json :=
  update.mapValues fun operator value =>
    if isOperator operator && value.isReference then scopeOperands operator value else value

/-- The stage `{ $set: { tenant_id: tenantId } }`. -/
def tenantStage (tenantId : String) : Json :=
  .object [("$set", .object [("tenant_id", .str tenantId)])]

def scopeUpdateToTenant (update : Json) (tenantId : String) (replacement : Bool) : Json :=
  match update with
  | .arr length item =>
    .arr (length + 1) fun index => if index = length then tenantStage tenantId else item index
  | .obj keys _ =>
    let hasOperators := keys.any isOperator
    if replacement || !hasOperators then withTenant tenantId update
    else
      let scopedUpdate := scopeOperators update
      Json.write (withTenant tenantId ((scopedUpdate.property "$set").getD .null)) ["$set"]
        scopedUpdate
  | other => other

variable {Value : Type*}

abbrev Document (Value : Type*) := String → Option Value

structure Entry where
  operator : String
  path : String
  operand : Json

def topField (path : String) : String :=
  String.ofList (path.toList.takeWhile fun character => character != '.')

def Entry.target (entry : Entry) : Option String :=
  match entry.operand with
  | .str target => if entry.operator = "$rename" then some target else none
  | _ => none

def Entry.touches (field : String) (entry : Entry) : Bool :=
  topField entry.path == field || entry.target.any fun target => topField target == field

@[grind =]
def operandsOf (operator : String) : Json → List Entry :=
  Json.collect fun path operand => [⟨operator, path, operand⟩]

/-- Mongoose takes a plain update for the operands of `$set`. -/
@[grind =]
def entriesOf : Json → List Entry
  | .obj keys value =>
    if keys.any isOperator then Json.collect operandsOf (.obj keys value)
    else operandsOf "$set" (.obj keys value)
  | _ => []

structure MongoEngine (Value : Type*) where
  text : String → Value
  after : String → List Entry → Bool → Document Value → Option (Option Value)
  replaced : String → Option Json → Bool → Document Value → Option (Option Value)
  stage : Json → Document Value → Option (Document Value)

/-- The document that an update leaves of the stored one, or of the one that an upsert
inserts; an update without such a document is rejected. -/
def MongoEngine.Applies (engine : MongoEngine Value) (replacement : Bool) (update : Json)
    (inserting : Bool) (document result : Document Value) : Prop :=
  match update with
  | .arr length item =>
    ((List.range length).map item).foldlM (fun state stage => engine.stage stage state) document =
      some result
  | .obj keys value =>
    if replacement then
      ∀ field, engine.replaced field (Json.property field (.obj keys value)) inserting document =
        some (result field)
    else
      (∀ key ∈ keys, isOperator key = true → (value key).isObject = true) ∧
      ∀ field, engine.after field ((entriesOf (.obj keys value)).filter (Entry.touches field))
        inserting document = some (result field)
  | _ => False

structure MongoEngine.Documented (engine : MongoEngine Value) : Prop where
  tenant_set : ∀ tenantId inserting document,
    engine.after "tenant_id" [⟨"$set", "tenant_id", .str tenantId⟩] inserting document =
      some (some (engine.text tenantId))
  tenant_replaced : ∀ tenantId inserting document,
    engine.replaced "tenant_id" (some (.str tenantId)) inserting document =
      some (some (engine.text tenantId))
  tenant_stage : ∀ tenantId document, isOperator tenantId = false →
    engine.stage (tenantStage tenantId) document =
      some fun field => if field = "tenant_id" then some (engine.text tenantId) else document field

def WellShaped (replacement : Bool) : Json → Prop
  | .arr _ _ => True
  | .obj keys _ => (replacement = false ∧ ∀ key ∈ keys, isOperator key = true) ∨
      ∀ key ∈ keys, isOperator key = false
  | _ => False

def belowTenant (path : String) : Bool := topField path == "tenant_id" && path != "tenant_id"

def NothingBelowTenant (update : Json) : Prop :=
  ∀ entry ∈ entriesOf update, belowTenant entry.path = false ∧
    ∀ target, entry.target = some target → belowTenant target = false

def dropTenantRenames (update : Json) : Json :=
  update.mapValues fun operator value =>
    if operator = "$rename" then
      value.keep fun source target => source != "tenant_id" && !namesTenant target
    else value

def KeepsOtherFields (engine : MongoEngine Value) (tenantId : String) (replacement : Bool)
    (original update : Json) (inserting : Bool) (document : Document Value) : Prop :=
  ∀ result, engine.Applies replacement original inserting document result →
    ∃ scopedResult, engine.Applies replacement (scopeUpdateToTenant update tenantId replacement)
        inserting document scopedResult ∧
      scopedResult "tenant_id" = some (engine.text tenantId) ∧
      ∀ field, field ≠ "tenant_id" → scopedResult field = result field

theorem topField_tenant : topField "tenant_id" = "tenant_id" := by simp [topField]

theorem tenant_notOperator : isOperator "tenant_id" = false := by simp [isOperator]

theorem touches_other {field : String} (other : field ≠ "tenant_id") {operator : String}
    (noRename : operator ≠ "$rename") (operand : Json) :
    Entry.touches field ⟨operator, "tenant_id", operand⟩ = false := by
  have noTarget : Entry.target ⟨operator, "tenant_id", operand⟩ = none := by
    cases operand <;> simp [Entry.target, noRename]
  simp [Entry.touches, noTarget, topField_tenant, Ne.symm other]

theorem touches_tenant (tenantId : String) :
    Entry.touches "tenant_id" ⟨"$set", "tenant_id", .str tenantId⟩ = true := by
  simp [Entry.touches, topField_tenant]

theorem untouched_tenant {entry : Entry} (otherPath : entry.path ≠ "tenant_id")
    (otherTarget : entry.target ≠ some "tenant_id") (notBelow : belowTenant entry.path = false)
    (targetNotBelow : ∀ target, entry.target = some target → belowTenant target = false) :
    Entry.touches "tenant_id" entry = false := by
  have apartPath : ∀ path, path ≠ "tenant_id" → belowTenant path = false →
      (topField path == "tenant_id") = false := by
    intro path different above
    simpa [belowTenant, different] using above
  simp only [Entry.touches, apartPath entry.path otherPath notBelow, Bool.false_or]
  cases isTarget : entry.target with
  | none => rfl
  | some target =>
    have different : target ≠ "tenant_id" := by
      rintro rfl
      exact otherTarget isTarget
    simpa using apartPath target different (targetNotBelow target isTarget)

def touching (field operator : String) (operands : Json) : List Entry :=
  (operandsOf operator operands).filter (Entry.touches field)

theorem touching_eq (field operator : String) (operands : Json) :
    touching field operator operands = Json.collect (fun path operand =>
      [⟨operator, path, operand⟩].filter (Entry.touches field)) operands :=
  Json.filter_collect _ _ _

theorem touching_withTenant {field : String} (other : field ≠ "tenant_id") (tenantId : String)
    {operands : Json} (isObject : operands.isObject = true) :
    touching field "$set" (withTenant tenantId operands) = touching field "$set" operands := by
  rw [withTenant, Json.spread_of_isObject isObject, touching_eq, touching_eq]
  cases operands with
  | obj keys value =>
    apply Json.collect_write
    simp [touches_other other]
  | _ => simp [Json.isObject] at isObject

variable {keys : List String} {value : String → Json} {tenantId : String}

theorem touching_tenant_withTenant (tenantId : String)
    (above : ∀ path ∈ keys, path ≠ "tenant_id" → belowTenant path = false) :
    touching "tenant_id" "$set" (withTenant tenantId (.obj keys value)) =
      [⟨"$set", "tenant_id", .str tenantId⟩] := by
  rw [withTenant, Json.spread_of_isObject rfl, touching_eq, Json.collect_write_only]
  · simp [touches_tenant]
  · intro path member different
    have untouched : Entry.touches "tenant_id" ⟨"$set", path, value path⟩ = false := by
      have noTarget : Entry.target ⟨"$set", path, value path⟩ = none := by
        cases value path <;> simp [Entry.target]
      exact untouched_tenant different (by simp [noTarget]) (above path member different)
        (by simp [noTarget])
    simp [untouched]

theorem isObject_scopeOperands (operator : String) (value : Json) :
    (scopeOperands operator value).isObject = true := by
  simp only [scopeOperands]
  split <;> simp [Json.isObject_keep, Json.isObject_spread]

theorem touching_scopeOperands {field : String} (other : field ≠ "tenant_id") {operator : String}
    (noRename : operator ≠ "$rename") {value : Json} (isObject : value.isObject = true) :
    touching field operator (scopeOperands operator value) = touching field operator value := by
  simp only [scopeOperands, if_neg noRename, Json.spread_of_isObject isObject, touching_eq]
  apply Json.collect_keep
  intro path operand isTenant
  simp only [bne_eq_false_iff_eq] at isTenant
  subst isTenant
  simp [touches_other other noRename]

theorem scopeOperands_rename {value : Json} (isObject : value.isObject = true) :
    scopeOperands "$rename" value =
      value.keep fun source target => source != "tenant_id" && !namesTenant target := by
  simp only [scopeOperands, if_true, Json.spread_of_isObject isObject]
  cases value with
  | obj keys content =>
    simp only [Json.keep, List.filter_filter, Bool.and_comm]
  | _ => simp [Json.isObject] at isObject

theorem scopeOperands_obj (operator : String) (keys : List String) (value : String → Json) :
    ∃ kept, scopeOperands operator (.obj keys value) = .obj kept value ∧
      ∀ path ∈ kept, path ∈ keys ∧ path ≠ "tenant_id" ∧
        (operator = "$rename" → namesTenant (value path) = false) := by
  by_cases rename : operator = "$rename"
  · subst rename
    refine ⟨_, by rw [scopeOperands_rename rfl, Json.keep], ?_⟩
    intro path member
    simpa [List.mem_filter] using member
  · refine ⟨_, by rw [scopeOperands, if_neg rename, Json.spread, Json.keep], ?_⟩
    intro path member
    simpa [List.mem_filter, rename] using member

theorem touching_tenant_scopeOperands {operator : String}
    (above : ∀ path ∈ keys, belowTenant path = false ∧
      ∀ target, Entry.target ⟨operator, path, value path⟩ = some target →
        belowTenant target = false) :
    touching "tenant_id" operator (scopeOperands operator (.obj keys value)) = [] := by
  obtain ⟨kept, isKept, listed⟩ := scopeOperands_obj operator keys value
  rw [isKept, touching_eq, List.eq_nil_iff_forall_not_mem]
  intro entry member
  obtain ⟨path, isPath, isEntry⟩ := Json.mem_collect.mp member
  obtain ⟨isKey, different, noTenantTarget⟩ := listed path isPath
  simp only [List.mem_filter, List.mem_singleton] at isEntry
  obtain ⟨rfl, touches⟩ := isEntry
  have otherTarget : Entry.target ⟨operator, path, value path⟩ ≠ some "tenant_id" := by
    intro isTarget
    cases operand : value path with
    | str target =>
      by_cases rename : operator = "$rename"
      · have other := noTenantTarget rename
        simp [Entry.target, operand, rename] at isTarget
        simp [namesTenant, operand, isTarget] at other
      · simp [Entry.target, operand, rename] at isTarget
    | _ => simp [Entry.target, operand] at isTarget
  have untouched := untouched_tenant different otherTarget (above path isKey).1 (above path isKey).2
  simp [untouched] at touches

section Operators

variable {keys : List String} {value : String → Json}

theorem scopeOperators_obj (operators : ∀ key ∈ keys, isOperator key = true)
    (objects : ∀ key ∈ keys, (value key).isObject = true) :
    ∃ scopedValue, scopeOperators (.obj keys value) = .obj keys scopedValue ∧
      ∀ key ∈ keys, scopedValue key = scopeOperands key (value key) := by
  refine ⟨_, rfl, ?_⟩
  intro key member
  have isReference : (value key).isReference = true := by
    have isObject := objects key member
    cases here : value key <;> simp_all [Json.isObject, Json.isReference]
  simp [operators key member, isReference]

theorem dropTenantRenames_obj (objects : ∀ key ∈ keys, (value key).isObject = true) :
    ∃ droppedValue, dropTenantRenames (.obj keys value) = .obj keys droppedValue ∧
      ∀ key ∈ keys, ∀ field, field ≠ "tenant_id" →
        touching field key (droppedValue key) = touching field key (scopeOperands key (value key)) := by
  refine ⟨_, rfl, ?_⟩
  intro key member field other
  by_cases rename : key = "$rename"
  · subst rename
    simp only [if_true]
    rw [scopeOperands_rename (objects _ member)]
  · simp only [if_neg rename]
    rw [touching_scopeOperands other rename (objects key member)]

theorem scopeUpdate_operators {tenantId : String} (nonempty : keys.any isOperator = true) :
    scopeUpdateToTenant (.obj keys value) tenantId false =
      Json.write (withTenant tenantId
        (((scopeOperators (.obj keys value)).property "$set").getD .null)) ["$set"]
        (scopeOperators (.obj keys value)) := by
  simp [scopeUpdateToTenant, nonempty]

end Operators

theorem scopedSet_base (tenantId : String) {scopedValue : String → Json}
    (objects : ∀ key ∈ keys, (value key).isObject = true)
    (scopedAt : ∀ key ∈ keys, scopedValue key = scopeOperands key (value key))
    (above : "$set" ∈ keys → ∀ paths content, value "$set" = .obj paths content →
      ∀ path ∈ paths, belowTenant path = false) :
    ∃ baseKeys baseValue,
      withTenant tenantId (((Json.obj keys scopedValue).property "$set").getD .null) =
        withTenant tenantId (.obj baseKeys baseValue) ∧
      (∀ path ∈ baseKeys, belowTenant path = false) ∧
      ∀ field, touching field "$set" (.obj baseKeys baseValue) =
        if "$set" ∈ keys then touching field "$set" (scopedValue "$set") else [] := by
  by_cases present : "$set" ∈ keys
  · cases isContent : value "$set" with
    | obj paths content =>
      obtain ⟨kept, isKept, listed⟩ := scopeOperands_obj "$set" paths content
      have atSet : scopedValue "$set" = .obj kept content := by
        rw [scopedAt "$set" present, isContent, isKept]
      refine ⟨kept, content, ?_, ?_, ?_⟩
      · simp [Json.property, present, atSet]
      · intro path member
        exact above present paths content isContent path (listed path member).1
      · intro field
        rw [if_pos present, atSet]
    | _ => simpa [isContent, Json.isObject] using objects "$set" present
  · refine ⟨[], fun _ => .null, ?_, by simp, ?_⟩
    · simp [Json.property, present, withTenant, Json.spread]
    · intro field
      rw [if_neg present]
      rfl

theorem entriesOf_operators (nonempty : keys.any isOperator = true) (field : String) :
    (entriesOf (.obj keys value)).filter (Entry.touches field) =
      Json.collect (touching field) (.obj keys value) := by
  rw [entriesOf, if_pos nonempty, Json.filter_collect]
  rfl

variable {engine : MongoEngine Value}

theorem keepsOtherFields_operators (documented : engine.Documented)
    (nonempty : keys.any isOperator = true) (operators : ∀ key ∈ keys, isOperator key = true)
    (above : NothingBelowTenant (.obj keys value)) (inserting : Bool) (document : Document Value) :
    KeepsOtherFields engine tenantId false (dropTenantRenames (.obj keys value))
      (.obj keys value) inserting document := by
  intro result applied
  have objects : ∀ key ∈ keys, (value key).isObject = true := by
    intro key member
    have isObject := applied.1 key member (operators key member)
    simp only at isObject
    split at isObject
    · rwa [Json.isObject_keep] at isObject
    · exact isObject
  obtain ⟨droppedValue, isDropped, sameTouching⟩ := dropTenantRenames_obj objects
  obtain ⟨scopedValue, isScoped, scopedAt⟩ := scopeOperators_obj operators objects
  rw [isDropped] at applied
  obtain ⟨_, originalFields⟩ := applied
  have aboveOperands : ∀ key path, key ∈ keys → ∀ paths content, value key = .obj paths content →
      path ∈ paths → belowTenant path = false ∧
        ∀ target, Entry.target ⟨key, path, content path⟩ = some target →
          belowTenant target = false := by
    intro key path member paths content isContent isPath
    apply above ⟨key, path, content path⟩
    rw [entriesOf, if_pos nonempty, Json.mem_collect]
    refine ⟨key, member, ?_⟩
    rw [isContent, operandsOf, Json.mem_collect]
    exact ⟨path, isPath, List.mem_singleton.mpr rfl⟩
  obtain ⟨baseKeys, baseValue, isBase, baseAbove, baseTouching⟩ :=
    scopedSet_base tenantId objects scopedAt
      (fun member paths content isContent path isPath =>
        (aboveOperands "$set" path member paths content isContent isPath).1)
  have operatorsAfter : (if "$set" ∈ keys then keys else keys ++ ["$set"]).any isOperator = true := by
    split
    · exact nonempty
    · simp [nonempty]
  refine ⟨fun field => if field = "tenant_id" then some (engine.text tenantId) else result field,
    ?_, by simp, fun field other => by simp [other]⟩
  rw [scopeUpdate_operators nonempty, isScoped, isBase]
  refine ⟨?_, ?_⟩
  · intro key member _
    by_cases isSet : key = "$set"
    · subst isSet
      simp only [if_true]
      rfl
    · have old : key ∈ keys := by
        split at member
        · exact member
        · simpa [isSet] using member
      simp only [if_neg isSet]
      rw [scopedAt key old]
      exact isObject_scopeOperands _ _
  · intro field
    rw [entriesOf_operators operatorsAfter field]
    change engine.after field (Json.collect (touching field)
      (Json.write (withTenant tenantId (.obj baseKeys baseValue)) ["$set"]
        (.obj keys scopedValue))) inserting document = _
    by_cases isTenant : field = "tenant_id"
    · subst isTenant
      rw [Json.collect_write_only, touching_tenant_withTenant tenantId
        (fun path member _ => baseAbove path member), documented.tenant_set]
      · simp
      · intro name member _
        have isObject := objects name member
        cases isContent : value name with
        | obj paths content =>
          rw [scopedAt name member, isContent]
          exact touching_tenant_scopeOperands fun path isPath =>
            aboveOperands name path member paths content isContent isPath
        | _ => simp [isContent, Json.isObject] at isObject
    · have sameFields : Json.collect (touching field)
          (Json.write (withTenant tenantId (.obj baseKeys baseValue)) ["$set"]
            (.obj keys scopedValue)) =
          Json.collect (touching field) (.obj keys droppedValue) := by
        rw [Json.collect_write (by rw [touching_withTenant isTenant tenantId rfl, baseTouching])]
        apply Json.collect_congr
        intro key member
        rw [scopedAt key member, sameTouching key member field isTenant]
      rw [sameFields, ← entriesOf_operators nonempty field]
      simpa [isTenant] using originalFields field

theorem keepsOtherFields_pipeline (documented : engine.Documented)
    (literal : isOperator tenantId = false) (replacement : Bool) (length : Nat)
    (item : Nat → Json) (inserting : Bool) (document : Document Value) :
    KeepsOtherFields engine tenantId replacement (.arr length item) (.arr length item) inserting
      document := by
  intro result applied
  refine ⟨fun field => if field = "tenant_id" then some (engine.text tenantId) else result field,
    ?_, by simp, fun field other => by simp [other]⟩
  have stages : (List.range length).map (fun index =>
      if index = length then tenantStage tenantId else item index) =
      (List.range length).map item := by
    apply List.map_congr_left
    intro index member
    rw [if_neg (Nat.ne_of_lt (List.mem_range.mp member))]
  simp only [MongoEngine.Applies] at applied
  simp [scopeUpdateToTenant, MongoEngine.Applies, List.range_succ, stages, List.foldlM_append,
    applied, documented.tenant_stage tenantId result literal]

theorem keepsOtherFields_document (documented : engine.Documented)
    (plain : ∀ key ∈ keys, isOperator key = false) (replacement : Bool)
    (above : replacement = false → NothingBelowTenant (.obj keys value)) (inserting : Bool)
    (document : Document Value) :
    KeepsOtherFields engine tenantId replacement (.obj keys value) (.obj keys value) inserting
      document := by
  intro result applied
  have noOperators : keys.any isOperator = false := by
    simpa using plain
  have noOperatorsAfter : (if "tenant_id" ∈ keys then keys else keys ++ ["tenant_id"]).any
      isOperator = false := by
    split
    · exact noOperators
    · simp [noOperators, tenant_notOperator]
  have isScoped : scopeUpdateToTenant (.obj keys value) tenantId replacement =
      Json.write (.str tenantId) ["tenant_id"] (.obj keys value) := by
    simp [scopeUpdateToTenant, noOperators, withTenant, Json.spread]
  refine ⟨fun field => if field = "tenant_id" then some (engine.text tenantId) else result field,
    ?_, by simp, fun field other => by simp [other]⟩
  rw [isScoped]
  cases replacement with
  | true =>
    intro field
    have before := applied field
    by_cases isTenant : field = "tenant_id"
    · subst isTenant
      have written : (Json.write (.str tenantId) ["tenant_id"] (.obj keys value)).property
          "tenant_id" = some (.str tenantId) := Json.property_write_self rfl _ _
      rw [Json.write] at written
      rw [written, documented.tenant_replaced]
      simp
    · have kept : (Json.write (.str tenantId) ["tenant_id"] (.obj keys value)).property field =
          Json.property field (.obj keys value) := Json.property_write_other _ _ isTenant
      rw [Json.write] at kept
      rw [kept]
      simpa [isTenant] using before
  | false =>
    obtain ⟨_, originalFields⟩ := applied
    refine ⟨?_, ?_⟩
    · intro key member operator
      exact (List.any_eq_false.mp noOperatorsAfter key member operator).elim
    · intro field
      have after : (entriesOf (Json.write (.str tenantId) ["tenant_id"] (.obj keys value))).filter
          (Entry.touches field) = touching field "$set" (withTenant tenantId (.obj keys value)) := by
        simp only [Json.write, entriesOf, noOperatorsAfter]
        rfl
      have originally : (entriesOf (.obj keys value)).filter (Entry.touches field) =
          touching field "$set" (.obj keys value) := by
        simp only [entriesOf, noOperators]
        rfl
      change engine.after field ((entriesOf (Json.write (.str tenantId) ["tenant_id"]
        (.obj keys value))).filter (Entry.touches field)) inserting document = _
      rw [after]
      by_cases isTenant : field = "tenant_id"
      · subst isTenant
        rw [touching_tenant_withTenant tenantId, documented.tenant_set]
        · simp
        · intro path member _
          refine (above rfl ⟨"$set", path, value path⟩ ?_).1
          simp only [entriesOf, noOperators, Bool.false_eq_true, if_false, operandsOf,
            Json.mem_collect]
          exact ⟨path, member, List.mem_singleton.mpr rfl⟩
      · rw [touching_withTenant isTenant tenantId rfl, ← originally]
        simpa [isTenant] using originalFields field

theorem applies_plain (plain : ∀ key ∈ keys, isOperator key = false)
    {replacement inserting : Bool} {document result : Document Value}
    (applied : engine.Applies replacement (dropTenantRenames (.obj keys value)) inserting document
      result) : engine.Applies replacement (.obj keys value) inserting document result := by
  have noRename : ∀ key ∈ keys, key ≠ "$rename" := by
    rintro key member rfl
    have isPlain := plain _ member
    simp [isOperator] at isPlain
  have noOperators : keys.any isOperator = false := by
    simpa using plain
  cases replacement with
  | true =>
    intro field
    have before := applied field
    by_cases member : field ∈ keys
    · simpa [Json.property, member, noRename field member] using before
    · simpa [Json.property, member] using before
  | false =>
    obtain ⟨_, fields⟩ := applied
    refine ⟨fun key member operator => ?_, fun field => ?_⟩
    · rw [plain key member] at operator
      cases operator
    · have same : entriesOf (dropTenantRenames (.obj keys value)) =
          entriesOf (.obj keys value) := by
        simp only [dropTenantRenames, Json.mapValues, entriesOf, noOperators,
          Bool.false_eq_true, if_false, operandsOf]
        apply Json.collect_congr
        intro key member
        rw [if_neg (noRename key member)]
      rw [← same]
      exact fields field

theorem literal_of_tenant (isTenant : tenantId ∈ SYSTEM_TENANTS ∨ isTenantSlug tenantId = true) :
    isOperator tenantId = false := by
  rcases isTenant with system | slug
  · simp [List.mem_singleton.mp system, isOperator]
  · simp only [isTenantSlug] at slug
    simp only [isOperator]
    split at slug
    · cases slug
    · rename_i first rest isList
      rw [isList]
      have notDollar : first ≠ '$' := by
        rintro rfl
        simp at slug
      simpa using notDollar

/-- For every tenant, every kind of update and every document that MongoDB leaves of it once its
renames from or to `tenant_id` are taken away, the scoped update leaves the same document,
owned by the tenant. -/
theorem scopedUpdate_keepsOtherFields (engine : MongoEngine Value) (documented : engine.Documented)
    {tenantId : String} (isTenant : tenantId ∈ SYSTEM_TENANTS ∨ isTenantSlug tenantId = true)
    {replacement : Bool} {update : Json} (shaped : WellShaped replacement update)
    (above : replacement = false → NothingBelowTenant update) (inserting : Bool)
    (document : Document Value) :
    KeepsOtherFields engine tenantId replacement (dropTenantRenames update) update inserting
      document := by
  cases update with
  | arr length item =>
    exact keepsOtherFields_pipeline documented (literal_of_tenant isTenant) replacement length
      item inserting document
  | obj keys value =>
    rcases shaped with ⟨rfl, operators⟩ | plain
    · by_cases nonempty : keys.any isOperator = true
      · exact keepsOtherFields_operators documented nonempty operators (above rfl) inserting document
      · have plain : ∀ key ∈ keys, isOperator key = false := by simpa using nonempty
        intro result applied
        exact keepsOtherFields_document documented plain false above inserting document result
          (applies_plain plain applied)
    · intro result applied
      exact keepsOtherFields_document documented plain replacement above inserting document
        result (applies_plain plain applied)
  | _ => exact shaped.elim

def plainMongo : MongoEngine String where
  text tenantId := tenantId
  after field entries inserting document :=
    match entries with
    | [] => some (document field)
    | [entry] =>
      match entry.operator, entry.operand with
      | "$set", .str text => if entry.path = field then some (some text) else none
      | "$setOnInsert", .str text =>
        if entry.path = field then some (if inserting then some text else document field)
        else none
      | "$unset", _ => if entry.path = field then some none else none
      | "$rename", .str target =>
        match document entry.path with
        | none => some (document field)
        | some text =>
          if field = entry.path then some none
          else if field = target then some (some text)
          else none
      | _, _ => none
    | _ => none
  replaced _ value _ _ :=
    match value with
    | none => some none
    | some (.str text) => some (some text)
    | some _ => none
  stage stage document :=
    (stage.property "$set").map fun operands field =>
      match operands.property field with
      | some (.str text) =>
        if isOperator text then document (String.ofList (text.toList.drop 1)) else some text
      | _ => document field

theorem plainMongo_documented : plainMongo.Documented where
  tenant_set _ _ _ := by simp [plainMongo]
  tenant_replaced _ _ _ := rfl
  tenant_stage tenantId document literal := by
    simp only [plainMongo, tenantStage, Json.object, Json.property, List.map_cons, List.map_nil,
      List.mem_singleton, if_true, List.lookup_cons, beq_self_eq_true, Option.getD_some,
      Option.map_some, Option.some.injEq]
    funext field
    by_cases isTenant : field = "tenant_id"
    · simp [isTenant, literal]
    · simp [isTenant]

def plainDocument : Document String
  | "tenant_id" => some "acme"
  | "legacy" => some "former"
  | _ => none

def namedUpdate : Json :=
  .object [("$set", .object [("name", .str "New")]), ("$unset", .object [("tenant_id", .str "")])]

theorem entriesOf_namedUpdate :
    entriesOf namedUpdate = [⟨"$set", "name", .str "New"⟩, ⟨"$unset", "tenant_id", .str ""⟩] := by
  have operator : isOperator "$set" = true := by simp [isOperator]
  simp [namedUpdate, entriesOf, Json.object, operator, operandsOf, Json.collect_obj, List.lookup_cons]

theorem entriesOf_droppedNamed :
    entriesOf (dropTenantRenames namedUpdate) = entriesOf namedUpdate := by
  have operator : isOperator "$set" = true := by simp [isOperator]
  simp [namedUpdate, dropTenantRenames, Json.mapValues, entriesOf, Json.object, operator,
    operandsOf, Json.collect_obj, List.lookup_cons]

theorem namedUpdate_scoped :
    ∃ scopedResult, plainMongo.Applies false (scopeUpdateToTenant namedUpdate "acme" false) false
        plainDocument scopedResult ∧ scopedResult "tenant_id" = some "acme" ∧
      scopedResult "name" = some "New" := by
  have nameField : topField "name" = "name" := by simp [topField]
  have shaped : WellShaped false namedUpdate := by
    refine .inl ⟨rfl, ?_⟩
    decide +kernel
  have above : NothingBelowTenant namedUpdate := by
    rw [NothingBelowTenant, entriesOf_namedUpdate]
    simp [belowTenant, nameField, Entry.target]
  have keeps := scopedUpdate_keepsOtherFields plainMongo plainMongo_documented
    (.inr (by simp [isTenantSlug] : isTenantSlug "acme" = true)) shaped (fun _ => above) false
    plainDocument
  have applied : plainMongo.Applies false (dropTenantRenames namedUpdate) false plainDocument
      (fun field => if field = "name" then some "New" else if field = "tenant_id" then none
        else plainDocument field) := by
    have entries := entriesOf_droppedNamed
    refine ⟨by decide +kernel, fun field => ?_⟩
    change plainMongo.after field ((entriesOf (dropTenantRenames namedUpdate)).filter
      (Entry.touches field)) false plainDocument = _
    rw [entries, entriesOf_namedUpdate]
    by_cases isName : field = "name"
    · simp [isName, Entry.touches, Entry.target, nameField, topField_tenant, plainMongo]
    · by_cases isTenant : field = "tenant_id"
      · simp [isTenant, Entry.touches, Entry.target, nameField, topField_tenant, plainMongo]
      · simp [isName, isTenant, Ne.symm isName, Ne.symm isTenant, Entry.touches, Entry.target,
          nameField, topField_tenant, plainMongo]
  obtain ⟨scopedResult, isScoped, owned, others⟩ := keeps _ applied
  exact ⟨scopedResult, isScoped, owned, by rw [others "name" (by decide)]; rfl⟩

def renameUpdate (target : String) : Json :=
  .object [("$rename", .object [("legacy", .str target)])]

theorem rename_operator : isOperator "$rename" = true := by simp [isOperator]

theorem entriesOf_renameUpdate (target : String) :
    entriesOf (renameUpdate target) = [⟨"$rename", "legacy", .str target⟩] := by
  simp [renameUpdate, entriesOf, Json.object, rename_operator, operandsOf, Json.collect_obj]

def scopedRename (target : String) : List Entry :=
  (if target = "tenant_id" then [] else [⟨"$rename", "legacy", .str target⟩]) ++
    [⟨"$set", "tenant_id", .str "acme"⟩]

theorem entriesOf_scopedRename (target : String) :
    entriesOf (scopeUpdateToTenant (renameUpdate target) "acme" false) = scopedRename target := by
  simp only [scopedRename]
  by_cases isTenant : target = "tenant_id"
  · simp [renameUpdate, scopeUpdateToTenant, entriesOf, Json.object, rename_operator, operandsOf,
      Json.collect_obj, scopeOperators, Json.mapValues, Json.property, Json.write, withTenant,
      Json.spread, scopeOperands, Json.keep, Json.isReference, namesTenant, isTenant]
  · simp [renameUpdate, scopeUpdateToTenant, entriesOf, Json.object, rename_operator, operandsOf,
      Json.collect_obj, scopeOperators, Json.mapValues, Json.property, Json.write, withTenant,
      Json.spread, scopeOperands, Json.keep, Json.isReference, namesTenant, isTenant]

theorem renameUpdate_applies {target : String} {document result : Document String}
    (fields : ∀ field, plainMongo.after field
      ([⟨"$rename", "legacy", .str target⟩].filter (Entry.touches field)) false document =
        some (result field)) :
    plainMongo.Applies false (renameUpdate target) false document result := by
  refine ⟨?_, fun field => ?_⟩
  · intro key member _
    rw [List.mem_singleton.mp member]
    rfl
  · have entries := entriesOf_renameUpdate target
    rw [renameUpdate, Json.object] at entries
    rw [entries]
    exact fields field

theorem isObject_scopeUpdate {update : Json} (isObject : update.isObject = true)
    (tenantId : String) (replacement : Bool) :
    (scopeUpdateToTenant update tenantId replacement).isObject = true := by
  cases update with
  | obj keys value =>
    simp only [scopeUpdateToTenant]
    split
    · rw [withTenant, Json.isObject_write, Json.isObject_spread]
    · rw [Json.isObject_write]
      rfl
  | _ => simp [Json.isObject] at isObject

theorem applies_field {update : Json} (isObject : update.isObject = true) {inserting : Bool}
    {document result : Document Value}
    (applied : engine.Applies false update inserting document result) (field : String) :
    engine.after field ((entriesOf update).filter (Entry.touches field)) inserting document =
      some (result field) := by
  cases update with
  | obj keys value => exact applied.2 field
  | _ => simp [Json.isObject] at isObject

theorem scopedRename_after {target : String} {document result : Document String}
    (applied : plainMongo.Applies false (scopeUpdateToTenant (renameUpdate target) "acme" false)
      false document result) (field : String) :
    plainMongo.after field ((scopedRename target).filter (Entry.touches field)) false document =
      some (result field) := by
  rw [← entriesOf_scopedRename]
  exact applies_field (isObject_scopeUpdate rfl "acme" false) applied field

theorem renames_notKept :
    ¬KeepsOtherFields plainMongo "acme" false (renameUpdate "tenant_id") (renameUpdate "tenant_id")
        false plainDocument ∧
      ¬KeepsOtherFields plainMongo "acme" false (renameUpdate "tenant_id.former")
        (renameUpdate "tenant_id.former") false
        (fun field => if field = "tenant_id" then some "acme" else none) := by
  have legacyField : topField "legacy" = "legacy" := by simp [topField]
  have belowField : topField "tenant_id.former" = "tenant_id" := by simp [topField]
  constructor
  · intro keeps
    obtain ⟨scopedResult, applied, _, others⟩ := keeps
      (fun field => if field = "legacy" then none else if field = "tenant_id" then some "former"
        else plainDocument field) (by
        apply renameUpdate_applies
        intro field
        by_cases isLegacy : field = "legacy"
        · simp [isLegacy, Entry.touches, legacyField, plainMongo, plainDocument]
        · by_cases isTenant : field = "tenant_id"
          · simp [isTenant, Entry.touches, Entry.target, legacyField, topField_tenant, plainMongo,
              plainDocument]
          · simp [isTenant, isLegacy, Ne.symm isTenant, Ne.symm isLegacy, Entry.touches,
              Entry.target, legacyField, topField_tenant, plainMongo])
    have atLegacy := scopedRename_after applied "legacy"
    rw [others "legacy" (by decide)] at atLegacy
    simp [scopedRename, Entry.touches, Entry.target, topField_tenant, plainMongo, plainDocument]
      at atLegacy
  · intro keeps
    obtain ⟨scopedResult, applied, _⟩ := keeps
      (fun field => if field = "tenant_id" then some "acme" else none) (by
        apply renameUpdate_applies
        intro field
        by_cases touched : Entry.touches field ⟨"$rename", "legacy", .str "tenant_id.former"⟩ = true
        · simp [touched, plainMongo]
        · simp [touched, plainMongo])
    have atTenant := scopedRename_after applied "tenant_id"
    simp [scopedRename, Entry.touches, Entry.target, topField_tenant, belowField, plainMongo]
      at atTenant

end ParakoId.TenantScope
