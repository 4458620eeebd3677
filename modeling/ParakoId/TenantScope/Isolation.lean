import ParakoId.Library.Tables
import ParakoId.TenantScope.Extension

/-! What the scoped operations do to the rows of a model. -/

namespace ParakoId.TenantScope

variable {Row : Type*}

/-- Prisma on one model. Of the rows that match, `chosen` are those that a lookup, an order
with its limits or a cursor leaves; `kept` are the new rows that are no skipped duplicates;
`rejects` is a failed validation or a constraint. -/
structure Engine (Row : Type*) where
  tenantOf : Row → String
  matching : String → Json → Row → Bool
  chosen : String → Json → List Row → Row → Bool
  create : Json → Row
  update : Json → Row → Row
  kept : Json → List Row → Row → Bool
  rejects : String → Json → List Row → Bool

/-- A string under `tenant_id` is an equality in `where` and an assignment in data. -/
structure Engine.Documented (engine : Engine Row) : Prop where
  tenant_matching : ∀ tenantId row,
    engine.matching "tenant_id" (.str tenantId) row = true ↔ engine.tenantOf row = tenantId
  tenant_created : ∀ data tenantId, data.property "tenant_id" = some (.str tenantId) →
    engine.tenantOf (engine.create data) = tenantId
  tenant_updated : ∀ data tenantId row, data.property "tenant_id" = some (.str tenantId) →
    engine.tenantOf (engine.update data row) = tenantId

/-- The rows read, updated or deleted as they were, the rows created or updated as they are,
and the rows of the model afterwards. -/
structure Outcome (Row : Type*) where
  selected : List Row
  written : List Row
  rows : List Row

def READ_OPERATIONS : List String :=
  ["findMany", "findFirst", "findFirstOrThrow", "findUnique", "findUniqueOrThrow", "count",
    "aggregate", "groupBy"]

def objectAt (args : Json) (key : String) : Option Json := (args.property key).filter Json.isObject

def Engine.selects (engine : Engine Row) (criteria : Option Json) (row : Row) : Bool :=
  match criteria with
  | some (.obj keys value) => keys.all fun key => engine.matching key (value key) row
  | _ => true

def Engine.affected (engine : Engine Row) (operation : String) (args : Json) (rows : List Row)
    (row : Row) : Bool :=
  engine.selects (args.property "where") row && engine.chosen operation args rows row

def Engine.updateRows (engine : Engine Row) (affected : Row → Bool) (data : Json)
    (rows : List Row) : Outcome Row where
  selected := rows.filter affected
  written := (rows.filter affected).map (engine.update data)
  rows := Tables.updateMany affected (engine.update data) rows

def Engine.createRows (engine : Engine Row) (data : List Json) (args : Json) (rows : List Row) :
    Outcome Row :=
  let created := (data.map engine.create).filter (engine.kept args rows)
  { selected := [], written := created, rows := rows ++ created }

/-- The data of a `createMany`: a list of objects or one object. -/
def dataList (args : Json) : Option (List Json) :=
  match args.property "data" with
  | some (.arr length item) => some ((List.range length).map item)
  | some (.obj keys value) => some [.obj keys value]
  | _ => none

def Engine.execute (engine : Engine Row) (operation : String) (args : Json) (rows : List Row) :
    Option (Outcome Row) :=
  let affected := engine.affected operation args rows
  if engine.rejects operation args rows then none
  else if operation ∈ READ_OPERATIONS then
    some { selected := rows.filter affected, written := [], rows }
  else if operation ∈ UPDATE_OPERATIONS then
    (objectAt args "data").map fun data => engine.updateRows affected data rows
  else if operation = "delete" ∨ operation = "deleteMany" then
    some { selected := rows.filter affected, written := []
           rows := rows.filter fun row => !affected row }
  else if operation = "create" then
    (objectAt args "data").map fun data => engine.createRows [data] args rows
  else if operation = "createMany" ∨ operation = "createManyAndReturn" then
    (dataList args).map fun data => engine.createRows data args rows
  else if operation = "upsert" then
    match objectAt args "where", objectAt args "create", objectAt args "update" with
    | some _, some create, some update =>
      if rows.any affected then some (engine.updateRows affected update rows)
      else some (engine.createRows [create] args rows)
    | _, _, _ => none
  else none

structure Isolated (engine : Engine Row) (tenantId : String) (before : List Row)
    (outcome : Outcome Row) : Prop where
  selected : ∀ row ∈ outcome.selected, engine.tenantOf row = tenantId
  written : ∀ row ∈ outcome.written, engine.tenantOf row = tenantId
  others : outcome.rows.filter (fun row => engine.tenantOf row ≠ tenantId) =
    before.filter fun row => engine.tenantOf row ≠ tenantId

def CarriesTenant (tenantId : String) (value : Json) : Prop :=
  value.property "tenant_id" = some (.str tenantId)

theorem withTenant_carries (tenantId : String) (value : Json) :
    CarriesTenant tenantId (withTenant tenantId value) :=
  Json.property_write_self (Json.isObject_spread value) _ _

theorem scopeField_other (tenantId : String) {key name : String} (different : name ≠ key)
    (args : Json) : (scopeField tenantId key args).property name = args.property name := by
  simp only [scopeField]
  split
  · split
    · exact Json.property_write_other _ _ different
    · rfl
  · rfl

theorem isObject_scopeField (tenantId key : String) (args : Json) :
    (scopeField tenantId key args).isObject = args.isObject := by
  simp only [scopeField]
  split
  · split
    · exact Json.isObject_write _ _ _ _
    · rfl
  · rfl

variable {tenantId operation : String} {args : Json} {engine : Engine Row}

theorem scopeField_carries {key : String} {value : Json} (isObject : args.isObject = true)
    (found : objectAt (scopeField tenantId key args) key = some value) :
    CarriesTenant tenantId value := by
  simp only [objectAt, scopeField] at found
  split at found
  · rename_i before isBefore
    split at found
    · rw [Json.property_write_self isObject, Option.filter_eq_some_iff] at found
      rw [← Option.some.inj found.1]
      exact withTenant_carries _ _
    · rename_i falsy
      rw [isBefore, Option.filter_eq_some_iff, Option.some.injEq] at found
      obtain ⟨rfl, isObject⟩ := found
      cases before <;> simp_all [Json.isObject, Json.truthy]
  · rename_i missing
    simp [missing] at found

theorem scopeArgs_filter (tenantId : String) (args : Json)
    (filters : operation ∈ FILTER_OPERATIONS) :
    scopeArgs tenantId operation args =
      let updated := if operation ∈ UPDATE_OPERATIONS then scopeField tenantId "data" args else args
      Json.write (withTenant tenantId ((updated.property "where").getD .null)) ["where"]
        updated := by
  have disjoint : ∀ name ∈ FILTER_OPERATIONS, name ∉ WRITE_OPERATIONS := by decide
  simp only [scopeArgs, if_neg (disjoint operation filters), if_pos filters]

theorem scopeArgs_write (tenantId : String) (args : Json) (writes : operation ∈ WRITE_OPERATIONS) :
    scopeArgs tenantId operation args = scopeWrite tenantId operation args := by
  have disjoint : ∀ name ∈ WRITE_OPERATIONS,
      name ∉ UPDATE_OPERATIONS ∧ name ∉ FILTER_OPERATIONS := by decide
  obtain ⟨noUpdate, noFilter⟩ := disjoint operation writes
  simp only [scopeArgs, if_pos writes, if_neg noUpdate, if_neg noFilter]

theorem scopeArgs_where (tenantId : String) (isObject : args.isObject = true)
    (filters : operation ∈ FILTER_OPERATIONS) :
    ∃ criteria, (scopeArgs tenantId operation args).property "where" = some criteria ∧
      CarriesTenant tenantId criteria := by
  rw [scopeArgs_filter tenantId args filters]
  refine ⟨_, Json.property_write_self ?_ _ _, withTenant_carries tenantId _⟩
  split
  · rw [isObject_scopeField, isObject]
  · exact isObject

section

variable (isObject : args.isObject = true)
include isObject

theorem scopeArgs_data {data : Json} (updates : operation ∈ UPDATE_OPERATIONS)
    (found : objectAt (scopeArgs tenantId operation args) "data" = some data) :
    CarriesTenant tenantId data := by
  have filters : ∀ name ∈ UPDATE_OPERATIONS, name ∈ FILTER_OPERATIONS := by decide
  rw [scopeArgs_filter tenantId args (filters operation updates), if_pos updates, objectAt,
    Json.property_write_other _ _ (by decide)] at found
  exact scopeField_carries isObject found

theorem scopeArgs_create {data : Json}
    (found : objectAt (scopeArgs tenantId "create" args) "data" = some data) :
    CarriesTenant tenantId data := by
  rw [scopeArgs_write tenantId args (by decide)] at found
  exact scopeField_carries isObject (by simpa [scopeWrite] using found)

theorem scopeField_notList {key : String} {length : Nat} {item : Nat → Json}
    (after : (scopeField tenantId key args).property key = some (.arr length item)) :
    args.property key = some (.arr length item) := by
  simp only [scopeField] at after
  split at after
  · rename_i before isBefore
    split at after
    · have scopedObject : (withTenant tenantId before).isObject = true := by
        rw [withTenant, Json.isObject_write, Json.isObject_spread]
      rw [Json.property_write_self isObject, Option.some.injEq] at after
      simp [after, Json.isObject] at scopedObject
    · exact after
  · exact after

theorem scopeCreateMany_carries {data : List Json}
    (found : dataList (scopeCreateMany tenantId args) = some data) :
    ∀ value ∈ data, CarriesTenant tenantId value := by
  simp only [scopeCreateMany] at found
  split at found
  · rename_i length item _
    simp only [dataList, Json.property_write_self isObject, Option.some.injEq] at found
    subst found
    intro value member
    obtain ⟨index, _, rfl⟩ := List.mem_map.mp member
    exact withTenant_carries _ _
  · rename_i notList
    cases isData : (scopeField tenantId "data" args).property "data" with
    | none => simp [dataList, isData] at found
    | some value =>
      cases value with
      | obj keys content =>
        have carries : CarriesTenant tenantId (.obj keys content) :=
          scopeField_carries isObject
            (show objectAt (scopeField tenantId "data" args) "data" = _ by
              simp [objectAt, isData, Json.isObject])
        simp only [dataList, isData, Option.some.injEq] at found
        simpa [← found] using carries
      | arr length item => exact (notList length item (scopeField_notList isObject isData)).elim
      | _ => simp [dataList, isData] at found

theorem scopeArgs_createMany
    (creates : operation = "createMany" ∨ operation = "createManyAndReturn") {data : List Json}
    (found : dataList (scopeArgs tenantId operation args) = some data) :
    ∀ value ∈ data, CarriesTenant tenantId value := by
  have writes : operation ∈ WRITE_OPERATIONS := by
    rcases creates with rfl | rfl <;> decide
  have notUpsert : operation ≠ "upsert" := by
    rcases creates with rfl | rfl <;> decide
  rw [scopeArgs_write tenantId args writes, scopeWrite, if_neg notUpsert, if_pos creates] at found
  exact scopeCreateMany_carries isObject found

theorem scopeArgs_upsert {value : Json} {key : String}
    (scopes : key ∈ ["create", "update", "where"])
    (found : objectAt (scopeArgs tenantId "upsert" args) key = some value) :
    CarriesTenant tenantId value := by
  rw [scopeArgs_write tenantId args (by decide)] at found
  simp only [scopeWrite, if_true] at found
  simp only [List.mem_cons, List.not_mem_nil, or_false] at scopes
  rcases scopes with rfl | rfl | rfl
  · rw [objectAt, scopeField_other tenantId (by decide), scopeField_other tenantId (by decide)]
      at found
    exact scopeField_carries isObject found
  · rw [objectAt, scopeField_other tenantId (by decide)] at found
    exact scopeField_carries (by simpa [isObject_scopeField] using isObject) found
  · exact scopeField_carries (by simpa [isObject_scopeField] using isObject) found

end

section

variable (documented : engine.Documented)
include documented

theorem selects_tenant {criteria : Json} (carries : CarriesTenant tenantId criteria) {row : Row}
    (selected : engine.selects (some criteria) row = true) : engine.tenantOf row = tenantId := by
  cases criteria with
  | obj keys value =>
    simp only [CarriesTenant, Json.property] at carries
    split at carries
    · rename_i member
      have entry := List.all_eq_true.mp selected "tenant_id" member
      rw [Option.some.inj carries] at entry
      exact (documented.tenant_matching tenantId row).mp entry
    · cases carries
  | _ => simp [CarriesTenant, Json.property] at carries

theorem updateRows_isolated {affected : Row → Bool}
    (inside : ∀ row, affected row = true → engine.tenantOf row = tenantId) {data : Json}
    (carries : CarriesTenant tenantId data) (rows : List Row) :
    Isolated engine tenantId rows (engine.updateRows affected data rows) where
  selected := by
    intro row member
    exact inside row (List.mem_filter.mp member).2
  written := by
    intro row member
    obtain ⟨old, _, rfl⟩ := List.mem_map.mp member
    exact documented.tenant_updated data tenantId old carries
  others := by
    apply Tables.filter_updateMany
    · intro row _ isAffected
      simp [inside row isAffected]
    · intro row _ _
      simp [documented.tenant_updated data tenantId row carries]

theorem createRows_isolated {data : List Json}
    (carries : ∀ value ∈ data, CarriesTenant tenantId value) (args : Json) (rows : List Row) :
    Isolated engine tenantId rows (engine.createRows data args rows) := by
  have created : ∀ row ∈ (engine.createRows data args rows).written,
      engine.tenantOf row = tenantId := by
    intro row member
    obtain ⟨value, isData, rfl⟩ := List.mem_map.mp (List.mem_filter.mp member).1
    exact documented.tenant_created value tenantId (carries value isData)
  refine ⟨by simp [Engine.createRows], created, ?_⟩
  apply Tables.filter_append_inside
  intro row member
  simp [created row member]

theorem execute_isolated (tenantId operation : String) (isObject : args.isObject = true)
    {rows : List Row} {outcome : Outcome Row}
    (executed : engine.execute operation (scopeArgs tenantId operation args) rows = some outcome) :
    Isolated engine tenantId rows outcome := by
  generalize isScoped : scopeArgs tenantId operation args = scopedArgs at executed
  have insideFilter : operation ∈ FILTER_OPERATIONS → ∀ row,
      engine.affected operation scopedArgs rows row = true → engine.tenantOf row = tenantId := by
    intro filters row isAffected
    obtain ⟨criteria, isWhere, carries⟩ := scopeArgs_where tenantId isObject filters
    simp only [Engine.affected, ← isScoped, isWhere, Bool.and_eq_true] at isAffected
    exact selects_tenant documented carries isAffected.1
  simp only [Engine.execute] at executed
  split at executed
  · cases executed
  split at executed
  · -- a read
    rename_i reads
    have filters : ∀ name ∈ READ_OPERATIONS, name ∈ FILTER_OPERATIONS := by decide
    rw [← Option.some.inj executed]
    refine ⟨?_, by simp, rfl⟩
    intro row member
    exact insideFilter (filters operation reads) row (List.mem_filter.mp member).2
  split at executed
  · rename_i updates
    have filters : ∀ name ∈ UPDATE_OPERATIONS, name ∈ FILTER_OPERATIONS := by decide
    obtain ⟨data, isData, rfl⟩ := Option.map_eq_some_iff.mp executed
    rw [← isScoped] at isData
    exact updateRows_isolated documented (insideFilter (filters operation updates))
      (scopeArgs_data isObject updates isData) rows
  split at executed
  · rename_i deletes
    have filters : operation ∈ FILTER_OPERATIONS := by
      rcases deletes with rfl | rfl <;> decide
    rw [← Option.some.inj executed]
    refine ⟨?_, by simp, ?_⟩
    · intro row member
      exact insideFilter filters row (List.mem_filter.mp member).2
    · apply Tables.filter_delete
      intro row _ isAffected
      simp [insideFilter filters row isAffected]
  split at executed
  · rename_i creates
    subst creates
    obtain ⟨data, isData, rfl⟩ := Option.map_eq_some_iff.mp executed
    rw [← isScoped] at isData
    refine createRows_isolated documented ?_ _ rows
    simpa using scopeArgs_create isObject isData
  split at executed
  · rename_i creates
    obtain ⟨data, isData, rfl⟩ := Option.map_eq_some_iff.mp executed
    rw [← isScoped] at isData
    exact createRows_isolated documented (scopeArgs_createMany isObject creates isData) _ rows
  split at executed
  · rename_i upserts
    subst upserts
    split at executed
    · rename_i criteria create update isWhere isCreate isUpdate
      rw [← isScoped] at isWhere isCreate isUpdate
      have inside : ∀ row, engine.affected "upsert" scopedArgs rows row = true →
          engine.tenantOf row = tenantId := by
        intro row isAffected
        have carries := scopeArgs_upsert isObject (by decide) isWhere
        simp only [objectAt, Option.filter_eq_some_iff] at isWhere
        simp only [Engine.affected, ← isScoped, isWhere.1, Bool.and_eq_true] at isAffected
        exact selects_tenant documented carries isAffected.1
      split at executed
      · rw [← Option.some.inj executed]
        exact updateRows_isolated documented inside
          (scopeArgs_upsert isObject (by decide) isUpdate) rows
      · rw [← Option.some.inj executed]
        refine createRows_isolated documented ?_ _ rows
        simpa using scopeArgs_upsert isObject (by decide) isCreate
    · cases executed
  · cases executed

end

theorem allOperations_args {context : TenantContext}
    (isTenant : getTenantId context = .ok tenantId) {adapter : Adapter}
    {supports : String → String → Bool} {model : String}
    (tenantScoped : model ∉ TENANT_EXCLUDED_MODELS) {execution : Execution}
    (dispatched : allOperations context adapter supports model operation args = .ok execution) :
    execution.args = scopeArgs tenantId operation args := by
  simp only [allOperations, tenantScoped, and_false, if_false, isTenant] at dispatched
  split at dispatched
  · cases dispatched
  · cases adapter with
    | sqlite =>
      rw [← Except.ok.inj dispatched]
      rfl
    | postgresql =>
      simp only at dispatched
      split at dispatched
      · rw [← Except.ok.inj dispatched]
        rfl
      · cases dispatched

/-- Whatever the operation and its arguments, the rows it reads, changes or makes are rows of
the current tenant, and those of the other tenants stay. -/
theorem operation_isolated (engine : Engine Row) (documented : engine.Documented)
    {context : TenantContext} {tenantId : String} (isTenant : getTenantId context = .ok tenantId)
    {adapter : Adapter} {supports : String → String → Bool} {model operation : String}
    (tenantScoped : model ∉ TENANT_EXCLUDED_MODELS) {keys : List String} {value : String → Json}
    {execution : Execution}
    (dispatched : allOperations context adapter supports model operation (.obj keys value) =
      .ok execution)
    {rows : List Row} {outcome : Outcome Row}
    (executed : engine.execute operation execution.args rows = some outcome) :
    Isolated engine tenantId rows outcome := by
  rw [allOperations_args isTenant tenantScoped dispatched] at executed
  exact execute_isolated documented tenantId operation rfl executed

def plainText (data : Json) (key : String) : String :=
  match data.property key with
  | some (.str text) => text
  | _ => ""

def plainEngine : Engine (String × String) where
  tenantOf row := row.2
  matching
    | "tenant_id", .str tenantId, row => row.2 == tenantId
    | "id", .str id, row => row.1 == id
    | "OR", .arr length item, row =>
      (List.range length).any fun index => plainText (item index) "id" == row.1
    | _, _, _ => false
  chosen _ _ _ _ := true
  create data := (plainText data "id", plainText data "tenant_id")
  update data row := (row.1, plainText data "tenant_id")
  kept _ _ _ := true
  rejects _ _ _ := false

theorem plainEngine_documented : plainEngine.Documented where
  tenant_matching tenantId row := by simp [plainEngine]
  tenant_created data tenantId carries := by simp [plainEngine, plainText, carries]
  tenant_updated data tenantId row carries := by simp [plainEngine, plainText, carries]

def plainRows : List (String × String) := [("first", "alpha"), ("second", "beta")]

def foreignArgs : List (String × Json) :=
  [("where", .object
      [("OR", .array [.object [("id", .str "first")], .object [("id", .str "second")]]),
        ("tenant_id", .str "beta")]),
    ("data", .object [("tenant_id", .str "beta")])]

theorem updateMany_isolated :
    ∃ outcome, plainEngine.execute "updateMany"
        (scopeArgs "alpha" "updateMany" (.object foreignArgs)) plainRows = some outcome ∧
      outcome.selected = [("first", "alpha")] ∧
      Isolated plainEngine "alpha" plainRows outcome := by
  have slug : isTenantSlug "alpha" = true := by simp [isTenantSlug]
  have runs : ((plainEngine.execute "updateMany"
      (scopeArgs "alpha" "updateMany" (.object foreignArgs)) plainRows).map Outcome.selected) =
        some [("first", "alpha")] := by
    decide +kernel
  have isTenant : getTenantId ⟨some "alpha", true⟩ = .ok "alpha" := rfl
  have dispatched : allOperations ⟨some "alpha", true⟩ .sqlite (fun _ _ => true) "User" "updateMany"
      (.object foreignArgs) =
        .ok (.query (scopeArgs "alpha" "updateMany" (.object foreignArgs))) := by
    simp [allOperations, getTenantId, slug, TENANT_EXCLUDED_MODELS]
  obtain ⟨outcome, executed, selected⟩ := Option.map_eq_some_iff.mp runs
  exact ⟨outcome, executed, selected,
    operation_isolated plainEngine plainEngine_documented isTenant (by decide) dispatched executed⟩

end ParakoId.TenantScope
