import ParakoId.Library.Json

/-!
The Prisma extension that scopes the operations of a model to the current tenant: what
reaches Prisma for an operation and its arguments.
-/

namespace ParakoId.TenantScope

def DEFAULT_TENANT_ID : String := "default"

def SYSTEM_TENANTS : List String := ["_platforms"]

def TENANT_EXCLUDED_MODELS : List String := ["Tenant", "Settings"]

def WRITE_OPERATIONS : List String := ["create", "createMany", "createManyAndReturn", "upsert"]

def FILTER_OPERATIONS : List String :=
  ["findMany", "findFirst", "findFirstOrThrow", "findUnique", "findUniqueOrThrow", "update",
    "updateMany", "updateManyAndReturn", "delete", "deleteMany", "count", "aggregate", "groupBy"]

def UPDATE_OPERATIONS : List String := ["update", "updateMany", "updateManyAndReturn"]

structure TenantContext where
  store : Option String
  strict : Bool

def getTenantId (context : TenantContext) : Except String String :=
  match context.store with
  | some tenantId => .ok tenantId
  | none =>
    if context.strict then
      .error ("[TenantContext] No active tenant context in strict mode. " ++
        "Ensure tenantContext.run() wraps the current execution path. " ++
        "This usually means TenantContextMiddleware is not mounted or " ++
        "the code is executing outside of a request context (e.g., " ++
        "background job without tenantId, startup code, Redis callback).")
    else .ok DEFAULT_TENANT_ID

/-- `TENANT_SLUG_PATTERN.test` -/
def isTenantSlug (tenantId : String) : Bool :=
  let isWord : Char → Bool := fun character =>
    decide ('a' ≤ character ∧ character ≤ 'z') || decide ('0' ≤ character ∧ character ≤ '9')
  match tenantId.toList with
  | [] => false
  | first :: rest =>
    isWord first && decide (rest.length ≤ 62) &&
      rest.all fun character => isWord character || character == '_' || character == '-'

/-- `{ ...value, tenant_id: tenantId }` -/
def withTenant (tenantId : String) (value : Json) : Json :=
  Json.write (.str tenantId) ["tenant_id"] value.spread

/-- `if (args[key]) args[key] = { ...args[key], tenant_id: tenantId }` -/
def scopeField (tenantId key : String) (args : Json) : Json :=
  match args.property key with
  | some value =>
    if value.truthy then Json.write (withTenant tenantId value) [key] args else args
  | none => args

def scopeCreateMany (tenantId : String) (args : Json) : Json :=
  match args.property "data" with
  | some (.arr length item) =>
    Json.write (.arr length fun index => withTenant tenantId (item index)) ["data"] args
  | _ => scopeField tenantId "data" args

def scopeWrite (tenantId operation : String) (args : Json) : Json :=
  if operation = "upsert" then
    scopeField tenantId "where" (scopeField tenantId "update" (scopeField tenantId "create" args))
  else if operation = "createMany" ∨ operation = "createManyAndReturn" then
    scopeCreateMany tenantId args
  else scopeField tenantId "data" args

def scopeArgs (tenantId operation : String) (args : Json) : Json :=
  let args := if operation ∈ WRITE_OPERATIONS then scopeWrite tenantId operation args else args
  let args := if operation ∈ UPDATE_OPERATIONS then scopeField tenantId "data" args else args
  if operation ∈ FILTER_OPERATIONS then
    Json.write (withTenant tenantId ((args.property "where").getD .null)) ["where"] args
  else args

inductive Adapter
  | sqlite
  | postgresql

/-- What is run: the query of the extended client, or the same operation in a transaction of
the raw client after `set_config('app.tenant_id', tenantId)`. -/
inductive Execution
  | query (args : Json)
  | transaction (tenantId : String) (args : Json)

def Execution.args : Execution → Json
  | .query args => args
  | .transaction _ args => args

/-- `supports` tells which delegates of the raw client have a method. -/
def allOperations (context : TenantContext) (adapter : Adapter)
    (supports : String → String → Bool) (model operation : String) (args : Json) :
    Except String Execution :=
  if model ≠ "" ∧ model ∈ TENANT_EXCLUDED_MODELS then .ok (.query args)
  else match getTenantId context with
    | .error _ =>
      .error ("[tenant-extension] Tenant context unavailable while executing " ++ model ++ "." ++
        operation)
    | .ok tenantId =>
      if tenantId ∉ SYSTEM_TENANTS ∧ isTenantSlug tenantId = false then
        .error ("[tenant-extension] Invalid tenant ID format: " ++
          String.ofList (tenantId.toList.take 64))
      else
        let scopedArgs := scopeArgs tenantId operation args
        match adapter with
        | .sqlite => .ok (.query scopedArgs)
        | .postgresql =>
          if supports model operation then .ok (.transaction tenantId scopedArgs)
          else .error ("[tenant-extension] Unsupported Prisma operation: " ++ model ++ "." ++
            operation)

end ParakoId.TenantScope
