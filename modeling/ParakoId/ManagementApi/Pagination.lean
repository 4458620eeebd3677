import ParakoId.Library.CursorPages
import ParakoId.Library.Ranking
import ParakoId.ManagementApi.JwtAuth
import Mathlib.Data.List.Lex
import Mathlib.Data.Prod.Lex

/-!
The cursor pagination of the management API, and its lists of users, of tenants and of a user's
activities. Times are milliseconds.
-/

namespace ParakoId.ManagementApi

open CursorPages (Page)
open Ranking (ranked)

/-! `pagination.ts`. -/

/-- What is passed to `next`: a problem, with the message for the field `after`, or an error of
the database. -/
inductive ListFailure
  | problem (problem : ProblemDetail) (message : String)
  | notFound (detail : String)
  | thrown

def invalidCursor (detail message : String) : ListFailure :=
  .problem ⟨"urn:parako:error:validation", "Validation Error", 422, detail, none⟩ message

abbrev CursorFields := List (String × String)

/-- The JSON of a cursor; a field has no text where its value is not a string. -/
inductive Decoded
  | invalid
  | notAnObject
  | object (fields : List (String × Option String))

structure Cursors (Cursor : Type) where
  encodeCursor : CursorFields → Cursor
  parse : Cursor → Decoded
  parse_encode : ∀ fields, parse (encodeCursor fields) =
    .object (fields.map fun field => (field.1, some field.2))

def texts : List (String × Option String) → Option CursorFields
  | [] => some []
  | (name, value) :: rest => do
      let text ← value
      let others ← texts rest
      return (name, text) :: others

def decodeCursor : Decoded → Except ListFailure CursorFields
  | .invalid => .error (invalidCursor "Invalid cursor: unable to decode cursor string"
      "Cursor is not valid base64url-encoded JSON")
  | .notAnObject => .error (invalidCursor "Invalid cursor: decoded value is not a JSON object"
      "Cursor must decode to a JSON object")
  | .object entries =>
    if entries.isEmpty then .error (invalidCursor
      "Invalid cursor: cursor must contain at least one field"
      "Cursor must contain at least one field")
    else match texts entries with
      | some fields => .ok fields
      | none => .error (invalidCursor "Invalid cursor: cursor field values must be strings"
          "Cursor field values must be strings")

inductive RangeOperator
  | gt
  | lt

structure CursorRange where
  field : String
  operator : RangeOperator
  value : String

variable {Cursor : Type}

def buildCursorQuery (cursors : Cursors Cursor) (cursor : Option Cursor) (sortField : String)
    (operator : RangeOperator) : Except ListFailure (List CursorRange) :=
  match cursor with
  | none => .ok []
  | some cursor => do
      let fields ← decodeCursor (cursors.parse cursor)
      let idValue := (fields.lookup "id").or (fields.lookup "_id")
      if sortField = "id" ∨ sortField = "_id" then
        match idValue with
        | none => .error (invalidCursor "Invalid cursor: cursor is missing an id field"
            "Cursor must contain an id or _id field")
        | some value => .ok [⟨sortField, operator, value⟩]
      else match fields.lookup sortField with
        | none => .error (invalidCursor
            ("Invalid cursor: cursor is missing the '" ++ sortField ++ "' sort field")
            ("Cursor must contain the '" ++ sortField ++ "' sort field"))
        | some sortValue =>
          match idValue with
          | none => .error (invalidCursor
              "Invalid cursor: compound cursor is missing an id field"
              "Compound cursor must contain an id or _id field")
          | some value => .ok [⟨sortField, operator, sortValue⟩, ⟨"id", operator, value⟩]

def cursorFields {Row : Type} (cursorField : String) (fieldText idText : Row → String) (row : Row) :
    CursorFields :=
  if cursorField = "id" then [("id", idText row)]
  else [(cursorField, fieldText row), ("id", idText row)]

def buildCursorResponse {Row : Type} (cursors : Cursors Cursor) (docs : List Row) (limit : Nat)
    (cursorField : String) (fieldText idText : Row → String) (totalCount : Option Nat) :
    Page Row Cursor :=
  let data := if limit < docs.length then docs.take limit else docs
  { data := data
    hasMore := limit < docs.length
    nextCursor :=
      if limit < docs.length then
        data.getLast?.map fun last =>
          cursors.encodeCursor (cursorFields cursorField fieldText idText last)
      else none
    totalCount := totalCount }

/-- The query parameters: `limit` where it is given and a number. -/
structure PaginationQuery (Cursor : Type) where
  limit : Option JsNumber
  after : Option Cursor
  include_count : Bool

def parseLimit : Option JsNumber → Nat
  | none => 25
  | some .negInfinity => 1
  | some (.finite value) => (max 1 (min 100 value.floor)).toNat
  | some .infinity => 100

theorem parseLimit_bounds (limit : Option JsNumber) :
    1 ≤ parseLimit limit ∧ parseLimit limit ≤ 100 := by
  unfold parseLimit
  split
  · omega
  · omega
  · omega
  · omega

inductive Backend
  | mongoose
  | prisma

/-- How ids and dates are written into cursors and read from them again: the text of a `Date`
has no milliseconds. -/
structure Formats (Id : Type) where
  idText : Id → String
  castId : String → Id
  cast_text : ∀ id, castId (idText id) = id
  dateText : Nat → String
  parseDate : String → Option Nat
  parse_text : ∀ time, parseDate (dateText time) = some (time / 1000 * 1000)

variable {Id : Type} [LinearOrder Id]

structure UserRow (Id : Type) where
  id : Id
  created_at : Nat
  account_enabled : Bool
  roles : List String
  auth_provider : Option String
  email : Option String
  username : Option String
  name : Option String

structure UserTable (Id : Type) where
  rows : List (UserRow Id)
  distinct : (rows.map UserRow.id).Nodup

structure UsersQuery (Cursor : Type) extends PaginationQuery Cursor where
  account_enabled : Option String
  role : Option String
  auth_provider : Option String
  q : Option String

structure UsersFilter where
  account_enabled : Option Bool
  role : Option String
  auth_provider : Option String
  searchTerm : Option String

def shortText (text : String) : Bool := 0 < Text.utf16Length text && Text.utf16Length text ≤ 50

def usersFilter (query : UsersQuery Cursor) : UsersFilter where
  account_enabled := query.account_enabled.map fun value => value = "true"
  role := query.role.filter shortText
  auth_provider := query.auth_provider.filter shortText
  searchTerm := ((query.q.map Schemas.trim).filter fun term => term ≠ "").map fun term =>
    String.ofList (term.toList.take 200)

def UsersFilter.ofColumns (filter : UsersFilter) (row : UserRow Id) : Bool :=
  filter.account_enabled.all (row.account_enabled == ·) &&
    filter.auth_provider.all (row.auth_provider == some ·)

/-- The users that a filter is for; how the term is searched for is left open. -/
def UsersFilter.matching (filter : UsersFilter) (searches : String → UserRow Id → Bool)
    (row : UserRow Id) : Bool :=
  filter.ofColumns row && filter.role.all (row.roles.contains ·) &&
    filter.searchTerm.all (searches · row)

def newestFirst (row : UserRow Id) : ℕᵒᵈ := OrderDual.toDual row.created_at

def inRange (formats : Formats Id) (id : Id) (range : CursorRange) : Bool :=
  match range.operator with
  | .gt => formats.castId range.value < id
  | .lt => id < formats.castId range.value

/-- What `where` keeps; Prisma refuses a `where` with fields that the model does not have. A user
of MongoDB has no `id`, `role` or `searchTerm`, so no user meets a condition on one of them. -/
def userWhere (formats : Formats Id) (backend : Backend) (filter : UsersFilter)
    (ranges : List CursorRange) : Option (UserRow Id → Bool) :=
  match backend with
  | .prisma =>
    if filter.role.isSome || filter.searchTerm.isSome then none
    else some fun row => filter.ofColumns row && ranges.all (inRange formats row.id)
  | .mongoose => some fun row =>
    filter.ofColumns row && filter.role.isNone && filter.searchTerm.isNone && ranges.isEmpty

/-- `findWithPagination` sorts by `created_at` unless it is told otherwise. -/
def listUsers (cursors : Cursors Cursor) (formats : Formats Id) (backend : Backend)
    (table : UserTable Id) (query : UsersQuery Cursor) :
    Except ListFailure (Page (UserRow Id) Cursor) := do
  let limit := parseLimit query.limit
  let ranges ← buildCursorQuery cursors query.after "id" .gt
  match userWhere formats backend (usersFilter query) ranges with
  | none => .error .thrown
  | some isKept =>
    let found := table.rows.filter isKept
    .ok (buildCursorResponse cursors ((ranked newestFirst found).take (limit + 1)) limit "id"
      (fun _ => "") (fun row => formats.idText row.id)
      (if query.include_count then some found.length else none))

inductive TenantStatus
  | active
  | suspended
  | archived
  deriving DecidableEq

def parseStatus : Option String → Option TenantStatus
  | some "active" => some .active
  | some "suspended" => some .suspended
  | some "archived" => some .archived
  | _ => none

structure TenantRow (Id : Type) where
  id : Id
  slug : String
  status : TenantStatus

structure TenantTable (Id : Type) where
  rows : List (TenantRow Id)
  distinct : (rows.map TenantRow.slug).Nodup

/-- The root collation on the letters that a slug may have: underscore, hyphen, digits and then
letters. -/
def weight (letter : Char) : Nat :=
  if letter = '_' then 0
  else if letter = '-' then 1
  else if '0'.toNat ≤ letter.toNat ∧ letter.toNat ≤ '9'.toNat then
    2 + (letter.toNat - '0'.toNat)
  else if 'a'.toNat ≤ letter.toNat ∧ letter.toNat ≤ 'z'.toNat then
    12 + (letter.toNat - 'a'.toNat)
  else 100 + letter.toNat

def collationKey (text : String) : List Nat := text.toList.map weight

def localeCompare (first second : String) : Ordering :=
  if collationKey first < collationKey second then .lt
  else if collationKey second < collationKey first then .gt
  else .eq

structure TenantsQuery (Cursor : Type) extends PaginationQuery Cursor where
  status : Option String

def ofStatus (status : Option TenantStatus) (row : TenantRow Id) : Bool :=
  status.all (row.status == ·)

def listTenants (cursors : Cursors Cursor) (formats : Formats Id) (table : TenantTable Id)
    (query : TenantsQuery Cursor) : Except ListFailure (Page (TenantRow Id) Cursor) := do
  let limit := parseLimit query.limit
  let found := table.rows.filter (ofStatus (parseStatus query.status))
  let tenants := ranked (fun tenant => collationKey tenant.slug) found
  let ranges ← buildCursorQuery cursors query.after "slug" .gt
  let rest := tenants.filter fun tenant =>
    (ranges.filter (·.field = "slug")).all fun range => localeCompare tenant.slug range.value = .gt
  .ok (buildCursorResponse cursors (rest.take (limit + 1)) limit "slug" (·.slug)
    (fun tenant => formats.idText tenant.id)
    (if query.include_count then some tenants.length else none))

structure ActivityRow (Id : Type) where
  id : Id
  timestamp : Nat
  actorUserId : Option String

structure ActivityTable (Id : Type) where
  rows : List (ActivityRow Id)
  distinct : (rows.map ActivityRow.id).Nodup

def latestFirst (row : ActivityRow Id) : (ℕ ×ₗ Id)ᵒᵈ :=
  OrderDual.toDual (toLex (row.timestamp, row.id))

structure ActivityCursor (Id : Type) where
  timestamp : Nat
  id : Id

def ActivityCursor.isBefore (cursor : ActivityCursor Id) (row : ActivityRow Id) : Bool :=
  row.timestamp < cursor.timestamp || (row.timestamp == cursor.timestamp && row.id < cursor.id)

def activityCursor (formats : Formats Id) (path : String) :
    List CursorRange → Except ListFailure (Option (ActivityCursor Id))
  | [⟨_, _, timestampValue⟩, ⟨_, _, id⟩] =>
    match formats.parseDate timestampValue with
    | some timestamp => .ok (some ⟨timestamp, formats.castId id⟩)
    | none => .error (.problem ⟨"urn:parako:error:validation", "Validation Error", 422,
        "Invalid activity cursor timestamp", some path⟩ "Cursor timestamp must be a valid date")
  | _ => .ok none

/-- Both repositories sort by time and then by id, newest first, and put the cursor into the
condition that they count with. -/
def listActivities (cursors : Cursors Cursor) (formats : Formats Id) (users : List String)
    (table : ActivityTable Id) (userId path : String) (query : PaginationQuery Cursor) :
    Except ListFailure (Page (ActivityRow Id) Cursor) := do
  if userId ∉ users then
    throw (.notFound ("User '" ++ userId ++ "' not found"))
  let limit := parseLimit query.limit
  let ranges ← buildCursorQuery cursors query.after "timestamp" .lt
  let cursor ← activityCursor formats path ranges
  let found := table.rows.filter fun row =>
    row.actorUserId == some userId && cursor.all (·.isBefore row)
  .ok (buildCursorResponse cursors ((ranked latestFirst found).take (limit + 1)) limit "timestamp"
    (fun row => formats.dateText row.timestamp) (fun row => formats.idText row.id)
    (if query.include_count then some found.length else none))

end ParakoId.ManagementApi
