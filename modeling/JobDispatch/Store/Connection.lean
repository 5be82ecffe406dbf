import JobDispatch.Text.Url
import JobDispatch.Text.Numeral
import JobDispatch.Json.Decode

namespace JobDispatch

-- Why a connection to the database failed.
inductive DatabaseError where
  -- The connection options are wrong; `causes` are the errors below, outermost first.
  | configuration (causes : List String)
  | io (detail : String)
  | poolTimedOut

namespace DatabaseError

-- A configuration error with one plain cause.
def config (detail : String) : DatabaseError := .configuration [detail]

def message : DatabaseError → String
  | .configuration causes => "error with configuration: " ++ causes.headD ""
  | .io d => "error communicating with database: " ++ d
  | .poolTimedOut => "pool timed out while waiting for an open connection"

-- The error and the errors below it.
def chain (e : DatabaseError) : List String :=
  match e with
  | .configuration causes => e.message :: causes
  | .io d => [e.message, d]
  | .poolTimedOut => [e.message]

end DatabaseError

-- Why a host name cannot be looked up: the empty name is no name, any other finds no server
-- to ask.
def lookupFailure (host : String) : String :=
  "failed to lookup address information: " ++
    if host.isEmpty then "Name or service not known" else "Temporary failure in name resolution"

-- The ways of encrypting the connection a URL may ask for, in lower case.
def sslModes : List String := ["disable", "allow", "prefer", "require", "verify-ca", "verify-full"]

-- Where a database connection goes.
structure ConnectOptions where
  host : String := "localhost"
  -- A directory holding the server's socket; it wins over the host.
  socket : Option String := none
  port : Nat := 5432
  deriving Repr

namespace ConnectOptions

-- Applies one query parameter of the URL.
def withParam (o : ConnectOptions) : String × String → Except DatabaseError ConnectOptions
  | (key, value) =>
    if key = "sslmode" ∨ key = "ssl-mode" then
      if sslModes.contains value.toLower then .ok o
      else
        let inner := "unknown value " ++ debugQuote value ++ " for " ++ "`ssl_mode`"
        .error (.configuration ["error with configuration: " ++ inner, inner])
    else if key = "statement-cache-capacity" then
      match Numeral.readUnsigned (Nat.pow 2 64 - 1) value with
      | .ok _ => .ok o
      | .error e => .error (.config e)
    else if key = "port" then
      match Numeral.readUnsigned 65535 value with
      | .ok p => .ok { o with port := p }
      | .error e => .error (.config e)
    else if key = "hostaddr" then
      if (Ipv4.parse? value).isSome || Ipv6.isValid value then .ok { o with host := value }
      else .error (.config "invalid IP address syntax")
    else if key = "host" then
      if value.startsWith "/" then .ok { o with socket := some value } else .ok { o with host := value }
    else .ok o

-- A part of the URL percent-decoded, which must be UTF-8.
def decoded (part : String) : Except DatabaseError String :=
  let bytes := FormUrl.percentDecode part
  match Bytes.utf8Problem? bytes with
  | some p => .error (.config p)
  | none => .ok (Bytes.utf8Lossy bytes)

-- The path of a URL as text, without its leading slashes: the database name.
def databaseText (u : Url) : String :=
  let path := match u.opaquePath with
    | some p => p
    | none => String.join (u.path.map ("/" ++ ·))
  String.ofList (path.toList.dropWhile (· = '/'))

-- The options the environment gives before any URL is read.
def ofEnv (env : String → Option String) : ConnectOptions :=
  { host := ((env "PGHOSTADDR").orElse fun _ => env "PGHOST").getD "localhost"
    port := match (env "PGPORT").map (Numeral.readUnsigned 65535) with
      | some (.ok p) => p
      | _ => 5432 }

-- The options a database URL describes on top of those of the environment, or why it
-- describes none.
def ofUrl (env : String → Option String) (text : String) : Except DatabaseError ConnectOptions := do
  let u ← match Url.parse text with
    | .ok u => pure u
    | .error e => throw (DatabaseError.config e.message)
  let mut o := ofEnv env
  if let some h := u.host then
    if (FormUrl.percentDecode h).head? == some 47 then o := { o with socket := some (← decoded h) }
    else o := { o with host := h }
  if let some p := u.port then o := { o with port := p }
  let _ ← decoded u.username
  if let some p := u.password then
    let _ ← decoded p
  let _ ← decoded (databaseText u)
  u.queryPairs.foldlM withParam o

-- Whether an IPv4 address, as a 32-bit value, is this machine: the loopback range or the
-- unspecified address.
def isLocalV4 (v : Nat) : Bool := v / Nat.pow 2 24 = 127 || v = 0

-- Whether an IPv6 address, as its eight groups, is this machine: the loopback or unspecified
-- address, or an IPv4 address of this machine mapped into IPv6.
def isLocalV6 (groups : List Nat) : Bool :=
  match groups with
  | [0, 0, 0, 0, 0, 0, 0, v] => v ≤ 1
  | [0, 0, 0, 0, 0, 0xFFFF, hi, lo] => isLocalV4 (hi * 65536 + lo)
  | _ => false

-- How connecting fails when no server can be reached: a socket directory has no socket; the
-- host, without its brackets, is looked up (`localhost` and numeric addresses need no lookup)
-- and this machine refuses the connection until the pool gives up, while other addresses have no
-- route.
def unreachable (o : ConnectOptions) : DatabaseError :=
  let noRoute := DatabaseError.io "Network is unreachable (os error 101)"
  if o.socket.isSome || o.host.startsWith "/" then .io "No such file or directory (os error 2)"
  else
    let bracket (c : Char) : Bool := c = '[' || c = ']'
    let host := String.ofList ((o.host.toList.dropWhile bracket).reverse.dropWhile bracket).reverse
    if host.toLower == "localhost" then .poolTimedOut
    else match Ipv4.parseNumeric? host with
      | some v => if isLocalV4 v then .poolTimedOut else noRoute
      | none =>
        match Ipv6.parse? host with
        | some groups => if isLocalV6 groups then .poolTimedOut else noRoute
        | none => .io (lookupFailure host)

end ConnectOptions

-- How connecting to the database at `url` fails, in the environment `env`.
def unreachableDatabaseAt (env : String → Option String) (url : String) : DatabaseError :=
  match ConnectOptions.ofUrl env url with
  | .ok o => o.unreachable
  | .error e => e

end JobDispatch
