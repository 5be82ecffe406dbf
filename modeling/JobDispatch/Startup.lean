import JobDispatch.Config
import JobDispatch.Store.Connection

namespace JobDispatch

-- A failure with what was being done and its causes, outermost first.
structure ErrorReport where
  context : String
  causes : List String

-- The report as the service prints it before exiting: one cause is printed plainly, several
-- are numbered from the outermost.
def ErrorReport.render (r : ErrorReport) : String :=
  let causes := match r.causes with
    | [c] => "    " ++ c ++ "\n"
    | cs => String.join (cs.zipIdx.map fun (c, k) => "    " ++ toString k ++ ": " ++ c ++ "\n")
  "Error: " ++ r.context ++ (if r.causes.isEmpty then "\n" else "\n\nCaused by:\n" ++ causes)

-- A port as a socket address writes it: decimal digits, leading zeros allowed, at most 65535.
def socketPort? (p : List Char) : Option Nat :=
  if p.isEmpty || !p.all Char.isDigit then none
  else
    let n := p.foldl (fun n c => n * 10 + (c.toNat - 48)) 0
    if n < 65536 then some n else none

-- An address to listen on: an IPv4 address as a 32-bit value, or the eight groups of an IPv6
-- address with its scope (the interface index, `0` for none).
inductive ListenAddress where
  | v4 (value : Nat)
  | v6 (groups : List Nat) (scope : Nat)

-- A socket address and its port: `a.b.c.d:port`, or `[v6]:port` with an optional numeric
-- scope after `%` inside the brackets.
def socketAddress? (addr : String) : Option (ListenAddress × Nat) :=
  match addr.toList with
  | '[' :: rest =>
    let inside := rest.takeWhile (· ≠ ']')
    match rest.dropWhile (· ≠ ']') with
    | ']' :: ':' :: p =>
      let scope : Option Nat := match inside.dropWhile (· ≠ '%') with
        | [] => some 0
        | _ :: ds =>
          let n := ds.foldl (fun n c => n * 10 + (c.toNat - 48)) 0
          if !ds.isEmpty && ds.all Char.isDigit && n < Nat.pow 2 32 then some n else none
      match scope, Ipv6.parse? (String.ofList (inside.takeWhile (· ≠ '%'))), socketPort? p with
      | some sc, some groups, some port => some (.v6 groups sc, port)
      | _, _, _ => none
    | _ => none
  | cs =>
    let host := cs.reverse.dropWhile (· ≠ ':')
    match host with
    | _ :: h =>
      match Ipv4.parse? (String.ofList h.reverse), socketPort? (cs.drop (h.length + 1)) with
      | some [a, b, c, d], some port => some (.v4 (((a * 256 + b) * 256 + c) * 256 + d), port)
      | _, _ => none
    | [] => none

-- A port as a number parses on its own: an optional `+`, then decimal, at most 65535.
def portNumber? (s : String) : Option Nat :=
  match Numeral.readUnsigned 65535 s with
  | .ok n => some n
  | .error _ => none

-- The last `:` of a text splits it into a host and a port.
def splitHostPort (addr : String) : Option (String × String) :=
  match addr.splitOn ":" with
  | [] | [_] => none
  | parts => some (":".intercalate parts.dropLast, parts.getLast?.getD "")

-- The address a host resolves to without asking a name server: `localhost` in any case, a
-- numeric IPv4 host, or an IPv6 address.
def resolveLocally (host : String) : Option ListenAddress :=
  if host.toLower == "localhost" then some (.v4 0x7F000001)
  else match Ipv4.parseNumeric? host with
    | some v => some (.v4 v)
    | none => (Ipv6.parse? host).map (.v6 · 0)

-- Why binding `a` on `port` fails, or `none` when it works. IPv4 addresses need not belong to
-- this machine, but an IPv6 address must be its loopback, the unspecified address or an IPv4
-- address mapped into IPv6. A multicast address takes no stream socket, a link-local one needs an
-- interface (the loopback, index 1, is the only one), and a port below 1024 needs privileges the
-- service does not have.
def bindError? (a : ListenAddress) (port : Nat) (inUse : Bool) : Option String :=
  let privileged := 0 < port ∧ port < 1024
  let done := if inUse then some "Address already in use (os error 98)" else none
  match a with
  | .v4 _ => if privileged then some "Permission denied (os error 13)" else done
  | .v6 groups scope =>
    let first := groups.headD 0
    if first ≥ 0xFF00 then some "Invalid argument (os error 22)"
    else if privileged then some "Permission denied (os error 13)"
    else if groups.take 6 == [0, 0, 0, 0, 0, 0xFFFF] || groups.all (· = 0) then done
    else if first / 64 = 0xFE80 / 64 && scope = 0 then some "Invalid argument (os error 22)"
    else if first / 64 = 0xFE80 / 64 && scope ≠ 1 then some "No such device (os error 19)"
    else if groups != [0, 0, 0, 0, 0, 0, 0, 1] then some "Cannot assign requested address (os error 99)"
    else done

-- Why listening on `addr` fails, or `none` when it works. The address is read as a socket
-- address first; otherwise its last colon splits it into a host, which is resolved, and a port.
-- An address another process listens on (`taken`) is in use.
def listenError? (addr : String) (taken : String → Bool) : Option String :=
  match socketAddress? addr with
  | some (a, port) => bindError? a port (taken addr)
  | none =>
    match splitHostPort addr with
    | none => some "invalid socket address"
    | some (host, portText) =>
      match portNumber? portText with
      | none => some "invalid port value"
      | some port =>
        match resolveLocally host with
        | some a => bindError? a port (taken addr)
        | none => some (lookupFailure host)

-- Starts the service from its environment, answering the configuration it serves with or
-- the report it exits with. `taken` tells whether another process listens on an address.
def startService (env : String → Option String) (taken : String → Bool) : Except ErrorReport Config := do
  let config ← (Config.fromEnv env).mapError fun e => ⟨"Failed to load configuration", [e]⟩
  if let some e := config.check then throw ⟨"Invalid configuration", [e]⟩
  if let some url := config.databaseUrl then
    throw ⟨"Failed to create database pool", (unreachableDatabaseAt env url).chain⟩
  if let some e := listenError? config.bindAddr taken then
    throw ⟨"Failed to bind to " ++ config.bindAddr, [e]⟩
  return config

end JobDispatch
