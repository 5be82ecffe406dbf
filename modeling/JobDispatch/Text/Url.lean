import JobDispatch.Text.FormUrl
import JobDispatch.Text.IpAddress
import JobDispatch.Text.Idna

namespace JobDispatch

-- Why a text is not a URL.
inductive UrlError where
  | emptyHost
  | invalidDomainName
  | invalidPort
  | invalidIpv4
  | invalidIpv6
  | invalidDomainCharacter
  | relativeWithoutBase
  deriving DecidableEq, Repr

def UrlError.message : UrlError → String
  | .emptyHost => "empty host"
  | .invalidDomainName => "invalid international domain name"
  | .invalidPort => "invalid port number"
  | .invalidIpv4 => "invalid IPv4 address"
  | .invalidIpv6 => "invalid IPv6 address"
  | .invalidDomainCharacter => "invalid domain character"
  | .relativeWithoutBase => "relative URL without a base"

structure Url where
  scheme : String
  -- Whether `//` and an authority follow the scheme.
  hasAuthority : Bool := false
  username : String := ""
  password : Option String := none
  -- The host as serialized; `none` without one.
  host : Option String := none
  port : Option Nat := none
  -- The path segments; a URL without a hierarchical path has `opaquePath` instead.
  path : List String := []
  opaquePath : Option String := none
  query : Option String := none
  fragment : Option String := none
  deriving DecidableEq, Repr

namespace Url

-- Controls and every non-ASCII character, always encoded.
def isControl (c : Char) : Bool := c.toNat < 32 || c.toNat ≥ 127

def fragmentSet (c : Char) : Bool := isControl c || [' ', '"', '<', '>', '`'].contains c

def querySet (c : Char) : Bool := isControl c || [' ', '"', '#', '<', '>'].contains c

-- Special schemes encode the apostrophe in queries as well.
def specialQuerySet (c : Char) : Bool := querySet c || c.toNat = 39

def pathSet (c : Char) : Bool := fragmentSet c || ['#', '?', '{', '}'].contains c

def userinfoSet (c : Char) : Bool :=
  pathSet c || ['/', ':', ';', '=', '@', '[', '\\', ']', '^', '|'].contains c

private def hexUpper (n : Nat) : Char := if n < 10 then Char.ofNat (48 + n) else Char.ofNat (55 + n)

-- Percent-encodes the characters in `set`, byte by byte of their UTF-8 form.
def encode (set : Char → Bool) (cs : List Char) : String :=
  String.join (cs.map fun c =>
    if set c then
      String.join ((String.singleton c).toUTF8.toList.map fun b =>
        String.ofList ['%', hexUpper (b.toNat / 16), hexUpper (b.toNat % 16)])
    else String.singleton c)

def specialSchemes : List String := ["http", "https", "ws", "wss", "ftp", "file"]

-- The port a special scheme leaves out.
def defaultPort : String → Option Nat
  | "http" | "ws" => some 80
  | "https" | "wss" => some 443
  | "ftp" => some 21
  | _ => none

def isSchemeChar (c : Char) : Bool := c.isAlphanum || c = '+' || c = '-' || c = '.'

-- Whether a segment is `.`, written plainly or percent-encoded.
def isSingleDot (s : String) : Bool := s == "." || s.toLower == "%2e"

-- Whether a segment is `..`, written plainly or percent-encoded.
def isDoubleDot (s : String) : Bool :=
  let l := s.toLower
  l == ".." || l == ".%2e" || l == "%2e." || l == "%2e%2e"

-- Adds one path segment, ended by a slash (`slash`) or by the end of the path: `..` drops
-- the last segment and `.` adds nothing, each leaving an empty segment at the end.
def pushSegment (path : List String) (segment : String) (slash : Bool) : List String :=
  if isDoubleDot segment then path.dropLast ++ (if slash then [] else [""])
  else if isSingleDot segment then path ++ (if slash then [] else [""])
  else path ++ [segment]

-- Whether a character separates path segments.
def isPathSeparator (special : Bool) (c : Char) : Bool := c = '/' || (special && c = '\\')

-- Whether a character ends a path segment: a separator, or the start of the query or
-- fragment.
def endsSegment (special : Bool) (c : Char) : Bool :=
  isPathSeparator special c || c = '?' || c = '#'

theorem length_dropWhile_le (p : Char → Bool) : ∀ l : List Char, (l.dropWhile p).length ≤ l.length
  | [] => by simp
  | c :: l => by
    have ih := length_dropWhile_le p l
    by_cases h : p c = true
    · simp only [List.dropWhile_cons, h, ite_true, List.length_cons]
      omega
    · simp only [List.dropWhile_cons, h, List.length_cons]
      simp

set_option linter.unusedVariables false in
-- The segments of a path up to its query or fragment, and the text from there.
def readPath (special : Bool) (path : List String) (cs : List Char) : List String × List Char :=
  let segment := encode pathSet (cs.takeWhile fun c => !endsSegment special c)
  match h : cs.dropWhile (fun c => !endsSegment special c) with
  | c :: rest =>
    if isPathSeparator special c then readPath special (pushSegment path segment true) rest
    else (pushSegment path segment false, c :: rest)
  | [] => (pushSegment path segment false, [])
termination_by cs.length
decreasing_by
  have hl := length_dropWhile_le (fun c => !endsSegment special c) cs
  rw [h] at hl
  simp only [List.length_cons] at hl
  omega

-- A number of an IPv4 host: hex after `0x`, octal after a leading `0`, else decimal; an
-- empty number after its prefix is zero.
def ipv4Number? (p : String) : Option Nat :=
  match p.toList with
  | [] => none
  | '0' :: x :: rest =>
    if x = 'x' ∨ x = 'X' then (if rest.isEmpty then some 0 else Ipv4.digitsIn 16 rest)
    else Ipv4.digitsIn 8 (x :: rest)
  | cs => Ipv4.digitsIn 10 cs

-- Whether a host's last label (before a final dot) is a number, making it an IPv4 host.
def endsInNumber (host : String) : Bool :=
  let labels := host.splitOn "."
  let labels := if labels.getLast? == some "" && labels.length > 1 then labels.dropLast else labels
  match labels.getLast? with
  | some last => (!last.isEmpty && last.toList.all Char.isDigit) || (ipv4Number? last).isSome
  | none => false

-- An IPv4 host in dotted form.
def ipv4Host (host : String) : Except UrlError String := do
  let parts := host.splitOn "."
  let parts := if parts.getLast? == some "" && parts.length > 1 then parts.dropLast else parts
  if parts.length > 4 then throw .invalidIpv4
  let some values := parts.mapM ipv4Number? | throw .invalidIpv4
  let front := values.dropLast
  let last := values.getLast?.getD 0
  if last ≥ Nat.pow 2 (8 * (4 - front.length)) || front.any (· > 255) then throw .invalidIpv4
  let v := front.foldl (fun acc x => acc * 256 + x) 0 * Nat.pow 2 (8 * (4 - front.length)) + last
  return ".".intercalate ([3, 2, 1, 0].map fun k => toString (v / Nat.pow 256 k % 256))

-- The host of a special URL: an IPv6 address in brackets, an IPv4 address, or a domain,
-- percent-decoded and brought to its ASCII form (`Idna.toAscii`).
def specialHost (text : String) : Except UrlError String := do
  if text.startsWith "[" then
    if !text.endsWith "]" then throw .invalidIpv6
    let some groups := Ipv6.parse? ((text.drop 1).dropEnd 1).toString | throw .invalidIpv6
    return "[" ++ Ipv6.toText groups ++ "]"
  let some decoded := Bytes.utf8? (FormUrl.percentDecode text) | throw .invalidDomainName
  let some domain := Idna.toAscii decoded | throw .invalidDomainName
  if domain.isEmpty then throw .emptyHost
  if endsInNumber domain then ipv4Host domain else return domain

-- The host of another URL: an IPv6 address in brackets, or any text without the characters
-- that end or delimit a host, with controls percent-encoded.
def opaqueHost (text : String) : Except UrlError String := do
  if text.startsWith "[" then
    if !text.endsWith "]" then throw .invalidIpv6
    let some groups := Ipv6.parse? ((text.drop 1).dropEnd 1).toString | throw .invalidIpv6
    return "[" ++ Ipv6.toText groups ++ "]"
  if text.toList.any fun c => c.toNat = 0 ||
      ['\t', '\n', '\r', ' ', '#', '/', ':', '<', '>', '?', '@', '[', '\\', ']', '^', '|'].contains c then
    throw .invalidDomainCharacter
  return encode isControl text.toList

-- A port: decimal digits up to 65535, up to the first `/`, `\`, `?` or `#`. Answers the port
-- (none when empty) and the text after it.
def readPort (cs : List Char) : Except UrlError (Option Nat × List Char) := do
  let digits := cs.takeWhile Char.isDigit
  let rest := cs.dropWhile Char.isDigit
  let value : Nat := digits.foldl (fun n c => n * 10 + (c.toNat - 48)) 0
  if value > 65535 then throw .invalidPort
  match rest with
  | c :: _ => if !(['/', '\\', '?', '#'].contains c) then throw .invalidPort
  | [] => pure ()
  return (if digits.isEmpty then none else some value, rest)

-- The position of the last `@` in a text.
def lastAt (cs : List Char) : Option Nat :=
  (cs.zipIdx.filter (·.1 = '@')).getLast?.map (·.2)

-- The query and fragment at the front of the text.
def readQueryFragment (special : Bool) (u : Url) (cs : List Char) : Url :=
  let (query, cs) := match cs with
    | '?' :: r =>
      (some (encode (if special then specialQuerySet else querySet) (r.takeWhile (· ≠ '#'))),
        r.dropWhile (· ≠ '#'))
    | r => (none, r)
  let fragment := match cs with
    | '#' :: r => some (encode fragmentSet r)
    | _ => none
  { u with query, fragment }

-- The authority and everything after it.
def readAuthority (scheme : String) (special : Bool) (cs : List Char) : Except UrlError Url := do
  let ends (c : Char) : Bool := c = '/' || c = '?' || c = '#' || (special && c = '\\')
  let auth := cs.takeWhile (! ends ·)
  let after := cs.dropWhile (! ends ·)
  -- the credentials run to the last `@` of the authority
  let (userinfo, hostPort) := match lastAt auth with
    | some i => (some (auth.take i), auth.drop (i + 1))
    | none => (none, auth)
  if userinfo == some [] && hostPort.isEmpty && !after.isEmpty then throw .emptyHost
  let (username, password) := match userinfo with
    | some ui =>
      (encode userinfoSet (ui.takeWhile (· ≠ ':')),
        match ui.dropWhile (· ≠ ':') with
        | _ :: p => if p.isEmpty then none else some (encode userinfoSet p)
        | [] => none)
    | none => ("", none)
  let credentials := !username.isEmpty || password.isSome
  -- the host runs to a colon outside brackets
  let hostText := String.ofList ((hostPort.foldl (fun (acc : List Char × Bool × Bool) c =>
      let (taken, inside, stopped) := acc
      if stopped then acc
      else if c = ':' && !inside then (taken, inside, true)
      else (taken ++ [c], if c = '[' then true else if c = ']' then false else inside, false))
      ([], false, false)).1)
  let portPart := hostPort.drop hostText.length
  let host ← if special then
      (if hostText.isEmpty then throw .emptyHost else specialHost hostText)
    else opaqueHost hostText
  if host.isEmpty && !portPart.isEmpty then throw .emptyHost
  let (port, rest) ← match portPart with
    | ':' :: p => readPort (p ++ after)
    | _ => pure (none, after)
  let port := if port == defaultPort scheme then none else port
  if host.isEmpty && credentials then throw .emptyHost
  let base : Url := {
    scheme, hasAuthority := true, username, password
    host := if host.isEmpty then none else some host, port }
  match rest with
  | c :: r =>
    if isPathSeparator special c then
      let (path, tail) := readPath special [] r
      return readQueryFragment special { base with path } tail
    else if special || (c ≠ '?' && c ≠ '#') then
      let (path, tail) := readPath special [] rest
      return readQueryFragment special { base with path } tail
    else return readQueryFragment special base rest
  | [] =>
    if special then return { base with path := [""] } else return base

-- Parses an absolute URL.
def parse (text : String) : Except UrlError Url := do
  let blank (c : Char) : Bool := c.toNat ≤ 32
  let cs := ((text.toList.dropWhile blank).reverse.dropWhile blank).reverse
  let cs := cs.filter fun c => c ≠ '\t' && c ≠ '\n' && c ≠ '\r'
  match cs with
  | c :: rest =>
    if !c.isAlpha then throw .relativeWithoutBase
    match rest.dropWhile isSchemeChar with
    | ':' :: r =>
      let scheme := String.ofList ((c :: rest.takeWhile isSchemeChar).map Char.toLower)
      if specialSchemes.contains scheme then
        readAuthority scheme true (r.dropWhile fun c => c = '/' || c = '\\')
      else
        match r with
        | '/' :: '/' :: r' => readAuthority scheme false r'
        | '/' :: r' =>
          let (path, tail) := readPath false [] r'
          return readQueryFragment false { scheme, path } tail
        | r' =>
          let body := r'.takeWhile fun c => c ≠ '?' && c ≠ '#'
          return readQueryFragment false { scheme, opaquePath := some (encode isControl body) }
            (r'.dropWhile fun c => c ≠ '?' && c ≠ '#')
    | _ => throw .relativeWithoutBase
  | [] => throw .relativeWithoutBase

-- The normal form of a URL.
def serialize (u : Url) : String :=
  let userinfo :=
    if u.username.isEmpty && u.password.isNone then ""
    else u.username ++ (u.password.map (":" ++ ·)).getD "" ++ "@"
  let authority :=
    if u.hasAuthority then
      "//" ++ userinfo ++ u.host.getD "" ++ (u.port.map fun p => ":" ++ toString p).getD ""
    else ""
  let path := match u.opaquePath with
    | some p => p
    | none => String.join (u.path.map ("/" ++ ·))
  u.scheme ++ ":" ++ authority ++ path ++ (u.query.map ("?" ++ ·)).getD "" ++
    (u.fragment.map ("#" ++ ·)).getD ""

-- Appends form-encoded pairs to the query, after `&` when it is not empty; a query left
-- empty is dropped.
def appendPairs (u : Url) (pairs : List (String × String)) : Url :=
  let query := pairs.foldl (fun q (k, v) =>
    (if q.isEmpty then "" else q ++ "&") ++ FormUrl.encodeComponent k ++ "=" ++ FormUrl.encodeComponent v)
    (u.query.getD "")
  { u with query := if query.isEmpty then none else some query }

-- The pairs of the query, form-decoded.
def queryPairs (u : Url) : List (String × String) := FormUrl.parse (u.query.getD "")

end Url

end JobDispatch
