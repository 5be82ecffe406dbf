import JobDispatch.Json.Decode
import JobDispatch.Json.Shape

namespace JobDispatch

inductive Severity where
  | verbose
  | info
  | warn
  | error
  deriving DecidableEq, Repr, Inhabited

namespace Severity

def variants : List Severity := [.verbose, .info, .warn, .error]

def name : Severity → String
  | .verbose => "verbose"
  | .info => "info"
  | .warn => "warn"
  | .error => "error"

-- How a level is written: a unit variant named after it.
def shape : Shape := .variant (variants.map name)

def decode : Decoder Severity := fun j => do
  let n ← Decoder.variant (variants.map name) j
  match variants.find? (·.name == n) with
  | some s => pure s
  | none => throw (.unknownVariant n (variants.map name))

end Severity

-- One line of a job trace: its level, a time in milliseconds, a message and any details.
structure TraceEntry where
  level : Severity
  timestamp : Int
  message : String
  details : List Json
  deriving Inhabited

namespace TraceEntry

def toJson (e : TraceEntry) : Json :=
  .arr (.str e.level.name :: .int e.timestamp :: .str e.message :: e.details)

-- What an entry's decoder names in its errors.
def expected : String := "an array [level, timestamp, message, ...details]"

-- Reads the elements in order, so a bad level is reported before a short array.
def ofItems : List Json → Except DecodeError TraceEntry
  | [] => .error (.invalidLength 0 expected)
  | [l] => do
    let _ ← Severity.decode l
    throw (.invalidLength 1 expected)
  | [l, t] => do
    let _ ← Severity.decode l
    let _ ← Decoder.i64 t
    throw (.invalidLength 2 expected)
  | l :: t :: m :: details => do
    let level ← Severity.decode l
    let timestamp ← Decoder.i64 t
    let message ← Decoder.string m
    return ⟨level, timestamp, message, details⟩

-- How an entry is written: an array of level, stamp and message, then the details.
def shape : Shape := .sequence [Severity.shape, .signed, .string] .any

def decode : Decoder TraceEntry
  | .arr items => ofItems items
  | j => Decoder.mismatch expected j

-- Appends a chunk to a stored trace. An empty trace takes the chunk as it is; otherwise only
-- entries stamped after the last stored entry are kept, whatever the stored maximum.
def merge (previous chunk : List TraceEntry) : List TraceEntry :=
  match previous.getLast? with
  | none => chunk
  | some last => previous ++ chunk.filter (fun e => decide (e.timestamp > last.timestamp))

end TraceEntry

end JobDispatch
