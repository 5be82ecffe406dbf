import JobDispatch.Blob.Tree

namespace JobDispatch

def traceKey (projectId : Int) (kindName : String) (jobId : Int) : String :=
  "logs/" ++ toString projectId ++ "/" ++ kindName ++ "/" ++ toString jobId ++ ".json"

def artifactKey (projectId : Int) (key : String) : String :=
  "artifacts/" ++ toString projectId ++ "/" ++ key

inductive BlobStore where
  | memory (blobs : List (String × List UInt8))
  | files (tree : Tree)
  deriving Repr

namespace BlobStore

def putBlob (k : String) (v : List UInt8) : List (String × List UInt8) → List (String × List UInt8)
  | [] => [(k, v)]
  | (k', v') :: rest => if k = k' then (k, v) :: rest else (k', v') :: putBlob k v rest

-- Stores a blob, answering the store after the attempt and whether it failed.
def upload (s : BlobStore) (key : String) (data : List UInt8) : BlobStore × Except StorageError Unit :=
  match s with
  | .memory blobs => (.memory (putBlob key data blobs), .ok ())
  | .files t => let (t', r) := t.upload key data; (.files t', r)

def get (s : BlobStore) (key : String) : Except StorageError (List UInt8) :=
  match s with
  | .memory blobs =>
    match blobs.lookup key with
    | some d => .ok d
    | none => .error (.notFound key)
  | .files t => t.get key

def openBlob (s : BlobStore) (key : String) : Except StorageError BlobReader :=
  match s with
  | .memory _ => (s.get key).map .bytes
  | .files t => t.openBlob key

-- Whether the memory store holds the key; the file store answers `false`.
def contains (s : BlobStore) (key : String) : Bool :=
  match s with
  | .memory blobs => (blobs.lookup key).isSome
  | .files _ => false

end BlobStore

end JobDispatch
