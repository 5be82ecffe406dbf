import JobDispatch.Blob.Error

namespace JobDispatch

-- What a name in a directory holds: a file and its bytes, or a directory and its entries.
inductive Entry where
  | file (data : List UInt8)
  | dir (entries : List (String × Entry))
  deriving Repr, Inhabited

-- A directory tree, given by the entries of its root.
structure Tree where
  entries : List (String × Entry) := []
  deriving Repr, Inhabited

-- The length in bytes of the root directory's path, a fresh temporary directory.
def rootPathBytes : Nat := 15

-- How many bytes a path may take, its terminating NUL included.
def pathMax : Nat := 4096

-- Whether a path written `bytes` long below the root is too long to hand to the system: the
-- root's path, a slash and the path itself, with a terminating NUL, must fit in `pathMax`.
def pathTooLong (bytes : Nat) : Bool := rootPathBytes + 1 + bytes ≥ pathMax

-- A path below the root as written: the directories to pass through (`.` and empty parts
-- left out), its last part (possibly `.`), whether a slash follows that last part, and the length
-- of the text in bytes.
structure RawPath where
  dirs : List String
  last : String
  slash : Bool
  bytes : Nat
  deriving DecidableEq, Repr

-- The parts of a path text between its slashes, empty parts included.
def splitPath (s : String) : List String := (s.toList.splitOn '/').map String.ofList

namespace RawPath

def ofText (s : String) : RawPath :=
  let parts := splitPath s
  let kept := (parts.reverse.dropWhile (· = "")).reverse
  { dirs := kept.dropLast.filter fun x => x ≠ "" ∧ x ≠ "."
    last := kept.getLast?.getD ""
    slash := kept.length < parts.length
    bytes := s.utf8ByteSize }

def hasNul (p : RawPath) : Bool := (p.last :: p.dirs).any fun x => x.contains (Char.ofNat 0)

def names (p : RawPath) : List String := p.dirs ++ [p.last]

end RawPath

namespace Tree

-- The entry at a path of names below a directory with entries `es`; the empty path is that
-- directory itself.
def findIn : List String → List (String × Entry) → Option Entry
  | [], es => some (.dir es)
  | name :: rest, es =>
    match es.lookup name, rest with
    | some e, [] => some e
    | some (.dir sub), _ => findIn rest sub
    | _, _ => none

def node? (t : Tree) (p : List String) : Option Entry := findIn p t.entries

-- Puts an entry under a name, in place of the entry of that name if there is one.
def setEntry (name : String) (e : Entry) : List (String × Entry) → List (String × Entry)
  | [] => [(name, e)]
  | (n, x) :: rest => if n = name then (name, e) :: rest else (n, x) :: setEntry name e rest

-- Changes the entries of the directory at a path of names; a path that does not lead through
-- directories changes nothing.
def alterIn (f : List (String × Entry) → List (String × Entry)) :
    List String → List (String × Entry) → List (String × Entry)
  | [], es => f es
  | name :: rest, es =>
    match es.lookup name with
    | some (.dir sub) => setEntry name (.dir (alterIn f rest sub)) es
    | _ => es

def put (t : Tree) (dirs : List String) (name : String) (e : Entry) : Tree :=
  ⟨alterIn (setEntry name e) dirs t.entries⟩

def remove (t : Tree) (dirs : List String) (name : String) : Tree :=
  ⟨alterIn (fun es => es.filter (·.1 ≠ name)) dirs t.entries⟩

def nameTooLong (name : String) : Bool := name.utf8ByteSize > 255

-- Passes through directories below a directory with entries `es`: each name must fit,
-- exist and be a directory.
def walkIn : List String → List (String × Entry) → Except OsError Unit
  | [], _ => .ok ()
  | name :: rest, es =>
    if nameTooLong name then .error .nameTooLong
    else match es.lookup name with
      | none => .error .notFound
      | some (.file _) => .error .notADirectory
      | some (.dir sub) => walkIn rest sub

def walkDirs (t : Tree) (dirs : List String) : Except OsError Unit := walkIn dirs t.entries

def isDir (t : Tree) (p : List String) (bytes : Nat) : Bool :=
  !pathTooLong bytes && (walkDirs t p).toBool

def mkdir (t : Tree) (p : List String) (bytes : Nat) : Except OsError Tree := do
  if p.any fun x => x.contains (Char.ofNat 0) then throw .nulByte
  if pathTooLong bytes then throw .nameTooLong
  walkDirs t p.dropLast
  let some name := p.getLast? | throw .exists
  if nameTooLong name then throw .nameTooLong
  match t.node? p with
  | some _ => .error .exists
  | none => .ok (t.put p.dropLast name (.dir []))

-- Creates a directory and its missing parents; a path that already is a directory is fine.
-- The path is given as its names, each with where it ends in the written path, so that each
-- directory is written as the text up to the end of its name. Directories created before a
-- failure stay.
def createDirAll (t : Tree) (p : List (String × Nat)) : Tree × Except OsError Unit :=
  match p with
  | [] => (t, .ok ())
  | x :: xs =>
    let names := (x :: xs).map (·.1)
    let bytes := ((x :: xs).getLast (List.cons_ne_nil x xs)).2
    match mkdir t names bytes with
    | .ok t' => (t', .ok ())
    | .error .notFound =>
      match createDirAll t (x :: xs).dropLast with
      | (t', .error e) => (t', .error e)
      | (t', .ok ()) =>
        match mkdir t' names bytes with
        | .ok t'' => (t'', .ok ())
        | .error e => if t'.isDir names bytes then (t', .ok ()) else (t', .error e)
    | .error e => if t.isDir names bytes then (t, .ok ()) else (t, .error e)
termination_by p.length
decreasing_by simp

-- Creates or truncates the file at a path whose last part is a plain name.
def writeFile (t : Tree) (p : RawPath) (data : List UInt8) : Except OsError Tree := do
  if p.hasNul then throw .nulByte
  if pathTooLong p.bytes then throw .nameTooLong
  walkDirs t p.dirs
  if nameTooLong p.last then throw .nameTooLong
  match t.node? p.names with
  | some (.dir _) => .error .isADirectory
  | _ => .ok (t.put p.dirs p.last (.file data))

-- Moves the file at `src` onto `dst`. A target ending in `.` is busy, a target with a
-- trailing slash is no place for a file, and a directory there refuses it.
def renameFile (t : Tree) (src dst : RawPath) : Except OsError Tree := do
  if src.hasNul || dst.hasNul then throw .nulByte
  if pathTooLong src.bytes || pathTooLong dst.bytes then throw .nameTooLong
  walkDirs t dst.dirs
  if dst.last = "." then throw .busy
  let some (.file data) := t.node? src.names | throw .notFound
  if nameTooLong dst.last then throw .nameTooLong
  if dst.slash then throw .notADirectory
  match t.node? dst.names with
  | some (.dir _) => .error .isADirectory
  | _ => .ok ((t.remove src.dirs src.last).put dst.dirs dst.last (.file data))

-- Opens a path for reading; a directory opens and only fails when read. A path written with
-- a trailing slash must be a directory.
def openPath (t : Tree) (p : RawPath) : Except OsError BlobReader := do
  if p.hasNul then throw .nulByte
  if pathTooLong p.bytes then throw .nameTooLong
  walkDirs t p.dirs
  if p.last = "." then return .directory
  if nameTooLong p.last then throw .nameTooLong
  match t.node? p.names with
  | none => .error .notFound
  | some (.dir _) => .ok .directory
  | some (.file data) => if p.slash then .error .notADirectory else .ok (.bytes data)

end Tree

-- Whether a key is a plain relative path.
def validBlobKey (key : String) : Bool :=
  let raw := splitPath key
  !key.isEmpty && !key.startsWith "/" && raw.head? != some "." && !raw.contains ".."

-- The plain names among the parts of a path starting at byte `start`, each with the byte
-- offset where it ends; `.` and empty parts are left out.
def namesFrom (start : Nat) : List String → List (String × Nat)
  | [] => []
  | part :: rest =>
    let stop := start + part.utf8ByteSize
    let more := namesFrom (stop + 1) rest
    if part = "" ∨ part = "." then more else (part, stop) :: more

-- The names of a key's parent directory, each with where it ends in the key.
def parentNames (key : String) : List (String × Nat) :=
  (namesFrom 0 (splitPath key)).dropLast

namespace Tree

-- Stores a blob: parent directories, then the `.part` file, then the rename onto the key.
-- The tree after the attempt is returned also when a step fails.
def upload (t : Tree) (key : String) (data : List UInt8) : Tree × Except StorageError Unit :=
  if !validBlobKey key then (t, .error (.invalidKey key)) else
  match createDirAll t (parentNames key) with
  | (t, .error e) => (t, .error (.io e))
  | (t, .ok ()) =>
    let tmp := RawPath.ofText (key ++ ".part")
    match writeFile t tmp data with
    | .error e => (t, .error (.io e))
    | .ok t =>
      match renameFile t tmp (RawPath.ofText key) with
      | .error e => (t, .error (.io e))
      | .ok t => (t, .ok ())

-- Opens a blob for streaming; a missing file is `notFound`.
def openBlob (t : Tree) (key : String) : Except StorageError BlobReader := do
  if !validBlobKey key then throw (.invalidKey key)
  match openPath t (RawPath.ofText key) with
  | .ok r => .ok r
  | .error .notFound => .error (.notFound key)
  | .error e => .error (.io e)

def get (t : Tree) (key : String) : Except StorageError (List UInt8) := do
  let r ← openBlob t key
  r.readAll.mapError .io

end Tree

end JobDispatch
