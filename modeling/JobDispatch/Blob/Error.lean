namespace JobDispatch

inductive OsError where
  | notFound
  | exists
  | notADirectory
  | isADirectory
  | nameTooLong
  | busy
  | nulByte
  deriving DecidableEq, Repr

def OsError.message : OsError → String
  | .notFound => "No such file or directory (os error 2)"
  | .exists => "File exists (os error 17)"
  | .notADirectory => "Not a directory (os error 20)"
  | .isADirectory => "Is a directory (os error 21)"
  | .nameTooLong => "File name too long (os error 36)"
  | .busy => "Device or resource busy (os error 16)"
  | .nulByte => "file name contained an unexpected NUL byte"

inductive StorageError where
  | notFound (key : String)
  | invalidKey (key : String)
  | io (e : OsError)
  deriving DecidableEq, Repr

def StorageError.message : StorageError → String
  | .notFound k => "blob not found: " ++ k
  | .invalidKey k => "invalid blob key: " ++ k
  | .io e => "storage I/O error: " ++ e.message

-- What a reader of a blob holds: the bytes, or a directory that fails when read.
inductive BlobReader where
  | bytes (data : List UInt8)
  | directory
  deriving DecidableEq, Repr

def BlobReader.readAll : BlobReader → Except OsError (List UInt8)
  | .bytes data => .ok data
  | .directory => .error .isADirectory

end JobDispatch
