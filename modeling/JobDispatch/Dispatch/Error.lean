import JobDispatch.Dispatch.Leases
import JobDispatch.Blob.Error

namespace JobDispatch

inductive DispatchError where
  | forbidden (reason : String)
  | notFound (what : String)
  | badRequest (reason : String)
  | traceExpired
  | store (e : StoreError)
  | lock (e : LockError)
  | storage (e : StorageError)
  | panicked (message : String)

def DispatchError.message : DispatchError → String
  | .forbidden r => "forbidden: " ++ r
  | .notFound w => w ++ " not found"
  | .badRequest r => "invalid request: " ++ r
  | .traceExpired => "job trace has expired"
  | .store e => e.message
  | .lock e => e.message
  | .storage e => e.message
  | .panicked m => m

end JobDispatch
