import JobDispatch.Job.Basic

namespace JobDispatch

structure JobRef where
  id : Int
  kind : JobKind
  projectId : Int
  entityId : Int

def Job.ref (j : Job) : JobRef := ⟨j.id, j.kind, j.projectId, j.entityId⟩

inductive JobEvent where
  | update (job : JobRef) (done : Bool) (updates : Option Json)
  | error (job : JobRef) (reason : String)
  | upload (job : JobRef) (key : String) (size : Nat)

namespace JobEvent

def job : JobEvent → JobRef
  | .update j _ _ | .error j _ | .upload j _ _ => j

def label : JobEvent → String
  | .update .. => "update"
  | .error .. => "error"
  | .upload .. => "upload"

def topic (e : JobEvent) : String := e.job.kind.name ++ "." ++ e.label

def toJson (e : JobEvent) : Json :=
  let j := e.job
  let common : List (String × Json) :=
    [("kind", .str e.label), ("job_id", .int j.id), ("job_type", j.kind.toJson),
      ("project_id", .int j.projectId), ("entity_id", .int j.entityId)]
  Json.ofMembers <| common ++ match e with
    | .update _ done updates => [("done", .bool done), ("updates", updates.getD .null)]
    | .error _ reason => [("reason", .str reason)]
    | .upload _ key size => [("key", .str key), ("size", .int size)]

end JobEvent

-- How many published events the bus holds for a listener that has not read them yet.
def eventBusCapacity : Nat := 256

-- What a listener hears of a run of published events when it reads them only afterwards:
-- how many it missed because the bus overflowed, and the newest events the bus still held.
structure HeardEvents where
  missed : Nat
  events : List JobEvent

-- The bus keeps the newest `eventBusCapacity` events and counts the older ones as missed.
def heardEvents (evs : List JobEvent) : HeardEvents :=
  let missed := evs.length - eventBusCapacity
  ⟨missed, evs.drop missed⟩

end JobDispatch
