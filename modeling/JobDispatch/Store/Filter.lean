import JobDispatch.Job.Basic
import JobDispatch.Runner.Basic

namespace JobDispatch

-- An eligible-jobs query: always over pending jobs, ascending by id, at most `limit`.
structure JobFilter where
  zone : Option String := none
  kinds : Option (List JobKind) := none
  afterId : Option Int := none
  limit : Nat
  deriving Inhabited

namespace JobFilter

-- Zone equal when one is given, kind among the given ones, id strictly above `afterId`.
def admits (f : JobFilter) (id : Int) (kind : JobKind) (zone : String) : Bool :=
  (f.zone.all (· == zone)) && (f.kinds.all (·.contains kind)) && (f.afterId.all (id > ·))

end JobFilter

-- A runner listing query. `online = some (b, deadline)` keeps runners whose last contact
-- is after the deadline exactly when `b` holds.
structure RunnerFilter where
  kind : Option JobKind := none
  active : Option Bool := none
  zone : Option String := none
  online : Option (Bool × Timestamp) := none
  deriving Inhabited

namespace RunnerFilter

def admits (f : RunnerFilter) (r : Runner) : Bool :=
  (f.kind.all (· == r.kind)) && (f.active.all (· == r.active)) && (f.zone.all (· == r.zone)) &&
    (f.online.all fun (b, deadline) => decide (deadline < r.contactedAt) == b)

end RunnerFilter

end JobDispatch
