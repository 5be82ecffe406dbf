namespace JobDispatch

-- The paused clock runs on the monotonic one, which counts seconds since the machine started up
-- to the largest 64-bit signed number; the paused clock starts `monotonicBaseS` seconds in.
def monotonicBaseS : Nat := 1000000

def lastInstantS : Nat := Nat.pow 2 63 - 1

-- Whether the instant `ms` milliseconds after the paused clock started lies past the last one:
-- adding a duration to an instant that lands there panics.
def passesLastInstant (ms : Nat) : Bool := (monotonicBaseS * 1000 + ms) / 1000 > lastInstantS

def instantOverflow : String := "overflow when adding duration to instant"

inductive AdmissionError where
  | tooManyRequests
  | timeout
  deriving DecidableEq, Repr

def AdmissionError.message : AdmissionError → String
  | .tooManyRequests => "too many requests"
  | .timeout => "timed out waiting for admission"

def AdmissionError.name : AdmissionError → String
  | .tooManyRequests => "TooManyRequests"
  | .timeout => "Timeout"

-- Where a task calling `acquire` stands: between two steps of the call, holding its permit,
-- halfway through dropping it, or with its answer. A task let into the queue carries its
-- deadline, and one registered for a wake-up whether the wake-up came.
inductive TaskState where
  | spawned
  | looping (deadline : Nat)
  | checking (deadline : Nat) (woken : Bool)
  | parked (deadline : Nat) (woken : Bool)
  | holding
  | releasing (aborted : Bool)
  | released
  | rejected
  | timedOut
  | aborted
  | panicked
  deriving DecidableEq, Repr

namespace TaskState

def label : TaskState → String
  | .spawned | .looping _ | .checking _ _ | .parked _ _ => "waiting"
  | .holding => "holding"
  | .releasing false | .released => "released"
  | .releasing true | .aborted => "aborted"
  | .rejected => "too_many_requests"
  | .timedOut => "timeout"
  | .panicked => "panicked"

-- The task owns a permit.
def holds : TaskState → Bool
  | .holding => true
  | _ => false

-- The task owns a place in the queue and no permit yet.
def waits : TaskState → Bool
  | .looping _ | .checking _ _ | .parked _ _ => true
  | _ => false

-- `notify_waiters` reaches every task registered for a wake-up.
def wakeUp : TaskState → TaskState
  | .checking d _ => .checking d true
  | .parked d _ => .parked d true
  | s => s

end TaskState

-- How `acquire` ends for a caller that waits for its answer.
inductive Admission where
  | admitted
  | refused (e : AdmissionError)
  | panicked
  deriving DecidableEq, Repr

-- A caller still in the queue when it has to be answered has reached its deadline.
def TaskState.admission : TaskState → Admission
  | .holding | .releasing _ | .released => .admitted
  | .rejected => .refused .tooManyRequests
  | .panicked => .panicked
  | _ => .refused .timeout

-- A task at the gate: the name the console gave it, if any, where it stands, and whether it was
-- told to give its permit back, which it does as soon as it holds one.
structure Task where
  name : Option String := none
  state : TaskState := .spawned
  dropAsked : Bool := false
  deriving DecidableEq, Repr

structure Gate where
  limit : Nat
  queueLimit : Nat
  timeoutMs : Nat
  accepted : Nat := 0
  waiting : Nat := 0
  tasks : List Task := []
  deriving Repr

-- One atomic step of a task: a stretch of `acquire` between two points where other tasks may
-- run, one half of dropping a permit, an abort where the task awaits, or the console telling
-- the task to give its permit back.
inductive Move where
  | arrive
  | register
  | check
  | wake
  | expire
  | drop
  | notify
  | abort
  | askDrop
  deriving DecidableEq, Repr

inductive Act where
  | spawn (name : Option String)
  | advance (ms : Nat)
  | move (i : Nat) (m : Move)
  deriving DecidableEq, Repr

namespace Gate

-- `limit + queueLimit` as a 64-bit machine word: a sum past `2^64` wraps around.
def capacity (g : Gate) : Nat := (g.limit + g.queueLimit) % Nat.pow 2 64

def put (g : Gate) (i : Nat) (t : Task) (s : TaskState) : Gate :=
  { g with tasks := g.tasks.set i { t with state := s } }

-- The fast path under the lock, then the deadline, with nothing shared touched in between: a
-- full queue turns the caller away, a free permit is taken at once, and otherwise the caller
-- keeps a place in the queue until `now + timeoutMs`. When that instant cannot be held the
-- caller panics, and dropping its place on the way out gives the place back.
def arrive (g : Gate) (now i : Nat) (t : Task) : Gate :=
  if g.capacity ≤ g.waiting then g.put i t .rejected
  else if g.accepted < g.limit then
    { g.put i t .holding with accepted := g.accepted + 1, waiting := g.waiting + 1 }
  else if passesLastInstant (now + g.timeoutMs) then g.put i t .panicked
  else { g.put i t (.looping (now + g.timeoutMs)) with waiting := g.waiting + 1 }

def move (g : Gate) (now i : Nat) (t : Task) (m : Move) : Option Gate :=
  match m, t.state with
  | .arrive, .spawned => some (g.arrive now i t)
  -- a new wake-up registration, then `try_accept` under the lock
  | .register, .looping d => some (g.put i t (.checking d false))
  | .check, .checking d w =>
    if g.accepted < g.limit then some { g.put i t .holding with accepted := g.accepted + 1 }
    else some (g.put i t (.parked d w))
  -- `select!` takes the wake-up, or the deadline once it has come
  | .wake, .parked d true => some (g.put i t (.looping d))
  | .expire, .parked d _ =>
    if d ≤ now then some { g.put i t .timedOut with waiting := g.waiting - 1 } else none
  -- a dropped permit gives its counts back under the lock, and wakes the waiters only after
  | .drop, .holding =>
    some { g.put i t (.releasing false) with accepted := g.accepted - 1, waiting := g.waiting - 1 }
  | .notify, .releasing a =>
    some { g with
      tasks := (g.tasks.set i { t with state := if a then .aborted else .released }).map
        fun t => { t with state := t.state.wakeUp } }
  | .abort, .spawned => some (g.put i t .aborted)
  | .abort, .parked _ _ => some { g.put i t .aborted with waiting := g.waiting - 1 }
  | .abort, .holding =>
    some { g.put i t (.releasing true) with accepted := g.accepted - 1, waiting := g.waiting - 1 }
  | .askDrop, _ => some { g with tasks := g.tasks.set i { t with dropAsked := true } }
  | _, _ => none

def step (g : Gate) (now : Nat) : Act → Option (Gate × Nat)
  | .spawn n => some ({ g with tasks := g.tasks ++ [{ name := n }] }, now)
  | .advance ms => some (g, now + ms)
  | .move i m => (g.tasks[i]?.bind fun t => g.move now i t m).map (·, now)

end Gate

-- Every interleaving of the tasks' steps and the clock's.
def Gate.Step (p q : Gate × Nat) : Prop := ∃ a, p.1.step p.2 a = some q

-- The move the runtime makes when it runs a task at `now`, if the task can run: a console
-- holder gives its permit back once told to, and a parked task runs once woken or once its
-- deadline has come.
def Task.next (now : Nat) (t : Task) : Option Move :=
  match t.state with
  | .spawned => some .arrive
  | .looping _ => some .register
  | .checking _ _ => some .check
  | .parked d w => if w then some .wake else if d ≤ now then some .expire else none
  | .holding => if t.dropAsked then some .drop else none
  | .releasing _ => some .notify
  | _ => none

namespace Gate

def firstMove (now : Nat) : Nat → List Task → Option Act
  | _, [] => none
  | i, t :: ts =>
    match t.next now with
    | some m => some (.move i m)
    | none => firstMove now (i + 1) ts

-- Runs the first task that can run, again and again, until none can or `fuel` moves are made.
def settleFor (now : Nat) : Nat → Gate → Gate
  | 0, g => g
  | fuel + 1, g =>
    match firstMove now 0 g.tasks with
    | some a =>
      match g.step now a with
      | some (g', _) => settleFor now fuel g'
      | none => g
    | none => g

-- Enough moves for every task to run until it waits: a wake-up costs a task three moves, and
-- a run wakes each task at most once for every task that drops a permit.
def settle (g : Gate) (now : Nat) : Gate :=
  settleFor now (4 * (g.tasks.length + 2) * (g.tasks.length + 2)) g

def act (g : Gate) (now : Nat) (a : Act) : Gate := ((g.step now a).map (·.1)).getD g

def taskNamed (name : String) : Nat → List Task → Option Nat
  | _, [] => none
  | i, t :: ts => (taskNamed name (i + 1) ts).or (if t.name = some name then some i else none)

-- The console spawns a task under `name` that calls `acquire` and holds what it gets.
def acquire (g : Gate) (name : String) (now : Nat) : Gate := (g.act now (.spawn (some name))).settle now

-- The console tells the last task under `name` to give its permit back.
def release (g : Gate) (name : String) (now : Nat) : Gate :=
  match taskNamed name 0 g.tasks with
  | some i => (g.act now (.move i .askDrop)).settle now
  | none => g

def abort (g : Gate) (name : String) (now : Nat) : Gate :=
  match taskNamed name 0 g.tasks with
  | some i => (g.act now (.move i .abort)).settle now
  | none => g

def answer (g : Gate) (i : Nat) : Admission :=
  match g.tasks[i]? with
  | some t => t.state.admission
  | none => .refused .timeout

def waitsAt (g : Gate) (i : Nat) : Bool := g.tasks[i]?.any (·.state.waits)

-- A caller arrives at `now` and waits for its answer, which comes at the instant returned. Once
-- the others have run, none runs again before a deadline comes and a timeout frees no permit,
-- so a caller still waiting is answered by its own deadline.
def enter (g : Gate) (now : Nat) : Admission × Gate × Nat :=
  let i := g.tasks.length
  let g₁ := (g.act now (.spawn none)).settle now
  if g₁.waitsAt i then
    let g₂ := g₁.settle (now + g.timeoutMs)
    (g₂.answer i, g₂, now + g.timeoutMs)
  else (g₁.answer i, g₁, now)

-- The caller that entered last gives its permit back.
def leave (g : Gate) (now : Nat) : Gate := (g.act now (.move (g.tasks.length - 1) .askDrop)).settle now

-- Each name the console gave a task, with where the last task under it stands.
def holders (g : Gate) : List (String × TaskState) :=
  (g.tasks.filterMap fun t => t.name.map (·, t.state)).foldr
    (fun e acc => if acc.any (·.1 == e.1) then acc else e :: acc) []

end Gate

end JobDispatch
