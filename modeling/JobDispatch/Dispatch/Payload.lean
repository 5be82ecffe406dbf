import JobDispatch.Job.Kind

namespace JobDispatch

inductive Resolver where
  | echo
  | value (v : Json)
  | fail (message : String) (entities : Option (List Int)) (context : Option String)
  deriving Inhabited

-- The resolvers by kind; a kind registered twice keeps the later resolver.
structure Resolvers where
  entries : List (JobKind × Resolver) := []
  deriving Inhabited

namespace Resolvers

def register (rs : Resolvers) (k : JobKind) (r : Resolver) : Resolvers :=
  ⟨(rs.entries.filter (·.1 ≠ k)) ++ [(k, r)]⟩

def unregister (rs : Resolvers) (k : JobKind) : Resolvers := ⟨rs.entries.filter (·.1 ≠ k)⟩

-- `echo` for every kind a job can have.
def standard : Resolvers := JobKind.concrete.foldl (fun rs k => rs.register k .echo) {}

def get? (rs : Resolvers) (k : JobKind) : Option Resolver := rs.entries.lookup k

def contains (rs : Resolvers) (k : JobKind) : Bool := (rs.get? k).isSome

-- The registered kinds, in kind order.
def kinds (rs : Resolvers) : List JobKind := JobKind.variants.filter rs.contains

def debugText (rs : Resolvers) : String :=
  "PayloadResolverRegistry \x7b job_types: [" ++ ", ".intercalate (rs.kinds.map JobKind.name) ++
    "] \x7d"

-- The payload of a job, or the failure's text: the message with `\x7bentity_id\x7d` replaced by
-- the entity, after the context when there is one.
def resolve (rs : Resolvers) (k : JobKind) (entity : Int) (extra : Option Json) : Except String Json :=
  match rs.get? k with
  | none => .error ("no payload resolver for job type " ++ k.name)
  | some .echo => .ok (.obj [("entity_id", .int entity), ("extra", extra.getD .null)])
  | some (.value v) => .ok v
  | some (.fail message entities context) =>
    if entities.all (·.contains entity) then
      let text := message.replace "\x7bentity_id\x7d" (toString entity)
      .error (match context with | some c => c ++ ": " ++ text | none => text)
    else .ok (.obj [("entity_id", .int entity), ("extra", extra.getD .null)])

end Resolvers

end JobDispatch
