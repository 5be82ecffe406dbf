import JobDispatch.Job.Kind
import JobDispatch.Wrapping

namespace JobDispatch

structure Mark where
  kind : JobKind
  zone : String
  bound : Int
  recordedAt : Nat
  deriving Repr

structure Watermarks where
  ttlMs : Nat := 10000
  marks : List Mark := []
  deriving Repr, Inhabited

namespace Watermarks

def without (w : Watermarks) (kind : JobKind) (zone : String) : List Mark :=
  w.marks.filter fun m => !(m.kind == kind && m.zone == zone)

-- The live bound of a group and zone at `now`; a lapsed mark is dropped.
def get (w : Watermarks) (kind : JobKind) (zone : String) (now : Nat) : Option Int × Watermarks :=
  match w.marks.find? fun m => m.kind == kind && m.zone == zone with
  | some m =>
    if now - m.recordedAt < w.ttlMs then (some m.bound, w)
    else (none, { w with marks := w.without kind zone })
  | none => (none, w)

-- Records `minId - 1` as the bound, or drops the mark when that is not positive.
def record (w : Watermarks) (kind : JobKind) (zone : String) (minId : Int) (now : Nat) : Watermarks :=
  let bound := wrapI64 (minId - 1)
  if bound ≤ 0 then { w with marks := w.without kind zone }
  else { w with marks := w.without kind zone ++ [⟨kind, zone, bound, now⟩] }

def forget (w : Watermarks) (kind : JobKind) (zone : String) : Watermarks :=
  { w with marks := w.without kind zone }

def invalidate (w : Watermarks) : Watermarks := { w with marks := [] }

end Watermarks

end JobDispatch
