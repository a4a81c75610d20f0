import ListenQuery.Time.Timestamp

/-!
# Time ranges

Both bounds of a range are exclusive. A bound that is not given is zero below and the last
timestamp above.
-/

namespace ListenQuery

structure TimeRange where
  min : Timestamp
  max : Timestamp
  deriving DecidableEq, Repr

namespace TimeRange

def default : TimeRange := ⟨0, Int64.maxValue⟩

def ofBounds (min max : Option Timestamp) : TimeRange :=
  ⟨min.getD default.min, max.getD default.max⟩

def contains (r : TimeRange) (t : Timestamp) : Bool := r.min < t && t < r.max

end TimeRange

end ListenQuery
