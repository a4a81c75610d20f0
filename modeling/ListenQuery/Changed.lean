/-!
# Changes

A change that fails may have been carried out in part, so what is there now comes beside its result.
-/

namespace ListenQuery

structure Changed (σ ε : Type) where
  now : σ
  result : Except ε Unit

end ListenQuery
