import Mathlib.Data.List.Sort
import VpnMiddleware.Core.TransitionSystem

/-!
# Rankings of runs

A quantity that no step raises and that some steps lower bounds how often those
steps occur.  The use here is a queue that is served in batches: an item that a
batch leaves out has the whole batch in front of it.
-/

namespace VpnMiddleware.Ranking

open VpnMiddleware.TransitionSystem

section Runs

variable {State Action : Type*} {sys : System State Action}
variable {start last : State} {trace : List (State × Action)}

end Runs

section Batches

variable {Item : Type*} {precedes : Item → Item → Prop} [DecidableRel precedes]
variable [Std.Total precedes] [IsTrans Item precedes]

end Batches

end VpnMiddleware.Ranking
