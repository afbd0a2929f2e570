import SupplyPlatform.OutboxInvariant

namespace SupplyPlatform.Outbox

open Relational Holding

def DeadLettered (s : State) (e : String) : Prop := ∃ d ∈ s.deadLetter, d.originalEventID = e

end SupplyPlatform.Outbox
