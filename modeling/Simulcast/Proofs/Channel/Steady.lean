import Simulcast.Proofs.Channel.Handling
import Simulcast.Proofs.Remote.Passing

/-!
# What every request keeps

All that an operation on a channel does to its connection is to perform requests and to sleep. What
these keep is kept by every operation.
-/

namespace Simulcast

variable {σ : Type} [Service σ]

/-- A property of connections that requests and sleeping keep. -/
structure Steady (K : Connection σ → Prop) : Prop where
  sleep : ∀ {c}, K c → ∀ d, K (c.sleep d)
  perform : ∀ {c}, K c → ∀ request, K (c.perform request).connection

namespace Steady

variable {K : Connection σ → Prop} {c : Connection σ}

theorem findProcess (S : Steady K) (h : K c) (reference : String) :
    K (c.findProcess reference).connection := by
  rw [Connection.findProcess_connection]
  exact S.perform h .listProcesses

theorem tending (S : Steady K) (reference : String) :
    Tending reference (fun c c' => K c → K c') (fun _ _ => True) where
  refl := fun _ => id
  trans := fun h h' hk => h' (h hk)
  sleep := fun _ d hk => S.sleep hk d
  find := fun _ hk => S.findProcess hk reference
  found := fun _ _ _ => trivial
  keeps := fun _ => id
  outputs := fun _ hk => S.perform hk _
  add := fun _ _ hk => S.perform hk _
  remove := fun _ _ hk => S.perform hk _

theorem handling (S : Steady K) :
    Handling (fun _ => True) (fun c c' => K c → K c') (fun _ _ => True) where
  refl := fun _ => id
  trans := fun h h' hk => h' (h hk)
  find := fun _ reference _ hk => S.findProcess hk reference
  found := fun _ _ _ _ _ => trivial
  create := fun _ _ _ hk => S.perform hk _
  created := fun _ _ _ _ _ => trivial
  command := fun _ _ hk => S.perform hk _
  commanded := fun _ _ => trivial
  delete := fun _ hk => S.perform hk _

end Steady

namespace Channel

variable {K : Connection σ → Prop} {c : Connection σ}

/-- What requests and sleeping keep, every operation on a channel keeps. -/
theorem Operation.run_steady (S : Steady K) (op : Operation) (ch : Channel) (h : K c) :
    K (op.run ch c).connection := by
  cases hk : op.kind with
  | tending =>
    exact (op.run_tended (S.tending _) ch.refersTo_getD hk c).2 h
  | wiring =>
    rw [(op.run_wired hk ch c).2]
    exact h
  | lifecycle => exact op.run_handled S.handling ⟨fun _ _ => trivial, trivial⟩ hk c h

end Channel

end Simulcast
