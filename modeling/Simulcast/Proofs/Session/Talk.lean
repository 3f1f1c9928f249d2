import Simulcast.Session

/-!
# Conversations

A conversation makes requests over a connection, and what it asks next may depend on what it was
answered so far. An operation that is told as one shows every request that it makes with the answer
it got, whether the session came to send it or not.
-/

namespace Simulcast

/-- A request that was made, and its answer. -/
structure Exchange where
  request : Request
  answer : Except RemoteError request.Answer

namespace Exchange

def adds (x : String) (e : Exchange) : Bool :=
  match e.request with
  | .addOutput _ output => output.id == x
  | _ => false

end Exchange

inductive Talk (α : Type) where
  | done (value : α)
  | wait (delay : Duration) (next : Talk α)
  | ask (request : Request) (next : Except RemoteError request.Answer → Talk α)

namespace Talk

variable {α β γ σ : Type}

def bind : Talk α → (α → Talk β) → Talk β
  | .done value, g => g value
  | .wait delay next, g => .wait delay (next.bind g)
  | .ask request next, g => .ask request fun answer => (next answer).bind g

theorem bind_assoc (t : Talk α) (g : α → Talk β) (k : β → Talk γ) :
    (t.bind g).bind k = t.bind fun value => (g value).bind k := by
  induction t with
  | done value => rfl
  | wait delay next ih => exact congrArg (Talk.wait delay) ih
  | ask request next ih => exact congrArg (Talk.ask request) (funext ih)

variable [Service σ]

def run : Talk α → Connection σ → α × Connection σ
  | .done value, c => (value, c)
  | .wait delay next, c => next.run (c.sleep delay)
  | .ask request next, c => (next (c.perform request).result).run (c.perform request).connection

def exchanges : Talk α → Connection σ → List Exchange
  | .done _, _ => []
  | .wait delay next, c => next.exchanges (c.sleep delay)
  | .ask request next, c =>
    ⟨request, (c.perform request).result⟩ ::
      (next (c.perform request).result).exchanges (c.perform request).connection

/-- What is waited for over a connection, in order. -/
def waits : Talk α → Connection σ → List Duration
  | .done _, _ => []
  | .wait delay next, c => delay :: next.waits (c.sleep delay)
  | .ask request next, c =>
    (next (c.perform request).result).waits (c.perform request).connection

/-- The connection is like this before, between and after all that is done. -/
def Throughout (P : Connection σ → Prop) : Talk α → Connection σ → Prop
  | .done _, c => P c
  | .wait delay next, c => P c ∧ next.Throughout P (c.sleep delay)
  | .ask request next, c =>
    P c ∧ (next (c.perform request).result).Throughout P (c.perform request).connection

def adds (t : Talk α) (x : String) (c : Connection σ) : Nat :=
  (t.exchanges c).countP (Exchange.adds x)

theorem run_bind (t : Talk α) (g : α → Talk β) (c : Connection σ) :
    (t.bind g).run c = (g (t.run c).1).run (t.run c).2 := by
  induction t generalizing c with
  | done value => rfl
  | wait delay next ih => exact ih (c.sleep delay)
  | ask request next ih => exact ih _ (c.perform request).connection

theorem exchanges_bind (t : Talk α) (g : α → Talk β) (c : Connection σ) :
    (t.bind g).exchanges c = t.exchanges c ++ (g (t.run c).1).exchanges (t.run c).2 := by
  induction t generalizing c with
  | done value => rfl
  | wait delay next ih => exact ih (c.sleep delay)
  | ask request next ih =>
    exact congrArg (List.cons _) (ih _ (c.perform request).connection)

theorem waits_bind (t : Talk α) (g : α → Talk β) (c : Connection σ) :
    (t.bind g).waits c = t.waits c ++ (g (t.run c).1).waits (t.run c).2 := by
  induction t generalizing c with
  | done value => rfl
  | wait delay next ih => exact congrArg (List.cons delay) (ih (c.sleep delay))
  | ask request next ih => exact ih _ (c.perform request).connection

theorem throughout_bind {P : Connection σ → Prop} {t : Talk α} {g : α → Talk β}
    {c : Connection σ} (ht : t.Throughout P c) (hg : (g (t.run c).1).Throughout P (t.run c).2) :
    (t.bind g).Throughout P c := by
  induction t generalizing c with
  | done value => exact hg
  | wait delay next ih => exact ⟨ht.1, ih ht.2 hg⟩
  | ask request next ih => exact ⟨ht.1, ih _ ht.2 hg⟩

theorem run_of_throughout {P : Connection σ → Prop} {t : Talk α} {c : Connection σ}
    (h : t.Throughout P c) : P (t.run c).2 := by
  induction t generalizing c with
  | done value => exact h
  | wait delay next ih => exact ih h.2
  | ask request next ih => exact ih _ h.2

theorem Throughout.mono {P Q : Connection σ → Prop} {t : Talk α} {c : Connection σ}
    (h : t.Throughout P c) (hPQ : ∀ d, P d → Q d) : t.Throughout Q c := by
  induction t generalizing c with
  | done value => exact hPQ c h
  | wait delay next ih => exact ⟨hPQ c h.1, ih h.2⟩
  | ask request next ih => exact ⟨hPQ c h.1, ih _ h.2⟩

theorem adds_bind (t : Talk α) (g : α → Talk β) (x : String) (c : Connection σ) :
    (t.bind g).adds x c = t.adds x c + (g (t.run c).1).adds x (t.run c).2 := by
  rw [adds, exchanges_bind, List.countP_append]
  rfl

@[simp] theorem adds_done (value : α) (x : String) (c : Connection σ) :
    (Talk.done value).adds x c = 0 := rfl

@[simp] theorem adds_wait (delay : Duration) (next : Talk α) (x : String) (c : Connection σ) :
    (Talk.wait delay next).adds x c = next.adds x (c.sleep delay) := rfl

theorem adds_ask (request : Request) (next : Except RemoteError request.Answer → Talk α)
    (x : String) (c : Connection σ) :
    (Talk.ask request next).adds x c =
      (next (c.perform request).result).adds x (c.perform request).connection +
        if Exchange.adds x ⟨request, (c.perform request).result⟩ then 1 else 0 :=
  List.countP_cons

end Talk

end Simulcast
