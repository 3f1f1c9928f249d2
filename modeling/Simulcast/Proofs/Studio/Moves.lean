import Simulcast.Proofs.Channel.Lifecycle
import Simulcast.Proofs.Studio.Abandoned

/-!
# Operations on a studio as moves

Whatever a studio is asked to do, one channel after the other meets an operation or is dropped.
Which channels had their processes abandoned is recorded along the moves.
-/

namespace Simulcast

namespace Studio

variable {σ : Type} [Service σ]

def runEach (choose : Channel → Option Channel.Operation) :
    List Channel → Connection σ → List Channel × Connection σ
  | [], c => ([], c)
  | ch :: rest, c =>
    match choose ch with
    | none => (ch :: (runEach choose rest c).1, (runEach choose rest c).2)
    | some op =>
      let outcome := op.run ch c
      (outcome.channel :: (runEach choose rest outcome.connection).1,
       (runEach choose rest outcome.connection).2)

def abandonedEach (choose : Channel → Option Channel.Operation) :
    List Channel → Connection σ → List String
  | [], _ => []
  | ch :: rest, c =>
    match choose ch with
    | none => abandonedEach choose rest c
    | some op => op.abandoned ch c ++ abandonedEach choose rest (op.run ch c).connection

/-- The operation that a tick runs on a channel. -/
def dueOperation (now : Instant) (ch : Channel) : Option Channel.Operation :=
  if ch.healthCheckDue now then some .checkHealth
  else if (ch.status = .preview ∨ ch.status = .error) ∧ ch.previewTimedOut now then
    some .cancelPreview
  else none

theorem onEach_eq_runEach (asks : Channel → Bool)
    (operation : Channel → Connection σ → Channel.Outcome σ Unit) (op : Channel.Operation)
    (hop : ∀ ch c, (op.run ch c).channel = (operation ch c).channel ∧
      (op.run ch c).connection = (operation ch c).connection)
    (channels : List Channel) (c : Connection σ) :
    (onEach asks operation channels c).2 =
      runEach (fun ch => if asks ch then some op else none) channels c := by
  induction channels generalizing c with
  | nil => rfl
  | cons ch rest ih =>
    by_cases ha : asks ch
    · simp only [onEach, runEach, ha, if_true, (hop ch c).1, (hop ch c).2]
      rw [← ih]
    · simp only [onEach, runEach, ha]
      rw [← ih]
      rfl

theorem tickChannel_eq (now : Instant) (ch : Channel) (c : Connection σ) :
    (tickChannel now ch c).2 =
      match dueOperation now ch with
      | none => (ch, c)
      | some op => ((op.run ch c).channel, (op.run ch c).connection) := by
  unfold tickChannel dueOperation
  split_ifs
  · rfl
  · simp only [Channel.Operation.run]
    rcases ch.cancelPreview c with ⟨_ | _, ch', c'⟩ <;> rfl
  · rfl

theorem tickEach_eq_runEach (now : Instant) (channels : List Channel) (c : Connection σ) :
    (tickEach now channels c).2 = runEach (dueOperation now) channels c := by
  induction channels generalizing c with
  | nil => rfl
  | cons ch rest ih =>
    have hch := tickChannel_eq now ch c
    cases hd : dueOperation now ch with
    | none =>
      simp only [hd] at hch
      simp only [tickEach, runEach, hd, hch]
      rw [← ih]
    | some op =>
      simp only [hd] at hch
      simp only [tickEach, runEach, hd, hch]
      rw [← ih]

omit [Service σ] in
theorem forall_split {before after : List Channel} {ch : Channel} {P : Channel → Prop} :
    (∀ x ∈ before ++ ch :: after, P x) ↔ P ch ∧ ∀ x ∈ before ++ after, P x := by
  simp only [List.perm_middle.mem_iff, List.forall_mem_cons]

/-- One channel meets an operation, or goes away once it is inactive. The list names the channel
whose process was abandoned, if it was. -/
inductive Move :
    List Channel × Connection σ → List String → List Channel × Connection σ → Prop where
  | run (before after : List Channel) (ch : Channel) (op : Channel.Operation) (c : Connection σ) :
      Move (before ++ ch :: after, c) (op.abandoned ch c)
        (before ++ (op.run ch c).channel :: after, (op.run ch c).connection)
  | drop (before after : List Channel) (ch : Channel) (c : Connection σ)
      (h : ch.status = .inactive) : Move (before ++ ch :: after, c) [] (before ++ after, c)

/-- Moves one after the other. -/
inductive Moves :
    List Channel × Connection σ → List String → List Channel × Connection σ → Prop where
  | none (s : List Channel × Connection σ) : Moves s [] s
  | more {s t u : List Channel × Connection σ} {first later : List String} :
      Move s first t → Moves t later u → Moves s (first ++ later) u

theorem Move.moves {s t : List Channel × Connection σ} {abandoned : List String}
    (h : Move s abandoned t) : Moves s abandoned t := by
  have hone := Moves.more h (.none t)
  rwa [List.append_nil] at hone

theorem runEach_moves (choose : Channel → Option Channel.Operation) (before channels : List Channel)
    (c : Connection σ) :
    Moves (before ++ channels, c) (abandonedEach choose channels c)
      (before ++ (runEach choose channels c).1, (runEach choose channels c).2) := by
  induction channels generalizing before c with
  | nil => exact .none _
  | cons ch rest ih =>
    cases hc : choose ch with
    | none =>
      have hrest := ih (before ++ [ch]) c
      simp only [List.append_assoc, List.singleton_append] at hrest
      simp only [runEach, abandonedEach, hc]
      exact hrest
    | some op =>
      have hrest := ih (before ++ [(op.run ch c).channel]) (op.run ch c).connection
      simp only [List.append_assoc, List.singleton_append] at hrest
      simp only [runEach, abandonedEach, hc]
      exact .more (.run before rest ch op c) hrest

end Studio

end Simulcast
