import Simulcast.Operation
import Simulcast.Proofs.Session.Through
import Simulcast.Remote.Simulated

/-!
# A service that does not look at addresses

The stream key of an output becomes part of the address that its process pushes to, and nothing
else. A veil takes the addresses away from what the simulated service holds. The service never looks
at them: under the veil its answers are the same, also when it is sent another address.
-/

namespace Simulcast

def Output.keyless (o : Output) : Output := { o with streamKey := "" }

def Channel.keyless (ch : Channel) : Channel := ch.changeOutputs Output.keyless

def ProcessOutput.veiled (o : ProcessOutput) : ProcessOutput := { o with url := "" }

def ProcessConfig.veiled (config : ProcessConfig) : ProcessConfig :=
  { config with outputs := config.outputs.map ProcessOutput.veiled }

def RunningProcess.veiled (p : RunningProcess) : RunningProcess :=
  { p with outputs := p.outputs.map ProcessOutput.veiled }

namespace Simulated

def veiled (s : Simulated) : Simulated :=
  { s with processes := s.processes.map RunningProcess.veiled }

end Simulated

/-- A simulated service that keeps no addresses. -/
structure Veiled where
  state : Simulated

namespace Simulated

def veil (s : Simulated) : Veiled := ⟨s.veiled⟩

def seen (reply : α × Simulated) : α × Veiled := (reply.1, reply.2.veil)

end Simulated

instance : Service Veiled where
  answer v call := Simulated.seen (v.state.answer call)

/-! ### Processes under the veil -/

namespace ProcessOutput

@[simp] theorem veiled_id (o : ProcessOutput) : o.veiled.id = o.id := rfl

theorem id_eq_of_veiled {o o' : ProcessOutput} (h : o'.veiled = o.veiled) : o'.id = o.id := by
  rw [← o'.veiled_id, h, o.veiled_id]

theorem map_veiled_veiled (outputs : List ProcessOutput) :
    (outputs.map veiled).map veiled = outputs.map veiled := by
  rw [List.map_map]
  rfl

end ProcessOutput

namespace RunningProcess

@[simp] theorem veiled_info (p : RunningProcess) : p.veiled.info = p.info := rfl

@[simp] theorem veiled_veiled (p : RunningProcess) : p.veiled.veiled = p.veiled :=
  congrArg (RunningProcess.mk p.info p.inputUrl) (ProcessOutput.map_veiled_veiled p.outputs)

@[simp] theorem veiled_outputIds (p : RunningProcess) : p.veiled.outputIds = p.outputIds := by
  simp only [outputIds, veiled, List.map_map]
  rfl

theorem map_veiled_veiled (processes : List RunningProcess) :
    (processes.map veiled).map veiled = processes.map veiled := by
  rw [List.map_map]
  exact List.map_congr_left fun p _ => p.veiled_veiled

theorem any_veiled (p : RunningProcess) (id : String) :
    p.veiled.outputs.any (·.id == id) = p.outputs.any (·.id == id) := by
  simp only [veiled, List.any_map]
  rfl

theorem veiled_withOutput {o o' : ProcessOutput} (ho : o'.veiled = o.veiled) (p : RunningProcess) :
    (p.veiled.withOutput o').veiled = (p.withOutput o).veiled := by
  simp only [withOutput, veiled, List.map_append, List.map_singleton,
    ProcessOutput.map_veiled_veiled, ho]

theorem veiled_withoutOutput (p : RunningProcess) (id : String) :
    (p.veiled.withoutOutput id).veiled = (p.withoutOutput id).veiled := by
  simp only [withoutOutput, veiled, List.filter_map, ProcessOutput.map_veiled_veiled]
  rfl

end RunningProcess

namespace Simulated

variable (s : Simulated)

theorem veiled_idem : s.veiled.veiled = s.veiled :=
  congrArg (fun processes => { s with processes }) (RunningProcess.map_veiled_veiled s.processes)

theorem find?_veiled (id : String) :
    s.veiled.find? id = (s.find? id).map RunningProcess.veiled := by
  simp only [find?, veiled, List.find?_map]
  rfl

theorem changeFirst_veiled (id : String) {f g : RunningProcess → RunningProcess}
    (hfg : ∀ p, (f p.veiled).veiled = (g p).veiled) (processes : List RunningProcess) :
    (changeFirst id f (processes.map RunningProcess.veiled)).map RunningProcess.veiled =
      (changeFirst id g processes).map RunningProcess.veiled := by
  induction processes with
  | nil => rfl
  | cons p rest ih =>
    by_cases hid : p.info.id = id
    · simp [changeFirst, hid, hfg]
    · simp [changeFirst, hid, ih]

theorem change_veiled (id : String) {f g : RunningProcess → RunningProcess}
    (hfg : ∀ p, (f p.veiled).veiled = (g p).veiled) :
    (s.veiled.change id f).veiled = (s.change id g).veiled :=
  congrArg (fun processes => { s with processes }) (changeFirst_veiled id hfg s.processes)

theorem withoutProcess_veiled (id : String) :
    (s.veiled.withoutProcess id).veiled = (s.withoutProcess id).veiled := by
  simp only [withoutProcess, veiled, List.filter_map, RunningProcess.map_veiled_veiled]
  rfl

/-! ### Answers under the veil -/

theorem seen_eq {α : Type} {a b : α × Simulated} (hreply : a.1 = b.1)
    (hservice : a.2.veiled = b.2.veiled) : seen a = seen b :=
  Prod.ext hreply (congrArg Veiled.mk hservice)

theorem serve_addOutput_veiled (id : String) {o o' : ProcessOutput} (ho : o'.veiled = o.veiled) :
    seen (s.veiled.serve (.addOutput id o')) = seen (s.serve (.addOutput id o)) := by
  simp only [serve, s.find?_veiled, ProcessOutput.id_eq_of_veiled ho]
  cases s.find? id with
  | none => exact seen_eq rfl s.veiled_idem
  | some p =>
    simp only [Option.map_some, p.any_veiled]
    split_ifs
    · exact seen_eq rfl s.veiled_idem
    · exact seen_eq rfl (s.change_veiled id fun p => p.veiled_withOutput ho)

theorem create_veiled {config config' : ProcessConfig} (hc : config'.veiled = config.veiled) :
    seen (s.veiled.create config') = seen (s.create config) := by
  obtain ⟨reference, inputUrl, outputs⟩ := config
  obtain ⟨reference', inputUrl', outputs'⟩ := config'
  obtain ⟨hreference, hinput, houtputs⟩ := ProcessConfig.mk.inj hc
  obtain rfl : reference' = reference := hreference
  obtain rfl : inputUrl' = inputUrl := hinput
  have hany : s.veiled.processes.any (·.info.reference == reference') =
      s.processes.any (·.info.reference == reference') := by
    simp only [veiled, List.any_map]
    rfl
  simp only [create, hany]
  split_ifs
  · exact seen_eq rfl s.veiled_idem
  · refine seen_eq rfl ?_
    simp only [veiled, List.map_append, RunningProcess.map_veiled_veiled, List.map_singleton,
      RunningProcess.veiled, houtputs]

theorem serve_veiled (request : Request) :
    seen (s.veiled.serve request) = seen (s.serve request) := by
  cases request with
  | listProcesses =>
    refine seen_eq ?_ s.veiled_idem
    simp only [serve, veiled, List.map_map]
    rfl
  | getProcess id | getOutputs id =>
    simp only [serve, s.find?_veiled]
    cases s.find? id with
    | none => exact seen_eq rfl s.veiled_idem
    | some p => exact seen_eq (by simp) s.veiled_idem
  | createProcess config => exact s.create_veiled rfl
  | command id command =>
    simp only [serve, s.find?_veiled]
    cases s.find? id with
    | none => exact seen_eq rfl s.veiled_idem
    | some p =>
      refine seen_eq rfl (s.change_veiled id fun p => ?_)
      exact (p.withState (stateAfter command)).veiled_veiled
  | deleteProcess id =>
    simp only [serve, s.find?_veiled]
    cases s.find? id with
    | none => exact seen_eq rfl s.veiled_idem
    | some p => exact seen_eq rfl (s.withoutProcess_veiled id)
  | addOutput id o => exact s.serve_addOutput_veiled id rfl
  | removeOutput id output =>
    simp only [serve, s.find?_veiled]
    cases s.find? id with
    | none => exact seen_eq rfl s.veiled_idem
    | some p =>
      simp only [Option.map_some, p.any_veiled]
      split_ifs
      · exact seen_eq rfl (s.change_veiled id fun p => p.veiled_withoutOutput output)
      · exact seen_eq rfl s.veiled_idem

theorem enter_veiled (kind : CallKind) :
    s.veiled.enter kind = ((s.enter kind).1, (s.enter kind).2.veiled) := by
  unfold enter
  by_cases h : s.failures kind = 0
  · simp only [veiled, h, if_true]
  · simp only [veiled, h, if_false]

theorem seen_ite {α : Type} {p : Prop} [Decidable p] {a a' b b' : α × Simulated}
    (hthen : seen a' = seen a) (helse : seen b' = seen b) :
    seen (if p then a' else b') = seen (if p then a else b) := by
  split_ifs
  · exact hthen
  · exact helse

theorem respond_veiled (call : Call) : seen (s.veiled.respond call) = seen (s.respond call) := by
  have hissued := s.issueTokens.2.veiled_idem
  cases call with
  | login username password => exact seen_ite (seen_eq rfl hissued) (seen_eq rfl s.veiled_idem)
  | refresh token => exact seen_ite (seen_eq rfl hissued) (seen_eq rfl s.veiled_idem)
  | perform token request => exact seen_ite (s.serve_veiled request) (seen_eq rfl s.veiled_idem)

theorem answer_veiled (call : Call) : seen (s.veiled.answer call) = seen (s.answer call) := by
  unfold answer
  rw [s.enter_veiled call.kind]
  obtain ⟨_ | _, t⟩ := s.enter call.kind
  · exact t.respond_veiled call
  · exact seen_eq rfl t.veiled_idem

theorem answer_addOutput_unseen (token id : String) {o o' : ProcessOutput}
    (ho : o'.veiled = o.veiled) :
    seen (s.answer (.perform token (.addOutput id o'))) =
      seen (s.answer (.perform token (.addOutput id o))) := by
  simp only [answer, Call.kind, Request.kind]
  obtain ⟨_ | _, t⟩ := s.enter .addOutput
  · refine seen_ite ?_ rfl
    exact (t.serve_addOutput_veiled id rfl).symm.trans (t.serve_addOutput_veiled id ho)
  · rfl

theorem answer_createProcess_unseen (token : String) {config config' : ProcessConfig}
    (hc : config'.veiled = config.veiled) :
    seen (s.answer (.perform token (.createProcess config'))) =
      seen (s.answer (.perform token (.createProcess config))) := by
  simp only [answer, Call.kind, Request.kind]
  obtain ⟨_ | _, t⟩ := s.enter .createProcess
  · refine seen_ite ?_ rfl
    exact (t.create_veiled rfl).symm.trans (t.create_veiled hc)
  · rfl

/-! ### Breaking things under the veil -/

theorem dropOutput_veiled (id output : String) :
    seen (s.veiled.dropOutput id output) = seen (s.dropOutput id output) := by
  simp only [dropOutput, s.find?_veiled]
  cases s.find? id with
  | none => exact seen_eq rfl s.veiled_idem
  | some p =>
    exact seen_eq (p.any_veiled output) (s.change_veiled id fun p => p.veiled_withoutOutput output)

theorem setProcessState_veiled (id state : String) :
    seen (s.veiled.setProcessState id state) = seen (s.setProcessState id state) := by
  simp only [setProcessState, s.find?_veiled]
  cases s.find? id with
  | none => exact seen_eq rfl s.veiled_idem
  | some p => exact seen_eq rfl (s.change_veiled id fun p => (p.withState state).veiled_veiled)

theorem forgetProcess_veiled (id : String) :
    seen (s.veiled.forgetProcess id) = seen (s.forgetProcess id) := by
  refine seen_eq ?_ (s.withoutProcess_veiled id)
  simp only [forgetProcess, veiled, List.any_map]
  rfl

theorem veil_faithful : Faithful veil where
  answer := answer_veiled

end Simulated

/-! ### Connections under the veil -/

namespace Connection

def veil (c : Connection Simulated) : Connection Veiled := c.through Simulated.veil

def Outcome.veil (o : Outcome Simulated α) : Outcome Veiled α := ⟨o.result, o.connection.veil⟩

variable (c : Connection Simulated)

@[simp] theorem veil_now : c.veil.now = c.now := rfl

@[simp] theorem veil_sleep (d : Duration) : c.veil.sleep d = (c.sleep d).veil := rfl

theorem perform_veil (request : Request) : c.veil.perform request = (c.perform request).veil :=
  perform_through Simulated.veil_faithful c request

theorem findProcess_veil (reference : String) :
    c.veil.findProcess reference = (c.findProcess reference).veil :=
  findProcess_through Simulated.veil_faithful c reference

theorem perform_addOutput_veil (id : String) {o o' : ProcessOutput} (ho : o'.veiled = o.veiled) :
    c.veil.perform (.addOutput id o') = (c.perform (.addOutput id o)).veil := by
  rw [← perform_veil]
  unfold perform
  obtain ⟨error | token, c₁⟩ := c.veil.authenticate
  · rfl
  · have hask : c₁.ask (.perform token (.addOutput id o')) =
        c₁.ask (.perform token (.addOutput id o)) :=
      congrArg (fun reply : Reply Veiled Unit => (reply.1, { c₁ with remote := reply.2 }))
        (c₁.remote.state.answer_addOutput_unseen token id ho)
    simp only [hask]
    obtain ⟨error | _, c₂⟩ := c₁.ask (.perform token (.addOutput id o)) <;> rfl

theorem perform_createProcess_veil {config config' : ProcessConfig}
    (hc : config'.veiled = config.veiled) :
    c.veil.perform (.createProcess config') = (c.perform (.createProcess config)).veil := by
  rw [← perform_veil]
  unfold perform
  obtain ⟨error | token, c₁⟩ := c.veil.authenticate
  · rfl
  · have hask : c₁.ask (.perform token (.createProcess config')) =
        c₁.ask (.perform token (.createProcess config)) :=
      congrArg (fun reply : Reply Veiled String => (reply.1, { c₁ with remote := reply.2 }))
        (c₁.remote.state.answer_createProcess_unseen token hc)
    simp only [hask]
    obtain ⟨error | _, c₂⟩ := c₁.ask (.perform token (.createProcess config)) <;> rfl

end Connection

end Simulcast
