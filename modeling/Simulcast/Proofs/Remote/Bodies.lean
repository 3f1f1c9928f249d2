import Mathlib.Data.List.Forall2
import Simulcast.Proofs.Json.Printed
import Simulcast.Remote.Process

/-!
# What the descriptions of outputs and processes tell

The text of a description is read back as an object that has the members it should have, with the
texts that were given, and no others. So the description of an output tells the output. A process
tells its outputs in order; there a filter stands among the options.
-/

namespace Simulcast

namespace Json

variable {depth : Nat} {j : Json} {name : String} {value : Json}

/-- An object without a name that comes twice. Its members are such as are told, and every name that
is told is one of theirs. -/
def HasJust (j : Json) (tells : String → Json → Prop) : Prop :=
  ∃ members, j = .record members ∧ (members.map (·.1)).Nodup ∧
    (∀ name value, (name, value) ∈ members → tells name value) ∧
    ∀ name value, tells name value → name ∈ members.map (·.1)

/-- What is told of an object can be told in another way too, unless it could be told otherwise. -/
theorem HasJust.told {tells tells' : String → Json → Prop} (h : j.HasJust tells)
    (h' : j.HasJust tells') (honly : ∀ value', tells name value' → value' = value)
    (htold : tells name value) : tells' name value := by
  obtain ⟨members, rfl, -, htells, hnames⟩ := h
  obtain ⟨members', hsame, -, htells', -⟩ := h'
  have hmembers : members = members' := by
    have hinj : Function.Injective fun m : String × Json => (some m.1, m.2) := by
      rintro ⟨a, x⟩ ⟨b, y⟩ hab
      simpa using hab
    exact List.map_injective_iff.2 hinj (Json.object.inj hsame)
  obtain ⟨⟨name, value'⟩, hmem, rfl⟩ := List.mem_map.1 (hnames _ _ htold)
  obtain rfl := honly value' (htells _ _ hmem)
  exact htells' _ _ (hmembers ▸ hmem)

theorem text_injective : Function.Injective text := by
  intro s t h
  simpa [text] using h

theorem texts_injective : Function.Injective texts := fun _ _ h =>
  List.map_injective_iff.2 text_injective (Json.array.inj h)

/-! ### Values that are read back from their text -/

/-- Values without numbers whose parts can all be used and nest at most so deep. -/
def Sendable (depth : Nat) (j : Json) : Prop := j.Numberless ∧ isSound depth j = true

theorem Sendable.readSound (h : Sendable deepest j) : readSound (compact j) = some j :=
  readSound_compact h.1 h.2

theorem sendable_bool (depth : Nat) (b : Bool) : Sendable depth (.bool b) := ⟨.bool b, rfl⟩

theorem sendable_text (depth : Nat) (s : String) : Sendable depth (.text s) := ⟨.string _, rfl⟩

theorem areSound_of_forall {items : List Json} (h : ∀ j ∈ items, isSound depth j = true) :
    areSound depth items = true := by
  induction items with
  | nil => rfl
  | cons item items ih =>
    obtain ⟨hitem, hrest⟩ := List.forall_mem_cons.1 h
    rw [areSound, hitem, ih hrest]
    rfl

theorem sendable_array {items : List Json} (h : ∀ j ∈ items, Sendable depth j) :
    Sendable (depth + 1) (.array items) := by
  refine ⟨.array fun j hj => (h j hj).1, ?_⟩
  rw [isSound, Nat.add_sub_cancel, areSound_of_forall fun j hj => (h j hj).2]
  simp

theorem sendable_texts (depth : Nat) (ss : List String) : Sendable (depth + 1) (.texts ss) := by
  refine sendable_array fun j hj => ?_
  obtain ⟨s, -, rfl⟩ := List.mem_map.1 hj
  exact sendable_text depth s

theorem areSoundMembers_of_forall {members : List (String × Json)}
    (h : ∀ m ∈ members, isSound depth m.2 = true) :
    areSoundMembers depth (members.map fun m => (some m.1, m.2)) = true := by
  induction members with
  | nil => rfl
  | cons m members ih =>
    obtain ⟨hm, hrest⟩ := List.forall_mem_cons.1 h
    rw [List.map_cons, areSoundMembers, hm, ih hrest]
    rfl

theorem sendable_record {members : List (String × Json)}
    (h : ∀ m ∈ members, Sendable depth m.2) : Sendable (depth + 1) (.record members) := by
  constructor
  · refine .object fun m hm => ?_
    obtain ⟨m', hm', rfl⟩ := List.mem_map.1 hm
    exact (h m' hm').1
  · rw [record, isSound, Nat.add_sub_cancel, areSoundMembers_of_forall fun m hm => (h m hm).2]
    simp

theorem HasJust.sendable {tells : String → Json → Prop} (h : j.HasJust tells)
    (hvalues : ∀ name value, tells name value → Sendable depth value) :
    Sendable (depth + 1) j := by
  obtain ⟨members, rfl, -, htells, -⟩ := h
  exact sendable_record fun m hm => hvalues _ _ (htells _ _ hm)

end Json

/-! ### Outputs -/

namespace ProcessOutput

variable {o o' : ProcessOutput} {name : String} {value value' : Json}

def Tells (o : ProcessOutput) (name : String) (value : Json) : Prop :=
  (name = "id" ∧ value = .text o.id) ∨ (name = "url" ∧ value = .text o.url) ∨
    (name = "video_filter" ∧ ∃ f, o.videoFilter = some f ∧ value = .text f) ∨
    (name = "options" ∧ o.options ≠ [] ∧ value = .texts o.options)

def TellsAtCreation (o : ProcessOutput) (name : String) (value : Json) : Prop :=
  (name = "id" ∧ value = .text o.id) ∨ (name = "address" ∧ value = .text o.url) ∨
    (name = "options" ∧ ∃ options,
      options = o.videoFilter.elim [] (["-vf", ·]) ++ o.options ∧ options ≠ [] ∧
        value = .texts options)

theorem json_hasJust (o : ProcessOutput) : o.json.HasJust o.Tells := by
  obtain ⟨id, url, filter, options⟩ := o
  refine ⟨_, rfl, ?_, fun name value hmem => ?_, ?_⟩
  · cases filter <;> cases options <;> simp
  · cases filter <;> cases options <;> simp [Tells] at hmem ⊢ <;> tauto
  · rintro name value (⟨rfl, -⟩ | ⟨rfl, -⟩ | ⟨rfl, f, rfl, -⟩ | ⟨rfl, hoptions, -⟩)
    · simp
    · simp
    · simp
    · have hsome : options ≠ [] := hoptions
      simp [hsome]

theorem creationOptions_eq (o : ProcessOutput) :
    o.creationOptions = o.videoFilter.elim [] (["-vf", ·]) ++ o.options := by
  unfold creationOptions
  cases o.videoFilter <;> rfl

theorem creationJson_hasJust (o : ProcessOutput) : o.creationJson.HasJust o.TellsAtCreation := by
  unfold TellsAtCreation
  simp only [exists_eq_left, ← creationOptions_eq]
  refine ⟨_, rfl, ?_, fun name value hmem => ?_, ?_⟩
  · cases o.creationOptions <;> simp
  · cases ho : o.creationOptions <;> simp [ho] at hmem ⊢ <;> tauto
  · rintro name value (⟨rfl, -⟩ | ⟨rfl, -⟩ | ⟨rfl, hoptions, -⟩)
    · simp
    · simp
    · simp [hoptions]

theorem json_sendable (o : ProcessOutput) (depth : Nat) : o.json.Sendable (depth + 2) := by
  refine o.json_hasJust.sendable fun name value htold => ?_
  rcases htold with ⟨-, rfl⟩ | ⟨-, rfl⟩ | ⟨-, f, -, rfl⟩ | ⟨-, -, rfl⟩
  · exact Json.sendable_text _ _
  · exact Json.sendable_text _ _
  · exact Json.sendable_text _ _
  · exact Json.sendable_texts _ _

theorem creationJson_sendable (o : ProcessOutput) (depth : Nat) :
    o.creationJson.Sendable (depth + 2) := by
  refine o.creationJson_hasJust.sendable fun name value htold => ?_
  rcases htold with ⟨-, rfl⟩ | ⟨-, rfl⟩ | ⟨-, options, -, -, rfl⟩
  · exact Json.sendable_text _ _
  · exact Json.sendable_text _ _
  · exact Json.sendable_texts _ _

@[simp] theorem tells_id : o.Tells "id" value ↔ value = .text o.id := by simp [Tells]

@[simp] theorem tells_url : o.Tells "url" value ↔ value = .text o.url := by simp [Tells]

@[simp] theorem tells_videoFilter :
    o.Tells "video_filter" value ↔ ∃ f, o.videoFilter = some f ∧ value = .text f := by
  simp [Tells]

@[simp] theorem tells_options :
    o.Tells "options" value ↔ o.options ≠ [] ∧ value = .texts o.options := by
  simp [Tells]

theorem tells_unique (h : o.Tells name value) (h' : o.Tells name value') : value' = value := by
  rcases h with ⟨rfl, rfl⟩ | ⟨rfl, rfl⟩ | ⟨rfl, f, hf, rfl⟩ | ⟨rfl, -, rfl⟩
  · exact tells_id.1 h'
  · exact tells_url.1 h'
  · obtain ⟨f', hf', rfl⟩ := tells_videoFilter.1 h'
    rw [Option.some.inj (hf.symm.trans hf')]
  · exact (tells_options.1 h').2

/-- The members of an output tell the output. -/
theorem eq_of_hasJust {j : Json} (h : j.HasJust o.Tells) (h' : j.HasJust o'.Tells) : o = o' := by
  have hiff (name : String) (value : Json) : o.Tells name value ↔ o'.Tells name value :=
    ⟨fun ht => h.told h' (fun _ => tells_unique ht) ht,
      fun ht => h'.told h (fun _ => tells_unique ht) ht⟩
  have hid : o.id = o'.id := Json.text_injective (tells_id.1 ((hiff _ _).1 (tells_id.2 rfl)))
  have hurl : o.url = o'.url := Json.text_injective (tells_url.1 ((hiff _ _).1 (tells_url.2 rfl)))
  have hfilter : o.videoFilter = o'.videoFilter := by
    ext f
    simpa [Json.text] using hiff "video_filter" (.text f)
  have hoptions : o.options = o'.options := by
    have ho := hiff "options" (.texts o.options)
    have ho' := hiff "options" (.texts o'.options)
    simp only [tells_options, and_true, Json.texts_injective.eq_iff] at ho ho'
    by_cases hsome : o.options = []
    · by_cases hsome' : o'.options = []
      · rw [hsome, hsome']
      · exact ((ho'.2 hsome').1 hsome).elim
    · exact (ho.1 hsome).2
  cases o
  cases o'
  simp only [ProcessOutput.mk.injEq]
  exact ⟨hid, hurl, hfilter, hoptions⟩

theorem eq_of_compact (h : o.json.compact = o'.json.compact) : o = o' := by
  have hjson : o.json = o'.json :=
    Json.compact_injective (o.json_sendable 0).1 (o'.json_sendable 0).1 h
  exact eq_of_hasJust o.json_hasJust (hjson ▸ o'.json_hasJust)

end ProcessOutput

/-! ### Processes -/

namespace ProcessConfig

/-- The members of a process that is created: one input, and the outputs in order. -/
def Tells (c : ProcessConfig) (name : String) (value : Json) : Prop :=
  (name = "reference" ∧ value = .text c.reference) ∨ (name = "autostart" ∧ value = .bool false) ∨
    (name = "input" ∧ ∃ input : Json, value = .array [input] ∧
      input.HasJust fun name value =>
        (name = "id" ∧ value = .text "input_0") ∨ (name = "address" ∧ value = .text c.inputUrl)) ∨
    (name = "output" ∧ ∃ outputs, value = .array outputs ∧
      List.Forall₂ (fun o j => Json.HasJust j o.TellsAtCreation) c.outputs outputs)

theorem json_hasJust (c : ProcessConfig) : c.json.HasJust c.Tells := by
  have hinput : (Json.record [("address", .text c.inputUrl), ("id", .text "input_0")]).HasJust
      fun name value => (name = "id" ∧ value = .text "input_0") ∨
        (name = "address" ∧ value = .text c.inputUrl) :=
    ⟨_, rfl, by simp, fun name value hmem => by simpa [or_comm] using hmem,
      fun name value htold => by rcases htold with ⟨rfl, -⟩ | ⟨rfl, -⟩ <;> simp⟩
  have houtputs : List.Forall₂ (fun o j => Json.HasJust j o.TellsAtCreation) c.outputs
      (c.outputs.map ProcessOutput.creationJson) := by
    rw [List.forall₂_map_right_iff, List.forall₂_same]
    exact fun o _ => o.creationJson_hasJust
  refine ⟨_, rfl, by simp, fun name value hmem => ?_, ?_⟩
  · simp only [List.mem_cons, Prod.mk.injEq, List.not_mem_nil, or_false] at hmem
    rcases hmem with ⟨rfl, rfl⟩ | ⟨rfl, rfl⟩ | ⟨rfl, rfl⟩ | ⟨rfl, rfl⟩
    · exact .inr (.inl ⟨rfl, rfl⟩)
    · exact .inr (.inr (.inl ⟨rfl, _, rfl, hinput⟩))
    · exact .inr (.inr (.inr ⟨rfl, _, rfl, houtputs⟩))
    · exact .inl ⟨rfl, rfl⟩
  · rintro name value (⟨rfl, -⟩ | ⟨rfl, -⟩ | ⟨rfl, -⟩ | ⟨rfl, -⟩) <;> simp

theorem json_sendable (c : ProcessConfig) (depth : Nat) : c.json.Sendable (depth + 4) := by
  have hinput : (Json.record [("address", .text c.inputUrl), ("id", .text "input_0")]).Sendable
      (depth + 2) := Json.sendable_record (by simp [Json.sendable_text])
  have houtputs : (Json.array (c.outputs.map ProcessOutput.creationJson)).Sendable (depth + 3) := by
    refine Json.sendable_array fun j hj => ?_
    obtain ⟨o, -, rfl⟩ := List.mem_map.1 hj
    exact o.creationJson_sendable depth
  refine Json.sendable_record ?_
  simp only [List.forall_mem_cons]
  exact ⟨Json.sendable_bool _ _, Json.sendable_array (List.forall_mem_singleton.2 hinput), houtputs,
    Json.sendable_text _ _, List.forall_mem_nil _⟩

end ProcessConfig

/-- The text of an output that joins a process is read back as just what is known of the output, so
no other output has the same text. The text of a process is read back as its reference, its one
input and its outputs in order. -/
theorem bodies_read_back :
    (∀ o : ProcessOutput, ∃ j, Json.readSound o.json.compact = some j ∧ j.HasJust o.Tells) ∧
      (∀ o o' : ProcessOutput, o.json.compact = o'.json.compact ↔ o = o') ∧
      ∀ c : ProcessConfig, ∃ j, Json.readSound c.json.compact = some j ∧ j.HasJust c.Tells := by
  exact ⟨fun o => ⟨_, (o.json_sendable 125).readSound, o.json_hasJust⟩,
    fun o o' => ⟨ProcessOutput.eq_of_compact, fun h => h ▸ rfl⟩,
    fun c => ⟨_, (c.json_sendable 123).readSound, c.json_hasJust⟩⟩

end Simulcast
