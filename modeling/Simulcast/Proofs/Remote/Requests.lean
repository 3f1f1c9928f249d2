import Simulcast.Proofs.Remote.Bodies
import Simulcast.Proofs.Text.Percent
import Simulcast.Remote.Http
import Simulcast.Remote.Simulated

/-!
# Requests are told apart

A path is a list of segments, each behind a slash. No segment has a slash in it, so the path tells
the segments, and those of a call tell what it asks for and the ids it names. An output that joins a
process is the exception: it is named by the body alone.
-/

namespace Simulcast

open Text.Percent (encode decode IsSegment isSegment_encode encode_injective decode_encode)

/-! ### Segments of a path -/

def pathOf (segments : List String) : List Char := segments.flatMap fun s => '/' :: s.toList

theorem head_pathOf (segments : List String) :
    pathOf segments = [] ∨ ∃ cs, pathOf segments = '/' :: cs := by
  cases segments with
  | nil => exact .inl rfl
  | cons s segments => exact .inr ⟨_, rfl⟩

theorem takeWhile_segment {s : String} (h : '/' ∉ s.toList) (segments : List String) :
    (s.toList ++ pathOf segments).takeWhile (· ≠ '/') = s.toList := by
  have hs : ∀ c ∈ s.toList, decide (c ≠ '/') = true := fun c hc =>
    decide_eq_true fun hslash => h (hslash ▸ hc)
  rw [List.takeWhile_append_of_pos hs]
  obtain hnil | ⟨cs, hcons⟩ := head_pathOf segments
  · rw [hnil, List.takeWhile_nil, List.append_nil]
  · rw [hcons, List.takeWhile_cons_of_neg (by simp), List.append_nil]

theorem pathOf_injective {segments segments' : List String}
    (h : ∀ s ∈ segments, '/' ∉ s.toList) (h' : ∀ s ∈ segments', '/' ∉ s.toList)
    (hpath : pathOf segments = pathOf segments') : segments = segments' := by
  induction segments generalizing segments' with
  | nil =>
    cases segments' with
    | nil => rfl
    | cons s' segments' => cases hpath
  | cons s segments ih =>
    cases segments' with
    | nil => cases hpath
    | cons s' segments' =>
      obtain ⟨hs, hrest⟩ := List.forall_mem_cons.1 h
      obtain ⟨hs', hrest'⟩ := List.forall_mem_cons.1 h'
      have hbehind : s.toList ++ pathOf segments = s'.toList ++ pathOf segments' :=
        (List.cons.inj hpath).2
      have hsame : s.toList = s'.toList := by
        rw [← takeWhile_segment hs segments, hbehind, takeWhile_segment hs']
      rw [hsame] at hbehind
      rw [String.toList_injective hsame, ih hrest hrest' (List.append_cancel_left hbehind)]

theorem slash_notMem_encode (id : String) : '/' ∉ (encode id).toList :=
  (isSegment_encode id).slash_notMem

/-! ### What a call names -/

namespace Request

def processId? : Request → Option String
  | .listProcesses => none
  | .getProcess id => some id
  | .getOutputs id => some id
  | .createProcess _ => none
  | .command id _ => some id
  | .deleteProcess id => some id
  | .addOutput id _ => some id
  | .removeOutput id _ => some id

def outputId? : Request → Option String
  | .addOutput _ output => some output.id
  | .removeOutput _ output => some output
  | _ => none

/-- The segments behind those of the list of processes. -/
def segments : Request → List String
  | .listProcesses => []
  | .getProcess id => [encode id]
  | .getOutputs id => [encode id, "outputs"]
  | .createProcess _ => []
  | .command id _ => [encode id, "command"]
  | .deleteProcess id => [encode id]
  | .addOutput id _ => [encode id, "outputs"]
  | .removeOutput id output => [encode id, "outputs", encode output]

theorem kind_ne_login (r : Request) : r.kind ≠ .login := by
  cases r <;> exact nofun

theorem kind_ne_refresh (r : Request) : r.kind ≠ .refresh := by
  cases r <;> exact nofun

theorem segments_told_apart (r r' : Request) :
    (r.method = r'.method ∧ r.segments = r'.segments) ↔
      r.kind = r'.kind ∧ r.processId? = r'.processId? ∧
        (r.kind = .addOutput ∨ r.outputId? = r'.outputId?) := by
  cases r <;> cases r' <;>
    simp [method, segments, kind, processId?, outputId?, encode_injective.eq_iff]

end Request

namespace Call

variable {c c' : Call}

def processId? : Call → Option String
  | .login _ _ => none
  | .refresh _ => none
  | .perform _ request => request.processId?

def outputId? : Call → Option String
  | .login _ _ => none
  | .refresh _ => none
  | .perform _ request => request.outputId?

def segments : Call → List String
  | .login _ _ => ["api", "login"]
  | .refresh _ => ["api", "v3", "refresh"]
  | .perform _ request => "api" :: "v3" :: "process" :: request.segments

theorem toList_path (c : Call) : c.path.toList = pathOf c.segments := by
  cases c with
  | login username password => simp [path, segments, pathOf]
  | refresh token => simp [path, segments, pathOf]
  | perform token r =>
    cases r <;> simp [path, Request.path, Request.processesPath, Request.processPath,
      Request.outputsPath, segments, Request.segments, pathOf]

theorem slash_notMem_segments (c : Call) : ∀ s ∈ c.segments, '/' ∉ s.toList := by
  cases c with
  | login username password => simp [segments]
  | refresh token => simp [segments]
  | perform token r => cases r <;> simp [segments, Request.segments, slash_notMem_encode]

theorem path_inj (c c' : Call) : c.path = c'.path ↔ c.segments = c'.segments := by
  constructor
  · intro h
    have hpath : pathOf c.segments = pathOf c'.segments := by
      rw [← toList_path, ← toList_path, h]
    exact pathOf_injective c.slash_notMem_segments c'.slash_notMem_segments hpath
  · intro h
    refine String.toList_injective ?_
    rw [toList_path, toList_path, h]

/-- Method and path tell the operation and the ids, but not the output that joins a process. -/
theorem path_told_apart (c c' : Call) :
    (c.method = c'.method ∧ c.path = c'.path) ↔
      c.kind = c'.kind ∧ c.processId? = c'.processId? ∧
        (c.kind = .addOutput ∨ c.outputId? = c'.outputId?) := by
  rw [path_inj]
  cases c with
  | login username password =>
    cases c' with
    | login username' password' => simp [method, segments, kind, processId?, outputId?]
    | refresh token' => simp [segments, kind]
    | perform token' r' => simp [segments, kind, r'.kind_ne_login.symm]
  | refresh token =>
    cases c' with
    | login username' password' => simp [segments, kind]
    | refresh token' => simp [method, segments, kind, processId?, outputId?]
    | perform token' r' => simp [segments, kind, r'.kind_ne_refresh.symm]
  | perform token r =>
    cases c' with
    | login username' password' => simp [segments, kind, r.kind_ne_login]
    | refresh token' => simp [segments, kind, r.kind_ne_refresh]
    | perform token' r' =>
      simp only [segments, List.cons.injEq, true_and]
      exact r.segments_told_apart r'

theorem eq_addOutput (h : c.kind = .addOutput) :
    ∃ token id output, c = .perform token (.addOutput id output) := by
  cases c with
  | login username password => cases h
  | refresh token => cases h
  | perform token r =>
    cases r with
    | addOutput id output => exact ⟨token, id, output, rfl⟩
    | _ => cases h

theorem outputId?_of_body {base : String} (h : c.kind = .addOutput) (hkind : c.kind = c'.kind)
    (hbody : (c.httpRequest base).body = (c'.httpRequest base).body) :
    c.outputId? = c'.outputId? := by
  obtain ⟨token, id, output, rfl⟩ := eq_addOutput h
  obtain ⟨token', id', output', rfl⟩ := eq_addOutput (hkind.symm.trans h)
  have hsame : output = output' := ProcessOutput.eq_of_compact hbody
  rw [hsame]
  rfl

theorem path_httpRequest (base : String) (c c' : Call) :
    (c.httpRequest base).path = (c'.httpRequest base).path ↔ c.path = c'.path := by
  constructor
  · intro h
    have hlists := congrArg String.toList h
    simp only [httpRequest, String.toList_append] at hlists
    exact String.toList_injective (List.append_cancel_left hlists)
  · intro h
    simp only [httpRequest, h]

/-- Two requests with the same method and path are made for the same operation on the same process
and output. Only the output that joins a process is named by the body instead. An encoded id is
written as a segment that spells the id. -/
theorem requests_told_apart (base : String) (c c' : Call) :
    ((c.httpRequest base).method = (c'.httpRequest base).method ∧
        (c.httpRequest base).path = (c'.httpRequest base).path ↔
      c.kind = c'.kind ∧ c.processId? = c'.processId? ∧
        (c.kind = .addOutput ∨ c.outputId? = c'.outputId?)) ∧
    ((c.httpRequest base).method = (c'.httpRequest base).method ∧
        (c.httpRequest base).path = (c'.httpRequest base).path ∧
        (c.httpRequest base).body = (c'.httpRequest base).body ↔
      c.kind = c'.kind ∧ c.processId? = c'.processId? ∧ c.outputId? = c'.outputId? ∧
        (c.httpRequest base).body = (c'.httpRequest base).body) ∧
    ∀ id, IsSegment (encode id).toList ∧ decode (encode id) = some id := by
  have htold : (c.httpRequest base).method = (c'.httpRequest base).method ∧
        (c.httpRequest base).path = (c'.httpRequest base).path ↔
      c.kind = c'.kind ∧ c.processId? = c'.processId? ∧
        (c.kind = .addOutput ∨ c.outputId? = c'.outputId?) := by
    rw [path_httpRequest]
    exact c.path_told_apart c'
  refine ⟨htold, ⟨?_, ?_⟩, fun id => ⟨isSegment_encode id, decode_encode id⟩⟩
  · rintro ⟨hmethod, hpath, hbody⟩
    obtain ⟨hkind, hprocess, houtput⟩ := htold.1 ⟨hmethod, hpath⟩
    obtain hjoins | hsame := houtput
    · exact ⟨hkind, hprocess, outputId?_of_body hjoins hkind hbody, hbody⟩
    · exact ⟨hkind, hprocess, hsame, hbody⟩
  · rintro ⟨hkind, hprocess, houtput, hbody⟩
    obtain ⟨hmethod, hpath⟩ := htold.2 ⟨hkind, hprocess, .inr houtput⟩
    exact ⟨hmethod, hpath, hbody⟩

/-- Two outputs that join one process go to the same path. -/
theorem joining_outputs_share_path :
    ¬ ∀ (base : String) (c c' : Call),
      (c.httpRequest base).method = (c'.httpRequest base).method →
        (c.httpRequest base).path = (c'.httpRequest base).path →
          c.kind = c'.kind ∧ c.processId? = c'.processId? ∧ c.outputId? = c'.outputId? := by
  intro h
  have hsame := h "" (.perform "t" (.addOutput "p" { id := "a", url := "rtmp://live" }))
    (.perform "t" (.addOutput "p" { id := "b", url := "rtmp://live" })) rfl rfl
  have hids : (some "a" : Option String) = some "b" := hsame.2.2
  exact absurd hids (by decide)

end Call

end Simulcast
