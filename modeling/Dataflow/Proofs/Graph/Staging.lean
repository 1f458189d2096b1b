import Dataflow.Proofs.Workshop

/-!
# What is staged for a node

The trace of a run has each step with its answer. It tells what a builder has accepted since it was
started or reset (`Workshop.followed`): the last value for an attribute (`Workshop.staged`), and
the outputs that feed its slots (`Workshop.stagedInputs`). It also tells with which value a node
was built, which is the one that was staged before the step that answered the node's handle
(`Workshop.Given`).

A builder follows such a value if it has it from the start, if a failure does not change that, and
if every call that it accepts changes what it has as the trace does (`Workshop.Follows`). Then it
has the value at every moment of a run (`Workshop.Follows.run`).
-/

namespace Dataflow

namespace Workshop

/-- What a step of a workshop answers, and the assembly after it. -/
inductive Turn (w : Workshop) : Step → Except Error (Option NodeHandle) → Assembly → Prop
  /-- The step is one on the catalog. -/
  | catalog {step : Catalog.Step} {answer : Except Error (Option NodeHandle)} :
      Turn w (.catalog step) answer w.assembly
  /-- The builder is let go, and no other can start. -/
  | refused {registry op device : String} {devices : DeviceRegistry} {e : Error} :
      Turn w (.start registry op device devices) (.error e) (.idle w.assembly.graph)
  /-- The builder is let go, and another starts with nothing staged. -/
  | started {registry op device : String} {devices : DeviceRegistry} {found : Op} :
      (w.catalog.registry registry).getOp op = .ok found → devices.has device = true →
      Turn w (.start registry op device devices) (.ok none)
        (.held { graph := w.assembly.graph, op := found, device })
  /-- There is no builder to call. -/
  | ignored {g : GraphDef} {call : NodeBuilder.Call} : w.assembly = .idle g →
      Turn w (.call call) (.ok none) (.idle g)
  | called {b b' : NodeBuilder} {call : NodeBuilder.Call}
      {answer : Except Error (Option NodeHandle)} : w.assembly = .held b → b.Turn call answer b' →
      Turn w (.call call) answer (.held b')

/-- A step of a workshop is one of the turns. -/
theorem perform_turn (w : Workshop) (step : Step) :
    w.Turn step (w.perform step).1 (w.perform step).2.assembly := by
  cases step with
  | catalog step => exact .catalog
  | start registry op device devices =>
    simp only [perform, assemble, Assembly.perform]
    cases hb : NodeBuilder.start w.assembly.graph op device (w.catalog.registry registry)
        devices with
    | error e => exact .refused
    | ok b =>
      obtain ⟨found, hfound, hdevice, rfl⟩ := NodeBuilder.start_eq_ok hb
      exact .started hfound hdevice
  | call call =>
    simp only [perform, assemble, Assembly.perform]
    cases hassembly : w.assembly with
    | idle g => exact .ignored hassembly
    | held b => exact .called hassembly (b.perform_turn call)

/-! ## Traces -/

/-- A step with its answer. -/
abbrev Record :=
  Step × Except Error (Option NodeHandle)

/-- The steps of a run with their answers. -/
def trace (id : GraphId) (steps : List Step) : List Record :=
  steps.zip (Run.answers perform { assembly := .idle { id } } steps)

/-- A value that the trace tells, after one more record: a start and a reset set it back, a call
that is accepted makes `accept` of it, and nothing else changes it. -/
def follow {α : Type} (accept : α → NodeBuilder.Call → α) (start x : α) : Record → α
  | (.start .., _) => start
  | (.call .reset, _) => start
  | (.call call, .ok _) => accept x call
  | _ => x

/-- A value that the trace tells: what the calls that were accepted since the builder was started
or reset have made of it. -/
def followed {α : Type} (accept : α → NodeBuilder.Call → α) (start : α) (records : List Record) :
    α :=
  records.foldl (follow accept start) start

/-- The value that is staged for an attribute after one more call. -/
def stage (attr : String) (value : Option AttrValue) : NodeBuilder.Call → Option AttrValue
  | .attr name new => if name = attr then some new else value
  | _ => value

/-- The value that is staged for an attribute: the last one that was accepted since the builder was
started or reset. -/
def staged (attr : String) : List Record → Option AttrValue :=
  followed (stage attr) none

/-- The outputs that feed the slots after one more call. -/
def stageInput (inputs : List (Nat × Nat)) : NodeBuilder.Call → List (Nat × Nat)
  | .input src slot => inputs ++ [(src.index, slot)]
  | _ => inputs

/-- The outputs that feed the slots: those that were accepted since the builder was started or
reset, one for each slot in order. -/
def stagedInputs : List Record → List (Nat × Nat) :=
  followed stageInput []

/-- The node at position `i` was built while the value was staged for the attribute. -/
def Given (records : List Record) (i : Nat) (attr : String) (value : AttrValue) : Prop :=
  ∃ before outDTypes handle after,
    records = before ++ (.call (.build outDTypes), .ok (some handle)) :: after ∧
      handle.index = i ∧ staged attr before = some value

variable {id : GraphId} {steps : List Step} {records : List Record} {record : Record}
  {i : Nat} {attr : String} {value : AttrValue}

/-- The trace of one more step has its record behind those before. -/
theorem trace_concat (id : GraphId) (steps : List Step) (step : Step) :
    trace id (steps ++ [step]) = trace id steps ++ [(step, ((run id steps).perform step).1)] :=
  Run.zip_answers_concat ..

/-- More steps add to the trace. -/
theorem trace_append (id : GraphId) (steps more : List Step) :
    trace id steps <+: trace id (steps ++ more) := by
  rw [trace, trace, Run.answers_append, List.zip_append (Run.length_answers ..).symm]
  exact List.prefix_append ..

/-- A run of steps and one more is the run of the steps, and then the step. -/
theorem run_concat (id : GraphId) (steps : List Step) (step : Step) :
    run id (steps ++ [step]) = ((run id steps).perform step).2 :=
  Run.after_append ..

/-- A node keeps the values with which it was built. -/
theorem Given.append (h : Given records i attr value) (more : List Record) :
    Given (records ++ more) i attr value := by
  obtain ⟨before, outDTypes, handle, after, rfl, hi, hstaged⟩ := h
  exact ⟨before, outDTypes, handle, after ++ more, by simp, hi, hstaged⟩

/-- The last step of a trace has built a node, or those before have. -/
theorem given_concat :
    Given (records ++ [record]) i attr value ↔
      Given records i attr value ∨
        ∃ outDTypes handle, record = (.call (.build outDTypes), .ok (some handle)) ∧
          handle.index = i ∧ staged attr records = some value := by
  constructor
  · rintro ⟨before, outDTypes, handle, after, hrecords, hi, hstaged⟩
    rcases List.eq_nil_or_concat after with rfl | ⟨after, last, rfl⟩
    · obtain ⟨rfl, hlast⟩ := List.append_inj' hrecords rfl
      exact .inr ⟨outDTypes, handle, List.singleton_inj.1 hlast, hi, hstaged⟩
    · rw [List.concat_eq_append, ← List.cons_append, ← List.append_assoc] at hrecords
      obtain ⟨rfl, -⟩ := List.append_inj' hrecords rfl
      exact .inl ⟨before, outDTypes, handle, after, rfl, hi, hstaged⟩
  · rintro (h | ⟨outDTypes, handle, rfl, hi, hstaged⟩)
    · exact h.append _
    · exact ⟨records, outDTypes, handle, [], rfl, hi, hstaged⟩

/-- A step that builds a node gives it the values that are staged. -/
theorem given_build {outDTypes : List DType} {handle : NodeHandle} :
    Given (records ++ [(.call (.build outDTypes), .ok (some handle))]) i attr value ↔
      Given records i attr value ∨ i = handle.index ∧ staged attr records = some value := by
  rw [given_concat]
  refine or_congr Iff.rfl ⟨?_, ?_⟩
  · rintro ⟨_, _, hbuild, rfl, hvalue⟩
    cases hbuild
    exact ⟨rfl, hvalue⟩
  · rintro ⟨rfl, hvalue⟩
    exact ⟨outDTypes, handle, rfl, rfl, hvalue⟩

/-! ## Values that a builder follows -/

section Following

variable {α : Type} {accept : α → NodeBuilder.Call → α} {start x : α}
  {holds : NodeBuilder → α → Prop} {b b' : NodeBuilder}

/-- A call that fails changes nothing of what the trace tells. -/
theorem follow_error {call : NodeBuilder.Call} (hcall : call ≠ .reset) (e : Error) :
    follow accept start x (.call call, .error e) = x := by
  cases call with
  | reset => exact absurd rfl hcall
  | input | name | attr | build => rfl

/-- A call that is accepted counts, unless it is a reset. -/
theorem follow_ok {call : NodeBuilder.Call} (hcall : call ≠ .reset) (built : Option NodeHandle) :
    follow accept start x (.call call, .ok built) = accept x call := by
  cases call with
  | reset => exact absurd rfl hcall
  | input | name | attr | build => rfl

/-- A builder follows what the trace tells. -/
structure Follows (holds : NodeBuilder → α → Prop) (accept : α → NodeBuilder.Call → α)
    (start : α) : Prop where
  /-- A builder that has nothing staged has the value from which the trace starts. -/
  start : ∀ g op device, holds { graph := g, op, device } start
  /-- A builder that fails keeps the value. -/
  failed : ∀ {b x}, b.state = .accumulating → holds b x → holds { b with state := .failed } x
  /-- A call that is accepted does to the builder what it does to the value. -/
  accepted : ∀ {b b' call built x}, b.Turn call (.ok built) b' → call ≠ .reset → holds b x →
    holds b' (accept x call)

/-- A call keeps a value that the builder follows. -/
theorem Follows.call (h : Follows holds accept start) {call : NodeBuilder.Call}
    {answer : Except Error (Option NodeHandle)} (hturn : b.Turn call answer b') (hx : holds b x) :
    holds b' (follow accept start x (.call call, answer)) := by
  cases answer with
  | error e =>
    cases hturn with
    | refused _ hcall =>
      rw [follow_error hcall]
      exact hx
    | failed hs hcall =>
      rw [follow_error hcall]
      exact h.failed hs hx
  | ok built =>
    by_cases hcall : call = .reset
    · -- A reset leaves a builder that has nothing staged.
      subst hcall
      cases hturn
      exact h.start ..
    · rw [follow_ok hcall]
      exact h.accepted hturn hcall hx

/-- Every step keeps a value that the builder follows. -/
theorem Follows.turn (h : Follows holds accept start) {w : Workshop} {step : Step}
    {answer : Except Error (Option NodeHandle)} {a : Assembly} (hturn : w.Turn step answer a)
    (hx : ∀ b, w.assembly = .held b → holds b x) (hb : a = .held b) :
    holds b (follow accept start x (step, answer)) := by
  cases hturn with
  | catalog => exact hx b hb
  | refused | ignored => cases hb
  | started =>
    cases hb
    exact h.start ..
  | called hheld hcall =>
    cases hb
    exact h.call hcall (hx _ hheld)

/-- After every run the builder has what the trace tells. -/
theorem Follows.run (h : Follows holds accept start) (id : GraphId) (steps : List Step) :
    ∀ b, (run id steps).assembly = .held b → holds b (followed accept start (trace id steps)) := by
  induction steps using List.reverseRecOn with
  | nil => exact fun _ hb => nomatch hb
  | append_singleton steps step ih =>
    rw [trace_concat, run_concat, followed, List.foldl_concat]
    exact fun _ => h.turn ((Workshop.run id steps).perform_turn step) ih

end Following

/-! ## What a builder has staged -/

/-- A builder that has not built its node has the staged values. -/
def Stages (records : List Record) (a : Assembly) : Prop :=
  ∀ b, a = .held b → b.state ≠ .built → ∀ attr, b.attributes.get? attr = staged attr records

/-- A builder follows the staged value of each attribute until it has built its node. -/
theorem follows_stage (attr : String) :
    Follows (fun b value => b.state ≠ .built → b.attributes.get? attr = value) (stage attr)
      none where
  start _ _ _ _ := rfl
  failed hs h _ := h (by rw [hs]; nofun)
  accepted := by
    intro b b' call built value hturn hcall h hstate
    cases hturn with
    | input hs | name hs => exact h hstate
    | attr hs =>
      rw [Table.get?_insert, h hstate]
      rfl
    | build => exact absurd rfl hstate
    | reset => exact absurd rfl hcall

/-- After every run the builder has the staged values, unless it has built its node. -/
theorem stages_run (id : GraphId) (steps : List Step) :
    Stages (trace id steps) (run id steps).assembly :=
  fun b hb hstate attr => (follows_stage attr).run id steps b hb hstate

/-- A builder follows the inputs that are staged. -/
theorem follows_stageInput : Follows (fun b inputs => b.inputs = inputs) stageInput [] where
  start _ _ _ := rfl
  failed _ h := h
  accepted := by
    intro b b' call built inputs hturn hcall h
    cases hturn with
    | input hs hcheck => exact congrArg (· ++ _) h
    | name | attr | build => exact h
    | reset => exact absurd rfl hcall

/-- The builder has the inputs that are staged. -/
theorem inputs_eq_stagedInputs {b : NodeBuilder} (hheld : (run id steps).assembly = .held b) :
    b.inputs = stagedInputs (trace id steps) :=
  follows_stageInput.run id steps b hheld

end Workshop

end Dataflow
