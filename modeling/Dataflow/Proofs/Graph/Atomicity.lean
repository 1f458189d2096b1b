import Dataflow.Proofs.Graph.Handles

/-!
# Calls of a builder are atomic

A call of a builder is done or not done. An accumulating builder checks every call
(`NodeBuilder.check`); if the check fails, the builder fails with its error and nothing else
changes. A builder that is built or failed refuses every call but a reset and stays as it is. So
the graph changes at a build that answers a handle and at no other call, and then by one node at
its end (`NodeBuilder.Atomic`).

Over a list of calls, the handles that are answered number the new nodes one after the other, and
without a reset nothing leads out of `built` and `failed` (`NodeBuilder.calls_atomic`).
-/

namespace Dataflow

/-- The graph has become another by one more node at its end, which the handle denotes; the other
nodes are as they were but for the edges that leave them. -/
structure GraphDef.Appends (g : GraphDef) (h : NodeHandle) (g' : GraphDef) : Prop where
  grows : g.Grows g'
  length : g'.nodes.length = g.nodes.length + 1
  handle : h = ⟨g.id, g.nodes.length⟩
  number : ∃ n, g'.node? h = some n ∧ n.id = g.nodes.length

/-- A commit appends one node, and answers its handle. -/
theorem GraphDef.appends_commit {g : GraphDef} {op : Op} {name device : String}
    {outDTypes : List DType} {inputs : List (Nat × Nat)} {attributes : List (String × AttrValue)} :
    g.Appends ⟨g.id, g.nodes.length⟩
      (g.commit op name device outDTypes inputs attributes).2 where
  grows := grows_commit
  length := length_nodes_commit
  handle := rfl
  number := ⟨_, node?_eq_some_iff.2 ⟨rfl, getElem?_nodes_commit_self⟩, rfl⟩

namespace NodeBuilder

variable {b : NodeBuilder} {call : Call} {e : Error}

/-! ## Checked steps -/

section attempt
variable {α : Type} {check : Except Error Unit} {done : α × NodeBuilder}

/-- A builder that is not accumulating refuses the step and stays as it is. -/
theorem attempt_of_ne (h : b.state ≠ .accumulating) :
    b.attempt check done = (.error (.builderNotAccumulating b.state), b) :=
  if_pos h

/-- A failed check leaves the builder failed and otherwise as it is. -/
theorem attempt_of_error (h : b.state = .accumulating) :
    b.attempt (.error e) done = (.error e, { b with state := .failed }) :=
  if_neg (not_not_intro h)

/-- A step whose check passes is done. -/
theorem attempt_of_ok (h : b.state = .accumulating) :
    b.attempt (.ok ()) done = (.ok done.1, done.2) :=
  if_neg (not_not_intro h)

/-- What a step does is not touched by what is made of its answer. -/
theorem attempt_map {β : Type} (f : α → β) :
    ((b.attempt check done).1.map f, (b.attempt check done).2) =
      b.attempt check (f done.1, done.2) := by
  unfold attempt
  split
  · rfl
  · cases check <;> rfl

end attempt

/-- What a call checks before it is done. -/
def check (b : NodeBuilder) : Call → Except Error Unit
  | .input src slot => b.checkInput src slot
  | .attr name _ => checkAttributeName name
  | .build outDTypes => b.checkBuild outDTypes
  | .name _ | .reset => .ok ()

/-- What a call does to an accumulating builder if its check passes. -/
def done (b : NodeBuilder) : Call → Option NodeHandle × NodeBuilder
  | .input src slot => (none, { b with inputs := b.inputs ++ [(src.index, slot)] })
  | .name name => (none, { b with name := some name })
  | .attr name value => (none, { b with attributes := b.attributes.insert name value })
  | .build outDTypes =>
    let name := b.graph.uniqueName (b.name.getD b.op.name)
    let (handle, graph) :=
      b.graph.commit b.op name b.device outDTypes b.inputs b.attributes.entries
    (some handle, { b with graph, attributes := {}, state := .built })
  | .reset => (none, b.reset)

/-- Every call but a reset is a checked step. -/
theorem perform_eq (hcall : call ≠ .reset) :
    b.perform call = b.attempt (b.check call) (b.done call) := by
  cases call with
  | reset => exact absurd rfl hcall
  | name name =>
    show ((b.setName name).1.map fun _ => none, (b.setName name).2) = _
    exact attempt_map _
  | input | attr | build => exact attempt_map _

/-- No check finds fault with the state of the builder. -/
theorem check_ne_notAccumulating (b : NodeBuilder) (call : Call) (state : BuilderState) :
    b.check call ≠ .error (.builderNotAccumulating state) := by
  intro h
  cases call with
  | input src slot =>
    simp only [check, checkInput] at h
    repeat' split at h
    all_goals cases h
  | attr name value =>
    simp only [check, checkAttributeName] at h
    split at h <;> cases h
  | build outDTypes =>
    simp only [check, checkBuild] at h
    repeat' split at h
    all_goals cases h
  | name name => cases h
  | reset => cases h

/-! ## One call -/

/-- What a call of a builder does, by its answer. -/
structure Atomic (b : NodeBuilder) (call : Call) (answer : Except Error (Option NodeHandle))
    (b' : NodeBuilder) : Prop where
  /-- A handle is answered by a build alone, and it is that of the one new node. -/
  built : ∀ handle, answer = .ok (some handle) →
    (∃ outDTypes, call = .build outDTypes) ∧ b.graph.Appends handle b'.graph ∧ b'.state = .built
  /-- A build that does not fail answers a handle. -/
  answered : ∀ outDTypes result, call = .build outDTypes → answer = .ok result →
    ∃ handle, result = some handle
  /-- Without a handle, after an error as well, the graph is as it was. -/
  unchanged : (∀ handle, answer ≠ .ok (some handle)) → b'.graph = b.graph
  /-- A call that is refused leaves the builder as it is, and its error names the state. -/
  refused : ∀ state, answer = .error (.builderNotAccumulating state) →
    state = b.state ∧ state ≠ .accumulating ∧ b' = b
  /-- Every other error is that of the check, and nothing but the state changes, to failed. -/
  failed : ∀ e, answer = .error e → (∀ state, e ≠ .builderNotAccumulating state) →
    b.state = .accumulating ∧ b.check call = .error e ∧ b' = { b with state := .failed }
  /-- An accumulating builder does what passes the check. -/
  passed : b.state = .accumulating → b.check call = .ok () → ∃ result, answer = .ok result
  /-- A builder that is not accumulating accepts a reset and nothing else. -/
  idle : b.state ≠ .accumulating → call ≠ .reset →
    answer = .error (.builderNotAccumulating b.state)
  /-- A reset leaves the builder accumulating. -/
  reset : call = .reset → answer = .ok none ∧ b'.state = .accumulating

/-- A reset is atomic. -/
theorem atomic_reset (b : NodeBuilder) : b.Atomic .reset (.ok none) b.reset where
  built _ h := nomatch h
  answered _ _ h := nomatch h
  unchanged _ := rfl
  refused _ h := nomatch h
  failed _ h := nomatch h
  passed _ _ := ⟨none, rfl⟩
  idle _ h := absurd rfl h
  reset _ := ⟨rfl, rfl⟩

/-- A refusal is atomic. -/
theorem atomic_refused (h : b.state ≠ .accumulating) (hcall : call ≠ .reset) :
    b.Atomic call (.error (.builderNotAccumulating b.state)) b where
  built _ h := nomatch h
  answered _ _ _ h := nomatch h
  unchanged _ := rfl
  refused state he := by cases he; exact ⟨rfl, h, rfl⟩
  failed e he hother := by cases he; exact absurd rfl (hother _)
  passed hs := absurd hs h
  idle _ _ := rfl
  reset h := absurd h hcall

/-- A failed check is atomic. -/
theorem atomic_failed (h : b.state = .accumulating) (hcall : call ≠ .reset)
    (hcheck : b.check call = .error e) :
    b.Atomic call (.error e) { b with state := .failed } where
  built _ h := nomatch h
  answered _ _ _ h := nomatch h
  unchanged _ := rfl
  refused state he := by cases he; exact absurd hcheck (b.check_ne_notAccumulating call state)
  failed _ he _ := by cases he; exact ⟨h, hcheck, rfl⟩
  passed _ hok := nomatch hcheck.symm.trans hok
  idle hs := absurd h hs
  reset h := absurd h hcall

/-- A call whose check passes is atomic. -/
theorem atomic_done (h : b.state = .accumulating) (hcall : call ≠ .reset) :
    b.Atomic call (.ok (b.done call).1) (b.done call).2 where
  built handle hanswer := by
    cases call with
    | build outDTypes =>
      cases hanswer
      exact ⟨⟨outDTypes, rfl⟩, GraphDef.appends_commit, rfl⟩
    | input | name | attr | reset => cases hanswer
  answered outDTypes result hbuild hanswer := by
    subst hbuild
    cases hanswer
    exact ⟨_, rfl⟩
  unchanged hnone := by
    cases call with
    | build outDTypes => exact absurd rfl (hnone _)
    | input | name | attr | reset => rfl
  refused _ h := nomatch h
  failed _ h := nomatch h
  passed _ _ := ⟨_, rfl⟩
  idle hs := absurd h hs
  reset h := absurd h hcall

/-- Every call of every builder is atomic. -/
theorem perform_atomic (b : NodeBuilder) (call : Call) :
    b.Atomic call (b.perform call).1 (b.perform call).2 := by
  by_cases hcall : call = .reset
  · subst hcall
    exact b.atomic_reset
  · rw [perform_eq hcall]
    by_cases h : b.state = .accumulating
    · cases hcheck : b.check call with
      | error e =>
        rw [attempt_of_error h]
        exact atomic_failed h hcall hcheck
      | ok u =>
        rw [attempt_of_ok h]
        exact atomic_done h hcall
    · rw [attempt_of_ne h]
      exact atomic_refused h hcall

/-! ## Lists of calls -/

/-- The handle that a call has answered. -/
def handle? : Except Error (Option NodeHandle) → Option NodeHandle
  | .ok handle => handle
  | .error _ => none

/-- A handle is the one of an answer just if the call has answered it. -/
theorem handle?_eq_some_iff {answer : Except Error (Option NodeHandle)} {handle : NodeHandle} :
    handle? answer = some handle ↔ answer = .ok (some handle) := by
  cases answer <;> simp [handle?]

/-- The handles that calls answer, one after the other. -/
def handles (b : NodeBuilder) (calls : List Call) : List NodeHandle :=
  (Run.answers perform b calls).filterMap handle?

end NodeBuilder

/-- From one graph to another, the handles number the new nodes one after the other, and without
handles the graph is the same. -/
structure GraphDef.Numbers (g : GraphDef) (handles : List NodeHandle) (g' : GraphDef) : Prop where
  grows : g.Grows g'
  length : g'.nodes.length = g.nodes.length + handles.length
  numbered : handles = (List.range' g.nodes.length handles.length).map fun i => ⟨g.id, i⟩
  same : handles = [] → g' = g

theorem GraphDef.Numbers.refl (g : GraphDef) : g.Numbers [] g :=
  ⟨.refl g, rfl, rfl, fun _ => rfl⟩

/-- A node that is appended before others is numbered before them. -/
theorem GraphDef.Appends.numbers {g g' g'' : GraphDef} {handle : NodeHandle}
    {handles : List NodeHandle} (h : g.Appends handle g') (hrest : g'.Numbers handles g'') :
    g.Numbers (handle :: handles) g'' where
  grows := h.grows.trans hrest.grows
  length := by
    rw [hrest.length, h.length, List.length_cons]
    omega
  numbered := by
    rw [List.length_cons, List.range'_succ, List.map_cons, ← h.handle, ← h.length, ← h.grows.id,
      ← hrest.numbered]
  same := nofun

namespace NodeBuilder

/-- Calls number the nodes that they build. -/
theorem numbers_after (b : NodeBuilder) (calls : List Call) :
    b.graph.Numbers (b.handles calls) (Run.after perform b calls).graph := by
  induction calls generalizing b with
  | nil => exact .refl b.graph
  | cons call rest ih =>
    have hatomic := b.perform_atomic call
    have hrest := ih (b.perform call).2
    rw [handles, Run.answers, List.filterMap_cons]
    split
    · rename_i hnone
      rw [← hatomic.unchanged fun handle hanswer => ?_]
      · exact hrest
      · rw [hanswer] at hnone
        cases hnone
    · rename_i handle hsome
      have hanswer : (b.perform call).1 = .ok (some handle) := handle?_eq_some_iff.1 hsome
      exact (hatomic.built handle hanswer).2.1.numbers hrest

/-- A builder that is not accumulating refuses all calls until it is reset. -/
theorem after_of_ne_accumulating (h : b.state ≠ .accumulating) {calls : List Call}
    (hreset : .reset ∉ calls) :
    Run.after perform b calls = b ∧
      ∀ answer ∈ Run.answers perform b calls,
        answer = .error (.builderNotAccumulating b.state) := by
  induction calls with
  | nil => exact ⟨rfl, nofun⟩
  | cons call rest ih =>
    rw [List.mem_cons, not_or] at hreset
    have hcall : b.perform call = (.error (.builderNotAccumulating b.state), b) :=
      (perform_eq (Ne.symm hreset.1)).trans (attempt_of_ne h)
    obtain ⟨hafter, hanswers⟩ := ih hreset.2
    simp only [Run.after, List.foldl_cons, Run.answers, hcall]
    exact ⟨hafter, List.forall_mem_cons.2 ⟨rfl, hanswers⟩⟩

/-- **Calls of a builder are done or not done.** Whatever a builder has staged, whichever state it
is in and whichever calls were made before, a call changes the graph only if it is a build that
answers a handle, and then it appends one node. A call that is refused changes nothing at all, and
one that fails its check nothing but the state. So the handles that calls answer number the new
nodes one after the other, and without a reset a builder that is built or failed stays as it is. -/
theorem calls_atomic (b : NodeBuilder) (calls : List Call) :
    let b' := Run.after perform b calls
    (∀ call, b'.Atomic call (b'.perform call).1 (b'.perform call).2) ∧
      b.graph.Numbers (b.handles calls) b'.graph ∧
      (b.state ≠ .accumulating → .reset ∉ calls → b' = b ∧
        ∀ answer ∈ Run.answers perform b calls,
          answer = .error (.builderNotAccumulating b.state)) :=
  ⟨perform_atomic _, numbers_after b calls, fun h => after_of_ne_accumulating h⟩

end NodeBuilder

end Dataflow
