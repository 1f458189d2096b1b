import Dataflow.Proofs.Graph.Mirroring
import Dataflow.Proofs.Graph.Staging

/-!
# What nodes are called

A node is called what was asked for, or like its op if nothing was, unless another node has the
name: then it gets the first number from one on that makes the name free (`GraphDef.Chooses`).
Names that are asked for may look like generated ones, in any order, so the scan looks at all nodes
of the graph as it stands. It ends before it has seen more numbers than there are nodes
(`GraphDef.ScanEnds`).

The table of names is therefore the inverse of the list of nodes at all times, and the trace of a
run tells what each node was asked to be called when it was built (`Workshop.requested`,
`Workshop.labeled_run`).
-/

namespace Dataflow

namespace GraphDef

/-! ## One choice -/

/-- Where the scan for a numbered name ends: at a free one, behind taken ones only. -/
structure ScanEnds (g : GraphDef) (base : String) (k : Nat) : Prop where
  pos : 1 ≤ k
  bound : k ≤ g.nodes.length + 1
  free : ∀ n ∈ g.nodes, n.name ≠ suffixed base k
  taken : ∀ j, 1 ≤ j → j < k → ∃ n ∈ g.nodes, n.name = suffixed base j

/-- What a new node is called that is asked to be called `base`. -/
inductive Chooses (g : GraphDef) (base : String) : String → Prop
  /-- No node is called so yet. -/
  | base (hfree : ∀ n ∈ g.nodes, n.name ≠ base) : Chooses g base base
  /-- There is such a node, and `k` is the first number that makes the name free. -/
  | numbered {k : Nat} (htaken : ∃ n ∈ g.nodes, n.name = base) (hscan : g.ScanEnds base k) :
      Chooses g base (suffixed base k)

variable {g : GraphDef}

/-- The table has the names of the nodes. -/
theorem Named.mem_keys_iff (h : g.Named) {name : String} :
    name ∈ g.names.keys ↔ ∃ n ∈ g.nodes, n.name = name := by
  rw [← Table.contains_iff, Table.contains, Option.isSome_iff_exists]
  constructor
  · rintro ⟨i, hi⟩
    obtain ⟨op, hlabel⟩ := (h name i).1 hi
    obtain ⟨n, hn, hname, -⟩ := getElem?_labels.1 hlabel
    exact ⟨n, List.mem_of_getElem? hn, hname⟩
  · rintro ⟨n, hmem, rfl⟩
    obtain ⟨i, hn⟩ := List.getElem?_of_mem hmem
    exact ⟨i, (h n.name i).2 ⟨n.op, getElem?_labels.2 ⟨n, hn, rfl, rfl⟩⟩⟩

/-- No two nodes have one name. -/
theorem Named.nodup_names (h : g.Named) : (g.nodes.map (·.name)).Nodup := by
  rw [List.nodup_iff_injective_getElem]
  intro i j hij
  simp only [List.getElem_map] at hij
  exact Fin.ext (h.eq_of_name_eq (List.getElem?_eq_getElem _) (List.getElem?_eq_getElem _) hij)

/-- The table has as many names as there are nodes. -/
theorem Named.length_keys (h : g.Named) : g.names.keys.length = g.nodes.length := by
  have hperm : g.names.keys.Perm (g.nodes.map (·.name)) := by
    refine (List.perm_ext_iff_of_nodup g.names.nodup_keys h.nodup_names).2 fun name => ?_
    rw [h.mem_keys_iff, List.mem_map]
  rw [hperm.length_eq, List.length_map]

/-- The scan ends. -/
theorem Named.scanEnds (h : g.Named) (base : String) :
    g.ScanEnds base (firstFree (suffixed base) g.names.keys 1) where
  pos := le_firstFree ..
  bound := by
    have hle := firstFree_le (suffixed_injective base) g.names.keys 1
    rw [h.length_keys] at hle
    omega
  free n hn hname :=
    firstFree_notMem (suffixed_injective base) g.names.keys 1 (h.mem_keys_iff.2 ⟨n, hn, hname⟩)
  taken j hpos hlt := h.mem_keys_iff.1 (mem_of_lt_firstFree hpos hlt)

/-- The name that is found for a new node. -/
theorem Named.chooses (h : g.Named) (base : String) : g.Chooses base (g.uniqueName base) := by
  unfold uniqueName
  split
  · rename_i htaken
    exact .numbered (h.mem_keys_iff.1 (Table.contains_iff.1 htaken)) (h.scanEnds base)
  · rename_i hfree
    refine .base fun n hn hname => hfree (Table.contains_iff.2 ?_)
    exact h.mem_keys_iff.2 ⟨n, hn, hname⟩

/-- A handle is found by name if it denotes a node of the name. -/
theorem Named.find?_iff (h : g.Named) {name : String} {handle : NodeHandle} :
    g.find? name = some handle ↔
      handle.graph = g.id ∧ ∃ n, g.nodes[handle.index]? = some n ∧ n.name = name := by
  rw [← h.find?_eq_some_iff]
  constructor
  · intro hfind
    obtain ⟨i, -, rfl⟩ := Option.map_eq_some_iff.1 hfind
    exact ⟨rfl, hfind⟩
  · rintro ⟨hid, hfind⟩
    rw [hfind, ← hid]

end GraphDef

namespace Workshop

/-! ## What is asked for -/

/-- The name that is asked for after one more call. -/
def request (name : Option String) : NodeBuilder.Call → Option String
  | .name new => some new
  | _ => name

/-- The name that is asked for: the last one since the builder was started or reset, if there is
one. -/
def requested : List Record → Option String :=
  followed request none

variable {id : GraphId} {steps : List Step}

/-- A builder follows the name that is asked for. -/
theorem follows_request : Follows (fun b name => b.name = name) request none where
  start _ _ _ := rfl
  failed _ h := h
  accepted := by
    intro b b' call built name hturn hcall h
    cases hturn with
    | input | attr | build => exact h
    | name => rfl
    | reset => exact absurd rfl hcall

/-- The builder has the name that is asked for. -/
theorem name_eq_requested {b : NodeBuilder} (hheld : (run id steps).assembly = .held b) :
    b.name = requested (trace id steps) :=
  follows_request.run id steps b hheld

/-! ## Runs -/

/-- One of the steps has built the node at position `i`, and it has the name that was chosen then
for the one that was asked for, or for that of its op. -/
def Labels (id : GraphId) (steps : List Step) (i : Nat) (name : String) (op : Op) : Prop :=
  ∃ before outDTypes after handle,
    steps = before ++ .call (.build outDTypes) :: after ∧
      ((run id before).perform (.call (.build outDTypes))).1 = .ok (some handle) ∧
      handle.index = i ∧
      (run id before).assembly.graph.Chooses ((requested (trace id before)).getD op.name) name

/-- More steps leave the nodes what they are called. -/
theorem Labels.append {i : Nat} {name : String} {op : Op} (h : Labels id steps i name op)
    (more : List Step) : Labels id (steps ++ more) i name op := by
  obtain ⟨before, outDTypes, after, handle, rfl, hanswer, hi, hchooses⟩ := h
  exact ⟨before, outDTypes, after ++ more, handle, by simp, hanswer, hi, hchooses⟩

/-- A step that builds a node calls it what is chosen, and no other step adds a node. -/
theorem labels_turn {step : Step} {answer : Except Error (Option NodeHandle)} {a : Assembly}
    (hanswer : ((run id steps).perform step).1 = answer)
    (hturn : (run id steps).Turn step answer a) {i : Nat} {name : String} {op : Op}
    (hlabel : a.graph.labels[i]? = some (name, op)) :
    (run id steps).assembly.graph.labels[i]? = some (name, op) ∨
      Labels id (steps ++ [step]) i name op := by
  cases hturn with
  | catalog | refused | started => exact .inl hlabel
  | ignored hidle =>
    rw [hidle]
    exact .inl hlabel
  | called hheld hcall =>
    rw [hheld]
    cases hcall with
    | refused | failed | input | name | attr | reset => exact .inl hlabel
    | @build outDTypes hs hcheck =>
      -- the name was chosen in the graph as it stood before the build
      have hnamed := named_run id steps
      have hname := name_eq_requested hheld
      rw [hheld] at hnamed
      simp only [Assembly.graph, GraphDef.labels_commit] at hlabel
      rcases getElem?_concat_eq_some_iff.1 hlabel with hold | ⟨rfl, hnew⟩
      · exact .inl hold
      · cases hnew
        refine .inr ⟨steps, outDTypes, [], _, rfl, hanswer, (List.length_map _).symm, ?_⟩
        rw [hheld, ← hname]
        exact hnamed.chooses _

/-- Every node was built by a step of the run and is called what was chosen then. -/
theorem labels_run (id : GraphId) (steps : List Step) {i : Nat} {name : String} {op : Op}
    (hlabel : (run id steps).assembly.graph.labels[i]? = some (name, op)) :
    Labels id steps i name op := by
  induction steps using List.reverseRecOn with
  | nil => cases hlabel
  | append_singleton steps step ih =>
    rw [run_concat] at hlabel
    rcases labels_turn rfl ((run id steps).perform_turn step) hlabel with hold | hnew
    · exact (ih hold).append [step]
    · exact hnew

/-- **Nodes are told by their names.** After every run the names of the nodes are all different,
and a name finds the node that has it. Each node was called what had been asked for last, or like
its op, with the first number behind it that made the name free if another node was called so; and
at all times the scan for this number ends. -/
theorem labeled_run (id : GraphId) (steps : List Step) :
    let g := (run id steps).assembly.graph
    (g.nodes.map (·.name)).Nodup ∧
      (∀ name handle, g.find? name = some handle ↔
        handle.graph = g.id ∧ ∃ n, g.nodes[handle.index]? = some n ∧ n.name = name) ∧
      (∀ base, ∃ k, g.ScanEnds base k) ∧
      ∀ (i : Nat) (n : NodeDef), g.nodes[i]? = some n → Labels id steps i n.name n.op := by
  have hnamed := named_run id steps
  refine ⟨hnamed.nodup_names, fun name handle => hnamed.find?_iff,
    fun base => ⟨_, hnamed.scanEnds base⟩, fun i n hn => ?_⟩
  exact labels_run id steps (GraphDef.getElem?_labels.2 ⟨n, hn, rfl, rfl⟩)

/-- Steps that ask for a numbered name before the op has need of it, and once more after. -/
def numberedSteps : List Step := [
  .catalog (.op "ops" "x" 0 [Layout.ofDims [1]] []),
  .start "ops" "x" "CPU:0" oneDevice,
  .call (.name "x_1"), .call (.build [.float]), .call .reset,
  .call (.build [.float]), .call .reset,
  .call (.build [.float]), .call .reset,
  .call (.name "x_1"), .call (.build [.float])]

/-- The number of a generated name is not the place of its node. -/
example : (run ⟨0⟩ numberedSteps).assembly.graph.nodes.map (·.name) =
    ["x_1", "x", "x_2", "x_1_1"] :=
  rfl

end Workshop

end Dataflow
