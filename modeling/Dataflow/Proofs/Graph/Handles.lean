import Dataflow.Proofs.Graph.Naming
import Dataflow.Proofs.Graph.Staging

/-!
# Handles of nodes

A `Studio` has graph definitions that are assembled side by side. A handle is got from a graph in
three ways: a build answers one, and the graph answers one for a position or for a name. Such a
handle denotes a node of the graph from then on, and the node stays as it is but for the edges that
leave it: a graph grows at its end (`GraphDef.Grows`), and its table of names has positions of
nodes only. In every other graph the handle is invalid, because no two graphs have the same number,
as long as there are numbers enough for all (`Studio.handles_run`).
-/

namespace Dataflow

/-! ## Growing graphs -/

namespace GraphDef

variable {g g' : GraphDef} {h : NodeHandle}

/-- A handle denotes a node if it carries the identity of the graph and the position of the
node. -/
theorem node?_eq_some_iff {n : NodeDef} :
    g.node? h = some n ↔ h.graph = g.id ∧ g.nodes[h.index]? = some n := by
  unfold node?
  split
  · rename_i hvalid
    exact ⟨fun hn => ⟨(isValid_iff.1 hvalid).1, hn⟩, fun hn => hn.2⟩
  · rename_i hinvalid
    refine ⟨nofun, fun hn => absurd (isValid_iff.2 ⟨hn.1, ?_⟩) hinvalid⟩
    exact (List.getElem?_eq_some_iff.1 hn.2).1

/-- The valid handles are those that denote a node. -/
theorem isValid_iff_node? : g.isValid h = true ↔ ∃ n, g.node? h = some n := by
  rw [isValid_iff]
  constructor
  · rintro ⟨hid, hlt⟩
    exact ⟨_, node?_eq_some_iff.2 ⟨hid, List.getElem?_eq_getElem hlt⟩⟩
  · rintro ⟨n, hn⟩
    obtain ⟨hid, hnode⟩ := node?_eq_some_iff.1 hn
    exact ⟨hid, (List.getElem?_eq_some_iff.1 hnode).1⟩

/-- The graph has become another by more nodes at its end and more edges that leave its own. -/
structure Grows (g g' : GraphDef) : Prop where
  id : g'.id = g.id
  nodes : ∀ (i : Nat) (n : NodeDef), g.nodes[i]? = some n →
    ∃ outEdges, g'.nodes[i]? = some { n with outEdges }

theorem Grows.refl (g : GraphDef) : g.Grows g :=
  ⟨rfl, fun _ n hn => ⟨n.outEdges, hn⟩⟩

/-- A graph that has grown twice has grown. -/
theorem Grows.trans {g'' : GraphDef} (hg : g.Grows g') (hg' : g'.Grows g'') : g.Grows g'' where
  id := hg'.id.trans hg.id
  nodes i n hn := by
    obtain ⟨_, hn'⟩ := hg.nodes i n hn
    obtain ⟨outEdges, hn''⟩ := hg'.nodes _ _ hn'
    exact ⟨outEdges, hn''⟩

/-- A commit changes no node that is there but for its leaving edges. -/
theorem grows_commit {op : Op} {name device : String} {outDTypes : List DType}
    {inputs : List (Nat × Nat)} {attributes : List (String × AttrValue)} :
    g.Grows (g.commit op name device outDTypes inputs attributes).2 where
  id := rfl
  nodes i n hn := by
    rw [getElem?_nodes_commit (List.getElem?_eq_some_iff.1 hn).1, hn]
    exact ⟨_, rfl⟩

/-- A handle denotes the same node in a graph that has grown. -/
theorem Grows.node? (hg : g.Grows g') {n : NodeDef} (hn : g.node? h = some n) :
    ∃ outEdges, g'.node? h = some { n with outEdges } := by
  obtain ⟨hid, hnode⟩ := node?_eq_some_iff.1 hn
  obtain ⟨outEdges, hnode'⟩ := hg.nodes _ _ hnode
  exact ⟨outEdges, node?_eq_some_iff.2 ⟨hid.trans hg.id.symm, hnode'⟩⟩

/-! ## Where handles come from -/

/-- A handle for a position in the graph is valid. -/
theorem isValid_of_handle? {index : Nat} (hh : g.handle? index = some h) : g.isValid h = true := by
  unfold handle? at hh
  split at hh
  · cases hh
    exact isValid_iff.2 ⟨rfl, ‹_›⟩
  · cases hh

/-- A handle that is found by name is valid. -/
theorem Named.isValid_of_find? (hg : g.Named) {name : String} (hh : g.find? name = some h) :
    g.isValid h = true := by
  obtain ⟨i, hi, rfl⟩ := Option.map_eq_some_iff.1 hh
  obtain ⟨op, hlabel⟩ := (hg name i).1 hi
  obtain ⟨n, hn, -⟩ := getElem?_labels.1 hlabel
  exact isValid_iff_node?.2 ⟨n, node?_eq_some_iff.2 ⟨rfl, hn⟩⟩

/-! ## Handles of other graphs -/

/-- The handle denotes no node of the graph, and no builder takes it for an input: a builder that
is accumulating fails, and the others refuse every input. -/
structure Rejects (g : GraphDef) (h : NodeHandle) : Prop where
  invalid : g.isValid h = false
  node : g.node? h = none
  check : ∀ b : NodeBuilder, b.graph = g → ∀ slot, b.checkInput h slot = .error .invalidInputNode
  input : ∀ b : NodeBuilder, b.graph = g → b.state = .accumulating → ∀ slot,
    b.input h slot = (.error .invalidInputNode, { b with state := .failed })
  refused : ∀ b : NodeBuilder, b.graph = g → b.state ≠ .accumulating → ∀ slot,
    b.input h slot = (.error (.builderNotAccumulating b.state), b)

/-- A graph rejects the handles that carry another identity. -/
theorem rejects_of_ne (hne : h.graph ≠ g.id) : g.Rejects h := by
  have hinvalid : g.isValid h = false :=
    Bool.eq_false_iff.2 fun hvalid => hne (isValid_iff.1 hvalid).1
  have hnode : g.node? h = none := by
    rw [node?, hinvalid]
    rfl
  have hcheck (b : NodeBuilder) (hb : b.graph = g) (slot : Nat) :
      b.checkInput h slot = .error .invalidInputNode := by
    subst hb
    rw [NodeBuilder.checkInput, hnode]
  refine ⟨hinvalid, hnode, hcheck, fun b hb hs slot => ?_, fun b _ hs slot => ?_⟩
  · simp [NodeBuilder.input, NodeBuilder.attempt, hs, hcheck b hb]
  · simp [NodeBuilder.input, NodeBuilder.attempt, hs]

end GraphDef

/-- A call of a builder grows its graph. -/
theorem NodeBuilder.Turn.grows {b b' : NodeBuilder} {call : NodeBuilder.Call}
    {answer : Except Error (Option NodeHandle)} (hturn : b.Turn call answer b') :
    b.graph.Grows b'.graph := by
  cases hturn with
  | refused | failed | input | name | attr | reset => exact .refl _
  | build => exact GraphDef.grows_commit

/-- A handle that a call answers denotes a node of the builder's graph. -/
theorem NodeBuilder.Turn.isValid {b b' : NodeBuilder} {call : NodeBuilder.Call} {h : NodeHandle}
    (hturn : b.Turn call (.ok (some h)) b') : b'.graph.isValid h = true := by
  cases hturn with
  | build => exact GraphDef.isValid_iff.2 ⟨rfl, Nat.lt_of_lt_of_eq (Nat.lt_succ_self _)
      GraphDef.length_nodes_commit.symm⟩

/-- An input leaves the builder's graph as it is, whether it is taken or not. -/
theorem NodeBuilder.graph_input (b : NodeBuilder) (src : NodeHandle) (slot : Nat) :
    (b.input src slot).2.graph = b.graph := by
  unfold input attempt
  split
  · rfl
  · split <;> rfl

namespace Assembly

/-- Every step of an assembly lets its graph grow. -/
theorem grows_perform (a : Assembly) (step : Step) : a.graph.Grows (a.perform step).2.graph :=
  perform_keeps (P := fun a' => a.graph.Grows a'.graph) (.refl _) step (fun _ h => h)
    (fun _ _ _ _ _ _ _ _ h => h) fun hturn h => h.trans hturn.grows

/-- A handle that a step answers denotes a node of the graph. -/
theorem isValid_perform {a : Assembly} {step : Step} {h : NodeHandle}
    (hanswer : (a.perform step).1 = .ok (some h)) : (a.perform step).2.graph.isValid h = true := by
  cases step with
  | start op device ops devices =>
    simp only [perform] at hanswer
    split at hanswer <;> cases hanswer
  | call call =>
    cases a with
    | idle g => cases hanswer
    | held b =>
      have hturn := b.perform_turn call
      rw [show (b.perform call).1 = .ok (some h) from hanswer] at hturn
      exact hturn.isValid

end Assembly

/-! ## Graphs side by side -/

/-- Graph definitions that are assembled side by side. -/
structure Studio where
  /-- The number that the next graph takes. -/
  nextGraph : UInt64 := 0
  /-- The graphs with their builders, in the order in which the graphs were made. -/
  assemblies : List Assembly := []

namespace Studio

/-- The graphs as they stand. -/
def graphs (s : Studio) : List GraphDef :=
  s.assemblies.map (·.graph)

/-- What is done with the graphs; a graph is named by its place among them. -/
inductive Step
  /-- Make a new graph. -/
  | create
  /-- Start a builder for a graph, or call the one that there is. -/
  | assemble (graph : Nat) (step : Assembly.Step)
  /-- Ask a graph for the handle of the node at a position. -/
  | handle (graph index : Nat)
  /-- Ask a graph for the handle of the node of a name. -/
  | find (graph : Nat) (name : String)

/-- The graph that a step is about, if there was one before. -/
def Step.graph? : Step → Option Nat
  | create => none
  | assemble graph _ | handle graph _ | find graph _ => some graph

/-- One step. Its answer holds a handle if one was built or found. -/
def perform (s : Studio) : Step → Except Error (Option NodeHandle) × Studio
  | .create =>
    let (graph, nextGraph) := GraphDef.new s.nextGraph
    (.ok none, ⟨nextGraph, s.assemblies ++ [.idle graph]⟩)
  | .assemble graph step =>
    match s.assemblies[graph]? with
    | none => (.ok none, s)
    | some a =>
      let (answer, a) := a.perform step
      (answer, { s with assemblies := s.assemblies.set graph a })
  | .handle graph index => (.ok (s.graphs[graph]?.bind (·.handle? index)), s)
  | .find graph name => (.ok (s.graphs[graph]?.bind (·.find? name)), s)

/-- Where steps lead from a studio without graphs. -/
def run (steps : List Step) : Studio :=
  Run.after perform {} steps

variable {s s' : Studio} {step : Step} {answer : Except Error (Option NodeHandle)}

/-- What a step answers, and the graphs after it. -/
inductive Turn (s : Studio) : Step → Except Error (Option NodeHandle) → Studio → Prop
  | created : Turn s .create (.ok none)
      ⟨s.nextGraph + 1, s.assemblies ++ [.idle { id := ⟨s.nextGraph⟩ }]⟩
  /-- There is no such graph. -/
  | missing {step : Assembly.Step} {i : Nat} : s.assemblies[i]? = none →
      Turn s (.assemble i step) (.ok none) s
  | assembled {step : Assembly.Step} {i : Nat} {a : Assembly} : s.assemblies[i]? = some a →
      Turn s (.assemble i step) (a.perform step).1
        { s with assemblies := s.assemblies.set i (a.perform step).2 }
  | handled {i index : Nat} :
      Turn s (.handle i index) (.ok (s.graphs[i]?.bind (·.handle? index))) s
  | found {i : Nat} {name : String} :
      Turn s (.find i name) (.ok (s.graphs[i]?.bind (·.find? name))) s

/-- A step of a studio is one of the turns. -/
theorem perform_turn (s : Studio) (step : Step) :
    s.Turn step (s.perform step).1 (s.perform step).2 := by
  cases step with
  | create => exact .created
  | assemble i step =>
    simp only [perform]
    cases ha : s.assemblies[i]? with
    | none => exact .missing ha
    | some a => exact .assembled ha
  | handle i index => exact .handled
  | find i name => exact .found

/-- The graph at a position is that of the assembly there. -/
theorem getElem?_graphs_of_assemblies {i : Nat} {a : Assembly} (ha : s.assemblies[i]? = some a) :
    s.graphs[i]? = some a.graph := by
  rw [graphs, List.getElem?_map, ha]
  rfl

/-- A new assembly brings its graph in behind the others. -/
theorem graphs_concat (number : UInt64) (a : Assembly) :
    graphs ⟨number, s.assemblies ++ [a]⟩ = s.graphs ++ [a.graph] :=
  List.map_append

/-- A step of one assembly changes its graph only. -/
theorem graphs_set (i : Nat) (a : Assembly) :
    graphs { s with assemblies := s.assemblies.set i a } = s.graphs.set i a.graph :=
  List.map_set

/-- Every graph stays where it is and grows. -/
theorem Turn.grows (hturn : s.Turn step answer s') {i : Nat} {g : GraphDef}
    (hg : s.graphs[i]? = some g) : ∃ g', s'.graphs[i]? = some g' ∧ g.Grows g' := by
  cases hturn with
  | missing | handled | found => exact ⟨g, hg, .refl g⟩
  | created =>
    rw [graphs_concat, List.getElem?_append_left (List.getElem?_eq_some_iff.1 hg).1]
    exact ⟨g, hg, .refl g⟩
  | @assembled step j a ha =>
    rw [graphs_set, List.getElem?_set]
    split
    · rename_i hij
      subst hij
      obtain rfl := Option.some.inj ((getElem?_graphs_of_assemblies ha).symm.trans hg)
      rw [if_pos (List.getElem?_eq_some_iff.1 hg).1]
      exact ⟨_, rfl, a.grows_perform step⟩
    · exact ⟨g, hg, .refl g⟩

/-- A graph after a step is one from before that has grown, or is new. -/
theorem Turn.graph_cases (hturn : s.Turn step answer s') {i : Nat} {g' : GraphDef}
    (hg : s'.graphs[i]? = some g') :
    (∃ g, s.graphs[i]? = some g ∧ g.Grows g' ∧ (g.Named → g'.Named)) ∨
      i = s.graphs.length ∧ g' = { id := ⟨s.nextGraph⟩ } := by
  cases hturn with
  | missing | handled | found => exact .inl ⟨g', hg, .refl g', fun h => h⟩
  | created =>
    rw [graphs_concat, getElem?_concat_eq_some_iff] at hg
    rcases hg with hg | ⟨hi, rfl⟩
    · exact .inl ⟨g', hg, .refl g', fun h => h⟩
    · exact .inr ⟨hi, rfl⟩
  | @assembled step j a ha =>
    rw [graphs_set, List.getElem?_set] at hg
    split at hg
    · rename_i hij
      subst hij
      split at hg
      · cases hg
        exact .inl ⟨_, getElem?_graphs_of_assemblies ha, a.grows_perform step,
          fun h => a.named_perform h step⟩
      · cases hg
    · exact .inl ⟨g', hg, .refl g', fun h => h⟩

/-- What holds of the graphs after every run. -/
structure Sound (s : Studio) : Prop where
  /-- The next number is the number of graphs, counted in a machine word. -/
  next : s.nextGraph = UInt64.ofNat s.graphs.length
  /-- The number of a graph is its place, counted in a machine word. -/
  numbered : ∀ (i : Nat) (g : GraphDef), s.graphs[i]? = some g → g.id = ⟨UInt64.ofNat i⟩
  named : ∀ (i : Nat) (g : GraphDef), s.graphs[i]? = some g → g.Named

/-- A studio without graphs is sound. -/
theorem sound_empty : Sound {} :=
  ⟨rfl, fun _ _ => nofun, fun _ _ => nofun⟩

/-- Every turn keeps a studio sound: a new graph gets the next identity, and steps keep the
identities. -/
theorem Turn.sound (hturn : s.Turn step answer s') (h : s.Sound) : s'.Sound where
  next := by
    cases hturn with
    | missing | handled | found => exact h.next
    | created =>
      rw [graphs_concat, List.length_append, h.next]
      exact (UInt64.ofNat_add ..).symm
    | assembled =>
      rw [graphs_set, List.length_set]
      exact h.next
  numbered i g' hg := by
    rcases hturn.graph_cases hg with ⟨g, hbefore, hgrows, -⟩ | ⟨rfl, rfl⟩
    · exact hgrows.id.trans (h.numbered i g hbefore)
    · exact congrArg GraphId.mk h.next
  named i g' hg := by
    rcases hturn.graph_cases hg with ⟨g, hbefore, -, hnamed⟩ | ⟨rfl, rfl⟩
    · exact hnamed (h.named i g hbefore)
    · exact GraphDef.named_empty _

/-- After every run the studio is sound. -/
theorem sound_run (steps : List Step) : (run steps).Sound :=
  Run.after_induction steps sound_empty fun s step h => (s.perform_turn step).sound h

/-- In a run every graph stays where it is and grows. -/
theorem grows_after {i : Nat} {g : GraphDef} (hg : s.graphs[i]? = some g) (steps : List Step) :
    ∃ g', (Run.after perform s steps).graphs[i]? = some g' ∧ g.Grows g' :=
  Run.after_induction (P := fun s' : Studio => ∃ g', s'.graphs[i]? = some g' ∧ g.Grows g') steps
    ⟨g, hg, .refl g⟩ fun s step h => by
      obtain ⟨_, hbefore, hgrows⟩ := h
      obtain ⟨g', hafter, hgrows'⟩ := (s.perform_turn step).grows hbefore
      exact ⟨g', hafter, hgrows.trans hgrows'⟩

/-- A handle that a step answers denotes a node of the graph that the step is about. -/
theorem Turn.isValid {h : NodeHandle} (hturn : s.Turn step (.ok (some h)) s') (hs : s.Sound)
    {i : Nat} (hon : step.graph? = some i) :
    ∃ g, s'.graphs[i]? = some g ∧ g.isValid h = true := by
  generalize hanswer : Except.ok (some h) = answer at hturn
  cases hturn with
  | created | missing => cases hanswer
  | @assembled step j a ha =>
    cases hon
    refine ⟨_, ?_, Assembly.isValid_perform hanswer.symm⟩
    rw [graphs_set, List.getElem?_set, if_pos rfl, if_pos]
    exact (List.getElem?_eq_some_iff.1 (getElem?_graphs_of_assemblies ha)).1
  | handled =>
    cases hon
    obtain ⟨g, hg, hh⟩ := Option.bind_eq_some_iff.1 (Except.ok.inj hanswer).symm
    exact ⟨g, hg, GraphDef.isValid_of_handle? hh⟩
  | found =>
    cases hon
    obtain ⟨g, hg, hh⟩ := Option.bind_eq_some_iff.1 (Except.ok.inj hanswer).symm
    exact ⟨g, hg, (hs.named i g hg).isValid_of_find? hh⟩

/-- Two graphs have different numbers if there are numbers enough for all. -/
theorem Sound.id_ne (hs : s.Sound) (hcount : s.graphs.length ≤ 2 ^ 64) {i j : Nat}
    {g g' : GraphDef} (hg : s.graphs[i]? = some g) (hg' : s.graphs[j]? = some g') (hne : i ≠ j) :
    g.id ≠ g'.id := by
  have hi : i < 2 ^ 64 := Nat.lt_of_lt_of_le (List.getElem?_eq_some_iff.1 hg).1 hcount
  have hj : j < 2 ^ 64 := Nat.lt_of_lt_of_le (List.getElem?_eq_some_iff.1 hg').1 hcount
  rw [hs.numbered i g hg, hs.numbered j g' hg']
  -- Places below the bound are not wrapped, so equal numbers are equal places.
  intro hid
  have hnat := congrArg (fun id : GraphId => id.value.toNat) hid
  simp only [UInt64.toNat_ofNat', Nat.mod_eq_of_lt hi, Nat.mod_eq_of_lt hj] at hnat
  exact hne hnat

/-- An input changes no graph, whether it is taken or not. -/
theorem graphs_input (s : Studio) (i : Nat) (src : NodeHandle) (slot : Nat) :
    (s.perform (.assemble i (.call (.input src slot)))).2.graphs = s.graphs := by
  have hturn := s.perform_turn (.assemble i (.call (.input src slot)))
  generalize (s.perform (.assemble i (.call (.input src slot)))).1 = answer at hturn
  generalize (s.perform (.assemble i (.call (.input src slot)))).2 = s' at hturn ⊢
  cases hturn with
  | missing => rfl
  | @assembled _ _ a ha =>
    have hgraph : (a.perform (.call (.input src slot))).2.graph = a.graph := by
      cases a with
      | idle g => rfl
      | held b => exact b.graph_input src slot
    obtain ⟨hi, hget⟩ := List.getElem?_eq_some_iff.1 (getElem?_graphs_of_assemblies ha)
    rw [graphs_set, hgraph, ← hget]
    exact List.set_getElem_self hi

/-! ## The main result -/

/-- **A handle denotes one node of one graph.** In every run with numbers enough for all graphs, a
handle that a graph has answered denotes a node of the graph from then on, and the node stays as it
is but for the edges that leave it. Every other graph rejects the handle, and to ask for it as an
input changes no graph. -/
theorem handles_run {before : List Step} {step : Step} {i : Nat} {h : NodeHandle}
    (hon : step.graph? = some i) (hanswer : ((run before).perform step).1 = .ok (some h))
    (after : List Step) (hcount : (run (before ++ step :: after)).graphs.length ≤ 2 ^ 64) :
    let now := run (before ++ [step])
    let later := run (before ++ step :: after)
    (∃ g n, now.graphs[i]? = some g ∧ g.isValid h = true ∧ g.node? h = some n ∧
      ∃ g' outEdges, later.graphs[i]? = some g' ∧ g'.isValid h = true ∧
        g'.node? h = some { n with outEdges }) ∧
    ∀ (j : Nat) (other : GraphDef), j ≠ i → later.graphs[j]? = some other →
      other.Rejects h ∧ ∀ slot,
        (later.perform (.assemble j (.call (.input h slot)))).2.graphs = later.graphs := by
  have hrun : run (before ++ step :: after) =
      Run.after perform ((run before).perform step).2 after := Run.after_append ..
  have hstep : run (before ++ [step]) = ((run before).perform step).2 := Run.after_append ..
  have hturn := (run before).perform_turn step
  rw [hanswer] at hturn
  obtain ⟨g, hg, hvalid⟩ := hturn.isValid (sound_run before) hon
  obtain ⟨n, hn⟩ := GraphDef.isValid_iff_node?.1 hvalid
  -- from there on the graph only grows, so the handle still denotes the node
  obtain ⟨g', hg', hgrows⟩ := grows_after hg after
  obtain ⟨outEdges, hn'⟩ := hgrows.node? hn
  rw [← hrun] at hg'
  rw [← hstep] at hg
  refine ⟨⟨g, n, hg, hvalid, hn, g', outEdges, hg', GraphDef.isValid_iff_node?.2 ⟨_, hn'⟩, hn'⟩,
    fun j other hne hother => ⟨GraphDef.rejects_of_ne ?_, graphs_input _ j h⟩⟩
  rw [(GraphDef.node?_eq_some_iff.1 hn').1]
  exact (sound_run _).id_ne hcount hg' hother hne.symm

/-- Steps that start a builder for a node of a graph and build the node. -/
def nodeSteps (graph : Nat) : List Step := [
  .assemble graph (.start "const" "CPU:0" oneOp oneDevice),
  .assemble graph (.call (.build [.double]))]

/-- The first node of a graph is no input in another graph, though that has a first node as
well. -/
theorem handles_run_two : ∃ other,
    (run ([.create, .create] ++ nodeSteps 0 ++ nodeSteps 1)).graphs[1]? = some other ∧
      other.nodes.length = 1 ∧ other.Rejects ⟨⟨0⟩, 0⟩ := by
  have hanswer : ((run ([.create, .create] ++ (nodeSteps 0).take 1)).perform
      (.assemble 0 (.call (.build [.double])))).1 = .ok (some ⟨⟨0⟩, 0⟩) := rfl
  have hcount : (run ([.create, .create] ++ nodeSteps 0 ++ nodeSteps 1)).graphs.length ≤ 2 ^ 64 :=
    by decide
  obtain ⟨other, hother, hlength⟩ : ∃ other,
      (run ([.create, .create] ++ nodeSteps 0 ++ nodeSteps 1)).graphs[1]? = some other ∧
        other.nodes.length = 1 := ⟨_, rfl, rfl⟩
  exact ⟨other, hother, hlength,
    ((handles_run rfl hanswer (nodeSteps 1) hcount).2 1 other (by decide) hother).1⟩

end Studio

end Dataflow
