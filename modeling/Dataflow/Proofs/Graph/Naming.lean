import Dataflow.Proofs.Names
import Dataflow.Proofs.Workshop

/-!
# The names of nodes

A commit adds a name behind those of the other nodes (`names_commit`) and enters its position. As
long as the name is free, the table of names finds each node by its name and nothing else
(`GraphDef.Named`). A build asks for a free name, so every run leads to a graph of this kind
(`Workshop.named_run`).
-/

namespace Dataflow

/-- What a list has at a position after one more element is added behind it. -/
theorem getElem?_concat_eq_some_iff {α : Type} {xs : List α} {x y : α} {i : Nat} :
    (xs ++ [x])[i]? = some y ↔ xs[i]? = some y ∨ i = xs.length ∧ x = y := by
  rcases Nat.lt_trichotomy i xs.length with hlt | rfl | hgt
  · rw [List.getElem?_append_left hlt]
    exact ⟨.inl, fun h => h.resolve_right fun hi => Nat.ne_of_lt hlt hi.1⟩
  · rw [List.getElem?_concat_length, List.getElem?_eq_none (Nat.le_refl _), Option.some.injEq]
    exact ⟨fun hx => .inr ⟨rfl, hx⟩, fun h => (h.resolve_left nofun).2⟩
  · have hlen : (xs ++ [x]).length ≤ i := by
      rw [List.length_append]
      exact hgt
    rw [List.getElem?_eq_none hlen, List.getElem?_eq_none (Nat.le_of_lt hgt)]
    exact ⟨nofun, fun h => absurd (h.resolve_left nofun).1 (Nat.ne_of_gt hgt)⟩

namespace GraphDef

/-- The names of the nodes with their ops. -/
def labels (g : GraphDef) : List (String × Op) :=
  g.nodes.map fun n => (n.name, n.op)

/-- The table of names has the position of each node under its name, and no other entry. -/
def Named (g : GraphDef) : Prop :=
  ∀ name i, g.names.get? name = some i ↔ ∃ op, g.labels[i]? = some (name, op)

/-- A label is that of the node at its position. -/
theorem getElem?_labels {g : GraphDef} {i : Nat} {name : String} {op : Op} :
    g.labels[i]? = some (name, op) ↔ ∃ n, g.nodes[i]? = some n ∧ n.name = name ∧ n.op = op := by
  simp [labels]

section
variable {g : GraphDef} {op : Op} {name device : String} {outDTypes : List DType}
  {inputs : List (Nat × Nat)} {attributes : List (String × AttrValue)}

/-- Linking edges to their sources changes no name and no op. -/
theorem map_label_linkSources (nodes : List NodeDef) (first : Nat) (es : List Edge) :
    (linkSources nodes first es).map (fun n => (n.name, n.op)) =
      nodes.map fun n => (n.name, n.op) := by
  refine List.ext_getElem? fun i => ?_
  rw [List.getElem?_map, getElem?_linkSources, List.getElem?_map, Option.map_map]
  rfl

/-- A commit adds its name and op behind those of the other nodes. -/
theorem labels_commit :
    (g.commit op name device outDTypes inputs attributes).2.labels = g.labels ++ [(name, op)] := by
  rw [labels, commit, List.map_append, map_label_linkSources]
  rfl

theorem named_empty (id : GraphId) : Named { id } := by
  intro name i
  exact ⟨nofun, nofun⟩

/-- A commit under a free name keeps the table of names right. -/
theorem Named.commit (h : g.Named) (hfree : name ∉ g.names.keys) :
    (g.commit op name device outDTypes inputs attributes).2.Named := by
  intro other i
  have hlen : g.labels.length = g.nodes.length := List.length_map _
  have hnames : (g.commit op name device outDTypes inputs attributes).2.names =
      g.names.insert name g.nodes.length := rfl
  simp only [labels_commit, hnames, Table.get?_insert, getElem?_concat_eq_some_iff, hlen]
  by_cases hname : name = other
  · subst hname
    have hnone : ∀ op', g.labels[i]? ≠ some (name, op') := fun op' hlabel =>
      hfree (Table.mem_keys_of_get? ((h name i).2 ⟨op', hlabel⟩))
    simp [hnone, eq_comm]
  · simp [hname, h other i]

end

/-- Nodes of one name are at one position. -/
theorem Named.unique {g : GraphDef} (h : g.Named) {i j : Nat} {name : String} {op op' : Op}
    (hi : g.labels[i]? = some (name, op)) (hj : g.labels[j]? = some (name, op')) : i = j := by
  have hget := (h name i).2 ⟨op, hi⟩
  rw [(h name j).2 ⟨op', hj⟩] at hget
  exact (Option.some.inj hget).symm

/-- A node is told by its name. -/
theorem Named.eq_of_name_eq {g : GraphDef} (h : g.Named) {i j : Nat} {n n' : NodeDef}
    (hn : g.nodes[i]? = some n) (hn' : g.nodes[j]? = some n') (hname : n.name = n'.name) : i = j :=
  h.unique (getElem?_labels.2 ⟨n, hn, hname, rfl⟩) (getElem?_labels.2 ⟨n', hn', rfl, rfl⟩)

end GraphDef

/-! ## Runs -/

/-- A call of a builder keeps the table of names right. -/
theorem NodeBuilder.Turn.named {b b' : NodeBuilder} {call : NodeBuilder.Call}
    {answer : Except Error (Option NodeHandle)} (hturn : b.Turn call answer b')
    (h : b.graph.Named) : b'.graph.Named := by
  cases hturn with
  | refused | failed | input | name | attr | reset => exact h
  | build => exact h.commit (b.graph.uniqueName_notMem _)

/-- A call of a builder leaves every node in its place, under its name and with its op. -/
theorem NodeBuilder.Turn.labels {b b' : NodeBuilder} {call : NodeBuilder.Call}
    {answer : Except Error (Option NodeHandle)} (hturn : b.Turn call answer b') :
    b.graph.labels <+: b'.graph.labels := by
  cases hturn with
  | refused | failed | input | name | attr | reset => exact List.prefix_rfl
  | build => exact GraphDef.labels_commit ▸ List.prefix_append ..

/-- The table of names is right after every run of builders. -/
theorem Assembly.named_perform {a : Assembly} (h : a.graph.Named) (step : Step) :
    (a.perform step).2.graph.Named :=
  perform_keeps (P := fun a => a.graph.Named) h step (fun _ h => h) (fun _ _ _ _ _ _ _ _ h => h)
    fun hturn h => hturn.named h

/-- After every run of builders the table finds the nodes by their names. -/
theorem Assembly.named_run (id : GraphId) (steps : List Step) : (run id steps).graph.Named :=
  Run.after_induction (P := fun a : Assembly => a.graph.Named) steps (GraphDef.named_empty id)
    fun _ step h => named_perform h step

/-- A step of an assembly keeps the names and the ops of the nodes. -/
theorem Assembly.labels_perform (a : Assembly) (step : Step) :
    a.graph.labels <+: (a.perform step).2.graph.labels :=
  perform_keeps (P := fun a' => a.graph.labels <+: a'.graph.labels) List.prefix_rfl step
    (fun _ h => h) (fun _ _ _ _ _ _ _ _ h => h) fun hturn h => h.trans hturn.labels

namespace Workshop

/-- The table of names is right after every run. -/
theorem named_run (id : GraphId) (steps : List Step) : (run id steps).assembly.graph.Named := by
  obtain ⟨steps', hrun⟩ := exists_assembly_run id steps
  rw [hrun]
  exact Assembly.named_run id steps'

/-- A node stays where it is, under its name and with its op, in every longer run. -/
theorem labels_run_append (id : GraphId) (steps more : List Step) :
    (run id steps).assembly.graph.labels <+: (run id (steps ++ more)).assembly.graph.labels := by
  rw [run, run, Run.after_append]
  refine Run.after_induction (P := fun w : Workshop =>
    (run id steps).assembly.graph.labels <+: w.assembly.graph.labels) more List.prefix_rfl ?_
  intro w step h
  rcases w.assembly_perform step with hsame | ⟨step', hstep⟩
  · rwa [hsame]
  · rw [hstep]
    exact h.trans (w.assembly.labels_perform step')

end Workshop

end Dataflow
