import Dataflow.Graph.Compilation
import Dataflow.Proofs.Graph.Validation

/-!
# What compilation binds

Compilation resolves node after node (`GraphDef.Compiles`, `GraphDef.compile_eq_ok_iff`), and an
error that it answers comes from validation, from a look-up or from the constructor of a kernel. A
consistent graph passes validation, which leaves the others
(`GraphDef.Consistent.compile_eq_error`); graphs that builders have assembled are consistent.

The signature of a node is read off the edges that the node lists: those that lead nowhere bring
nothing, and the others are put into the order of their slots. If the node lists the edges into its
input slots, one for each and in any order (`GraphDef.Fed`) and each brings an element type
(`GraphDef.Served`), then one element type arrives at each slot, and the signature has it at this
place (`GraphDef.Served.getElem?_inputDTypes`). In a consistent graph every node that is fed is
served (`GraphDef.Consistent.served`), and in assembled graphs all nodes are.
-/

namespace Dataflow

/-! ## The signature of a node -/

/-- Putting an input into its place is an insertion ordered by slots. -/
theorem insertBySlot_eq (x : Nat × DType) (xs : List (Nat × DType)) :
    insertBySlot x xs = xs.orderedInsert (·.1 ≤ ·.1) x := by
  induction xs with
  | nil => rfl
  | cons y rest ih => rw [insertBySlot, ih, List.orderedInsert_cons]

/-- Putting inputs into their places one after the other sorts them by slots. -/
theorem foldr_insertBySlot (xs : List (Nat × DType)) :
    xs.foldr insertBySlot [] = xs.insertionSort (·.1 ≤ ·.1) := by
  induction xs with
  | nil => rfl
  | cons x rest ih => rw [List.foldr_cons, ih, insertBySlot_eq, List.insertionSort_cons]

/-- Pairs whose first parts are the numbers below `count`, sorted by them: the pair at a place
starts with its number. -/
theorem getElem?_insertionSort_map_snd {α : Type} {xs : List (Nat × α)} {count : Nat}
    (h : (xs.map (·.1)).Perm (List.range count)) {k : Nat} {x : α} :
    ((xs.insertionSort (·.1 ≤ ·.1)).map (·.2))[k]? = some x ↔ (k, x) ∈ xs := by
  have hslots : (xs.insertionSort (·.1 ≤ ·.1)).map (·.1) = List.range count := by
    rw [List.map_insertionSort _ (· ≤ ·) _ _ fun _ _ _ _ => Iff.rfl]
    refine List.Perm.eq_of_pairwise' (r := (· ≤ ·)) (List.pairwise_insertionSort _ _)
      List.pairwise_le_range ((List.perm_insertionSort _ _).trans h)
  have hplace : ∀ i (p : Nat × α), (xs.insertionSort (·.1 ≤ ·.1))[i]? = some p → p.1 = i := by
    intro i p hp
    have hi : ((xs.insertionSort (·.1 ≤ ·.1)).map (·.1))[i]? = some p.1 := by
      rw [List.getElem?_map, hp, Option.map_some]
    rw [hslots, List.getElem?_eq_some_iff] at hi
    obtain ⟨hlt, hi⟩ := hi
    rw [← hi, List.getElem_range]
  rw [List.getElem?_map, Option.map_eq_some_iff, ← List.mem_insertionSort (·.1 ≤ ·.1)]
  constructor
  · rintro ⟨p, hp, rfl⟩
    rw [← hplace k p hp]
    exact List.mem_of_getElem? hp
  · intro hmem
    obtain ⟨i, hi⟩ := List.getElem?_of_mem hmem
    obtain rfl := hplace i _ hi
    exact ⟨_, hi, rfl⟩

namespace GraphDef

/-- An edge brings element type `t` to input slot `k` of node `i`. -/
def Arrives (g : GraphDef) (i k : Nat) (t : DType) : Prop :=
  ∃ e ∈ g.edges, e.dest = i ∧ e.destSlot = k ∧
    ∃ src, g.nodes[e.src]? = some src ∧ src.outDTypes[e.srcSlot]? = some t

/-- A node that is fed as its op asks, by edges that bring an element type. -/
structure Served (g : GraphDef) (i : Nat) (n : NodeDef) : Prop extends g.Fed i n where
  typed : ∀ k < n.op.numInputs, ∃ t, g.Arrives i k t

/-- What an edge brings is the element type of the output slot that it leaves. -/
theorem arrival?_eq_some_iff {g : GraphDef} {e : Edge} {k : Nat} {t : DType} :
    g.arrival? e = some (k, t) ↔
      e.destSlot = k ∧ ∃ src, g.nodes[e.src]? = some src ∧ src.outDTypes[e.srcSlot]? = some t := by
  unfold arrival?
  cases hsrc : g.nodes[e.src]? with
  | none => simp
  | some src =>
    cases ht : src.outDTypes[e.srcSlot]? with
    | none => simp [ht]
    | some t => simp [ht, eq_comm]

/-- What the edges that a node lists bring to it, in the order of the list. -/
def arrivals (g : GraphDef) (n : NodeDef) : List (Nat × DType) :=
  n.inEdges.filterMap fun j => g.edges[j]?.bind g.arrival?

/-- The signature of a node is what arrives at it, sorted by slots. -/
theorem inputDTypes_eq (g : GraphDef) (n : NodeDef) :
    g.inputDTypes n = ((g.arrivals n).insertionSort (·.1 ≤ ·.1)).map (·.2) := by
  unfold inputDTypes arrivals
  simp only [foldr_insertBySlot, List.filterMap_filterMap]

section served
variable {g : GraphDef} {i : Nat} {n : NodeDef}

/-- A listed edge enters the input slot at which it arrives. -/
theorem Served.enters_of_arrival (h : g.Served i n) {j : Nat} (hj : j ∈ n.inEdges)
    {p : Nat × DType} (hp : g.edges[j]?.bind g.arrival? = some p) :
    p.1 < n.op.numInputs ∧ g.Enters j i p.1 := by
  obtain ⟨e, he, harrival⟩ := Option.bind_eq_some_iff.1 hp
  obtain ⟨k, hk, e', he', hdest, hslot⟩ := (h.listed j).1 hj
  rw [he, Option.some.injEq] at he'
  subst he'
  obtain rfl : k = p.1 := hslot.symm.trans (arrival?_eq_some_iff.1 harrival).1
  exact ⟨hk, e, he, hdest, hslot⟩

/-- What arrives at a node is what the edges into its input slots bring. -/
theorem Served.mem_arrivals (h : g.Served i n) {k : Nat} {t : DType} :
    (k, t) ∈ g.arrivals n ↔ k < n.op.numInputs ∧ g.Arrives i k t := by
  rw [arrivals, List.mem_filterMap]
  constructor
  · rintro ⟨j, hj, hp⟩
    obtain ⟨hk, e, he, hdest, -⟩ := h.enters_of_arrival hj hp
    rw [he, Option.bind_some, arrival?_eq_some_iff] at hp
    exact ⟨hk, e, List.mem_of_getElem? he, hdest, hp⟩
  · rintro ⟨hk, e, he, hdest, hslot, hsrc⟩
    obtain ⟨j, hj⟩ := List.getElem?_of_mem he
    refine ⟨j, (h.listed j).2 ⟨k, hk, e, hj, hdest, hslot⟩, ?_⟩
    rw [hj, Option.bind_some, arrival?_eq_some_iff]
    exact ⟨hslot, hsrc⟩

/-- Something arrives once at each input slot of a node that is served. -/
theorem Served.perm_arrivals (h : g.Served i n) :
    ((g.arrivals n).map (·.1)).Perm (List.range n.op.numInputs) := by
  have hnodup : ((g.arrivals n).map (·.1)).Nodup := by
    rw [List.Nodup, List.pairwise_map, arrivals, List.pairwise_filterMap]
    refine h.once.imp_of_mem fun {j j'} hj hj' hne p hp p' hp' heq => hne ?_
    -- both edges enter the slot that they have in common, and only one does
    obtain ⟨hk, henters⟩ := h.enters_of_arrival hj hp
    obtain ⟨-, henters'⟩ := h.enters_of_arrival hj' hp'
    rw [← heq] at henters'
    exact (h.slots _ hk).unique henters henters'
  refine (List.perm_ext_iff_of_nodup hnodup List.nodup_range).2 fun k => ?_
  rw [List.mem_map, List.mem_range]
  constructor
  · rintro ⟨⟨k, t⟩, hmem, rfl⟩
    exact (h.mem_arrivals.1 hmem).1
  · intro hk
    obtain ⟨t, ht⟩ := h.typed k hk
    exact ⟨(k, t), h.mem_arrivals.2 ⟨hk, ht⟩, rfl⟩

/-- The signature of a node that is served has an element type for each input slot. -/
theorem Served.length_inputDTypes (h : g.Served i n) :
    (g.inputDTypes n).length = n.op.numInputs := by
  have hlen := h.perm_arrivals.length_eq
  rw [List.length_map, List.length_range] at hlen
  rw [inputDTypes_eq, List.length_map, List.length_insertionSort, hlen]

/-- The signature of a node that is served has at each place what arrives at this slot. -/
theorem Served.getElem?_inputDTypes (h : g.Served i n) {k : Nat} {t : DType} :
    (g.inputDTypes n)[k]? = some t ↔ k < n.op.numInputs ∧ g.Arrives i k t := by
  rw [inputDTypes_eq, getElem?_insertionSort_map_snd h.perm_arrivals, h.mem_arrivals]

/-- A node that is fed is served if the edges into its input slots leave output slots with an
element type. -/
theorem Fed.served (h : g.Fed i n)
    (htyped : ∀ k < n.op.numInputs, ∀ e ∈ g.edges, e.dest = i → e.destSlot = k →
      ∃ src t, g.nodes[e.src]? = some src ∧ src.outDTypes[e.srcSlot]? = some t) :
    g.Served i n where
  toFed := h
  typed k hk := by
    obtain ⟨j, ⟨e, he, hdest, hslot⟩, -⟩ := h.slots k hk
    have hmem := List.mem_of_getElem? he
    obtain ⟨src, t, hsrc, ht⟩ := htyped k hk e hmem hdest hslot
    exact ⟨t, e, hmem, hdest, hslot, src, hsrc, ht⟩

/-- In a consistent graph every edge leaves an output slot with an element type. -/
theorem Consistent.exists_source (h : g.Consistent) {e : Edge} (he : e ∈ g.edges) :
    ∃ src t, g.nodes[e.src]? = some src ∧ src.outDTypes[e.srcSlot]? = some t := by
  obtain ⟨j, hj⟩ := List.getElem?_of_mem he
  obtain ⟨src, -, hsrc, -, hslot, -⟩ := h.linked j e hj
  rw [← (h.nodes e.src src hsrc).2] at hslot
  exact ⟨src, _, hsrc, List.getElem?_eq_getElem hslot⟩

/-- In a consistent graph every node that is fed is served. -/
theorem Consistent.served (h : g.Consistent) (hfed : g.Fed i n) : g.Served i n :=
  hfed.served fun _ _ _ he _ _ => h.exists_source he

/-- In a well-formed graph every node is fed as its op asks. -/
theorem WellFormed.fed (h : g.WellFormed) (hn : g.nodes[i]? = some n) : g.Fed i n := by
  refine h.consistent.fed_of_slots hn fun k hk => ?_
  rw [← h.inputs n (List.mem_of_getElem? hn)] at hk
  exact ⟨_, (h.entering i n hn k _).1 (List.getElem?_eq_getElem hk)⟩

end served

/-! ## The kernel of a node -/

section compile
variable {g : GraphDef} {book : KernelBook} {r : DeviceRegistry} {n : NodeDef} {e : Error}

/-- A kernel fits a node if it is for the type of the device and has the signature of the node. -/
theorem fits_iff {deviceType : String} {k : KernelDef} :
    g.fits n deviceType k = true ↔
      k.deviceType = deviceType ∧ k.signature (byOutputs n) = g.key n := by
  simp [fits]

/-- The kernel that is chosen fits the node, and none before it does. -/
theorem resolveKernel_eq_ok_iff {kernels : List KernelDef} {d : Device} {p : Nat} {k : KernelDef} :
    g.resolveKernel kernels n d = .ok (p, k) ↔
      kernels[p]? = some k ∧ g.fits n d.type k = true ∧
        ∀ q < p, ∀ k', kernels[q]? = some k' → g.fits n d.type k' = false := by
  have hfind : g.resolveKernel kernels n d = .ok (p, k) ↔
      kernels.zipIdx.find? (fun kp => g.fits n d.type kp.1) = some (k, p) := by
    unfold resolveKernel
    split
    · rename_i k' p' hfind
      simp [hfind, and_comm]
    · rename_i hfind
      simp [hfind]
  rw [hfind, List.find?_eq_some_iff_getElem]
  simp only [List.getElem_zipIdx, Nat.zero_add, List.length_zipIdx, Prod.mk.injEq,
    Bool.not_eq_true']
  constructor
  · rintro ⟨hfits, p', hlt, ⟨hk, rfl⟩, hbefore⟩
    refine ⟨List.getElem?_eq_some_iff.2 ⟨hlt, hk⟩, hfits, fun q hq k' hk' => ?_⟩
    obtain ⟨-, rfl⟩ := List.getElem?_eq_some_iff.1 hk'
    exact hbefore q hq
  · rintro ⟨hk, hfits, hbefore⟩
    obtain ⟨hlt, hk⟩ := List.getElem?_eq_some_iff.1 hk
    exact ⟨hfits, p, hlt, ⟨hk, rfl⟩, fun q hq =>
      hbefore q hq _ (List.getElem?_eq_getElem (Nat.lt_trans hq hlt))⟩

/-- No kernel is chosen just if none fits, and the error tells for what there is none. -/
theorem resolveKernel_eq_error_iff {kernels : List KernelDef} {d : Device} :
    g.resolveKernel kernels n d = .error e ↔
      (∀ k ∈ kernels, g.fits n d.type k = false) ∧
        e = .kernelNotFound n.name n.op.name d.type (g.key n) := by
  unfold resolveKernel
  split
  · rename_i k p hfind
    have hk := List.fst_mem_of_mem_zipIdx (List.mem_of_find?_eq_some hfind)
    have hfits := List.find?_some hfind
    simp only [reduceCtorEq, false_iff, not_and]
    exact fun hnone => absurd hfits (Bool.eq_false_iff.1 (hnone k hk))
  · rename_i hfind
    rw [List.find?_eq_none] at hfind
    have hnone : ∀ k ∈ kernels, g.fits n d.type k = false := by
      intro k hk
      obtain ⟨p, hp⟩ := List.getElem?_of_mem hk
      exact Bool.eq_false_iff.2 (hfind (k, p) (List.mk_mem_zipIdx_iff_getElem?.2 hp))
    exact ⟨fun h => ⟨hnone, by cases h; rfl⟩, fun ⟨_, h⟩ => by rw [h]⟩

/-- Which kernel is chosen, or why none is, depends on the op, the name and the signature of a
node. -/
theorem resolveKernel_congr {g' : GraphDef} {n' : NodeDef} (hop : n'.op = n.op)
    (hname : n'.name = n.name) (hkey : g'.key n' = g.key n) (kernels : List KernelDef)
    (d : Device) :
    g'.resolveKernel kernels n' d = g.resolveKernel kernels n d := by
  have hfits : ∀ k, g'.fits n' d.type k = g.fits n d.type k := by
    intro k
    rw [fits, fits, hkey, byOutputs, byOutputs, hop]
  simp only [resolveKernel, hfits, hkey, hop, hname]

/-- A node is bound to the device of the name that it asks for and to the kernel that is chosen. -/
theorem bind_eq_ok_iff {b : Binding} :
    g.bind book r n = .ok b ↔
      r.getDevice n.device = .ok b.device ∧
        g.resolveKernel (book.kernels n.op) n b.device = .ok (b.choice, b.kernelDef) := by
  unfold bind
  constructor
  · intro h
    obtain ⟨d, hd, h⟩ := except_bind_eq_ok.1 h
    obtain ⟨⟨p, k⟩, hk, h⟩ := except_bind_eq_ok.1 h
    cases h
    exact ⟨hd, hk⟩
  · rintro ⟨hd, hk⟩
    exact except_bind_eq_ok.2 ⟨_, hd, except_bind_eq_ok.2 ⟨_, hk, rfl⟩⟩

/-- A node is not bound if its device is missing or no kernel fits. -/
theorem bind_eq_error (h : g.bind book r n = .error e) :
    e = .deviceNotFound n.device ∨
      ∃ d, r.getDevice n.device = .ok d ∧
        e = .kernelNotFound n.name n.op.name d.type (g.key n) := by
  rcases except_bind_eq_error.1 h with hd | ⟨d, hd, h⟩
  · unfold DeviceRegistry.getDevice at hd
    split at hd
    · cases hd
    · exact .inl (Except.error.inj hd).symm
  · rcases except_bind_eq_error.1 h with hk | ⟨⟨p, k⟩, -, h⟩
    · exact .inr ⟨d, hd, (resolveKernel_eq_error_iff.1 hk).2⟩
    · cases h

/-! ## Node after node -/

/-- Node `m` is what becomes of node `n`: it is bound, and its kernel is constructed. -/
def Compiles (g : GraphDef) (book : KernelBook) (r : DeviceRegistry) (n : NodeDef) (m : Node) :
    Prop :=
  ∃ b kernel, g.bind book r n = .ok b ∧ b.kernelDef.construct (g.context n) = .ok kernel ∧
    m = instantiate n b kernel

/-- Nodes compile if the first is bound, its kernel is constructed and the others compile. -/
theorem compileNodes_cons_eq_ok_iff {rest : List NodeDef} {compiled : List Node} :
    (g.compileNodes book r (n :: rest)).2 = .ok compiled ↔
      ∃ m, g.Compiles book r n m ∧
        ∃ ms, (g.compileNodes book r rest).2 = .ok ms ∧ compiled = m :: ms := by
  rw [compileNodes]
  constructor
  · intro h
    split at h
    · cases h
    · rename_i b hb
      split at h
      · cases h
      · rename_i kernel hk
        obtain ⟨ms, hms, hcons⟩ := except_map_eq_ok.1 h
        exact ⟨_, ⟨b, kernel, hb, hk, rfl⟩, ms, hms, hcons.symm⟩
  · rintro ⟨m, ⟨b, kernel, hb, hk, rfl⟩, ms, hms, rfl⟩
    simp only [hb, hk]
    exact except_map_eq_ok.2 ⟨ms, hms, rfl⟩

/-- Nodes compile if each does. -/
theorem compileNodes_eq_ok_iff {nodes : List NodeDef} {compiled : List Node} :
    (g.compileNodes book r nodes).2 = .ok compiled ↔
      List.Forall₂ (g.Compiles book r) nodes compiled := by
  induction nodes generalizing compiled with
  | nil => simp [compileNodes, eq_comm]
  | cons n rest ih =>
    rw [compileNodes_cons_eq_ok_iff, List.forall₂_cons_left_iff]
    constructor
    · rintro ⟨m, hm, ms, hms, rfl⟩
      exact ⟨m, ms, hm, ih.1 hms, rfl⟩
    · rintro ⟨m, ms, hm, hms, rfl⟩
      exact ⟨m, hm, ms, ih.2 hms, rfl⟩

/-- If nodes do not compile, one of them is not bound, or the constructor of a kernel fails. -/
theorem compileNodes_eq_error {nodes : List NodeDef}
    (h : (g.compileNodes book r nodes).2 = .error e) :
    (∃ n ∈ nodes, g.bind book r n = .error e) ∨
      ∃ c ∈ (g.compileNodes book r nodes).1, c.kernelDef.construct c.context = .error e := by
  induction nodes with
  | nil => cases h
  | cons n rest ih =>
    rw [compileNodes] at h ⊢
    cases hb : g.bind book r n with
    | error e' =>
      rw [hb] at h
      cases h
      exact .inl ⟨n, List.mem_cons_self, hb⟩
    | ok b =>
      simp only [hb] at h ⊢
      cases hk : b.kernelDef.construct (g.context n) with
      | error e' =>
        simp only [hk] at h ⊢
        cases h
        exact .inr ⟨_, List.mem_singleton_self _, hk⟩
      | ok kernel =>
        simp only [hk] at h ⊢
        rcases ih (except_map_eq_error.1 h) with ⟨n', hn', he⟩ | ⟨c, hc, he⟩
        · exact .inl ⟨n', List.mem_cons_of_mem _ hn', he⟩
        · exact .inr ⟨c, List.mem_cons_of_mem _ hc, he⟩

/-- A graph compiles if it is consistent and all its nodes compile. -/
theorem compile_eq_ok_iff {graph : Graph} :
    (g.compile book r).2 = .ok graph ↔
      g.Consistent ∧ List.Forall₂ (g.Compiles book r) g.nodes graph.nodes ∧
        graph.edges = g.edges ∧ graph.attributes = g.attributes := by
  rw [← isOk_validate_iff, ← compileNodes_eq_ok_iff, compile]
  cases hv : g.validate with
  | error e => simp
  | ok found =>
    constructor
    · intro h
      obtain ⟨nodes, hnodes, rfl⟩ := except_map_eq_ok.1 h
      exact ⟨⟨found, rfl⟩, hnodes, rfl, rfl⟩
    · rintro ⟨-, hnodes, hedges, hattributes⟩
      refine except_map_eq_ok.2 ⟨graph.nodes, hnodes, ?_⟩
      rw [← hedges, ← hattributes]

/-- If a consistent graph does not compile, a node lacks its device or a kernel, or the constructor
of a kernel fails. -/
theorem Consistent.compile_eq_error (hg : g.Consistent) (h : (g.compile book r).2 = .error e) :
    (∃ n ∈ g.nodes, e = .deviceNotFound n.device) ∨
      (∃ n ∈ g.nodes, ∃ d, r.getDevice n.device = .ok d ∧
        e = .kernelNotFound n.name n.op.name d.type (g.key n)) ∨
      ∃ c ∈ (g.compile book r).1, c.kernelDef.construct c.context = .error e := by
  obtain ⟨found, hv⟩ := isOk_validate_iff.2 hg
  simp only [compile, hv] at h ⊢
  rcases compileNodes_eq_error (except_map_eq_error.1 h) with ⟨n, hn, hb⟩ | hc
  · rcases bind_eq_error hb with he | ⟨d, hd, he⟩
    · exact .inl ⟨n, hn, he⟩
    · exact .inr (.inl ⟨n, hn, d, hd, he⟩)
  · exact .inr (.inr hc)

end compile

/-- The answer of an update is that of the compilation, without the graph. -/
theorem update_eq_error_iff {target : Graph} {g : GraphDef} {book : KernelBook}
    {r : DeviceRegistry} {e : Error} :
    (target.update g book r).2.1 = .error e ↔ (g.compile book r).2 = .error e := by
  unfold Graph.update
  split
  · rename_i h
    simp [h]
  · rename_i h
    simp [h]

end GraphDef

/-- **Assembled graphs are valid.** Validation accepts the graph after every run of builders,
whatever their steps were and whether they have failed. So neither compiling the graph nor updating
an executable graph by it answers that it is malformed, with whichever kernels and devices, but to
hand on what the constructor of a kernel has answered. -/
theorem Assembly.validate_run (id : GraphId) (steps : List Step) :
    (∃ found, (run id steps).graph.validate = .ok found) ∧
      ∀ (book : KernelBook) (r : DeviceRegistry) (target : Graph) (i : Nat) (defect : Defect),
        (((run id steps).graph.compile book r).2 = .error (.malformedGraph i defect) ∨
          (target.update (run id steps).graph book r).2.1 = .error (.malformedGraph i defect)) →
        ∃ c ∈ ((run id steps).graph.compile book r).1,
          c.kernelDef.construct c.context = .error (.malformedGraph i defect) := by
  have hg := (sound_run id steps).graph.consistent
  refine ⟨GraphDef.isOk_validate_iff.2 hg, fun book r target i defect h => ?_⟩
  rw [GraphDef.update_eq_error_iff, or_self] at h
  rcases hg.compile_eq_error h with ⟨n, -, he⟩ | ⟨n, -, d, -, he⟩ | hc
  · cases he
  · cases he
  · exact hc

/-- An op without inputs, with the serial number zero. -/
def constOp : Op :=
  ⟨0, "const", 0, [], [Layout.ofDims [1]]⟩

/-- A registry with this op. -/
def oneOp : OpRegistry where
  ops := ({} : Table String Op).insert "const" constOp

/-- A registry with one device. -/
def oneDevice : DeviceRegistry where
  devices := ({} : Table String Device).insert "CPU:0"
    ⟨0, "CPU:0", "CPU", { grant := fun _ _ => none }⟩
  next := 1

/-- Steps that build one node. -/
def Assembly.loneSteps : List Step := [
  .start "const" "CPU:0" oneOp oneDevice,
  .call (.build [.float])]

/-- Kernels of which the only one finds fault with the graph of every node that it is constructed
for. -/
def faultFinders : KernelBook :=
  ({} : KernelBook).push constOp {
    deviceType := "CPU", inputs := [], outputs := [.float]
    construct := fun _ => .error (.malformedGraph 0 (.nodeNumber 1)) }

/-- Assembled graphs are valid, yet compiling one, or updating by it, can answer that it is
malformed: constructors answer what they like, and compilation hands it on. So it does not hold of
all kernels that the answer is never this one. -/
theorem Assembly.compile_faultFinders :
    (run ⟨0⟩ loneSteps).graph.validate = .ok ⟨[[]], [0], [0]⟩ ∧
      ((run ⟨0⟩ loneSteps).graph.compile faultFinders oneDevice).2 =
        .error (.malformedGraph 0 (.nodeNumber 1)) ∧
      (({} : Graph).update (run ⟨0⟩ loneSteps).graph faultFinders oneDevice).2.1 =
        .error (.malformedGraph 0 (.nodeNumber 1)) ∧
      ¬ ∀ (id : GraphId) (steps : List Step) (book : KernelBook) (r : DeviceRegistry) (i : Nat)
          (defect : Defect),
        ((run id steps).graph.compile book r).2 ≠ .error (.malformedGraph i defect) :=
  ⟨rfl, rfl, rfl, fun hnever => hnever ⟨0⟩ loneSteps faultFinders oneDevice 0 (.nodeNumber 1) rfl⟩

end Dataflow
