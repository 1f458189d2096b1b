import Mathlib.Data.List.Forall2
import Dataflow.Graph.Drawing
import Dataflow.Proofs.Text.Decimal

/-!
# The drawing of a graph

The drawing of any graph is read back line by line (`GraphDef.toDot_reads`), whatever the names of
its nodes, ops and devices hold. The readers know the fixed text of a line and nothing of the
graph: one reads a node's line up to the opening quote of its label (`openNode?`), one an edge's
line (`readEdge?`), and `readLabel?` reads a label to the first quote that no backslash escapes.
What stands outside of the quoted texts is fixed by the numbers of the nodes and by the edges
(`bareLines`), so no name closes its label or adds a statement.
-/

namespace Dataflow.Drawing

/-! ## Readers of lines -/

/-- Reads the line of a node up to the opening quote of its label: the number of the node, its
colour, and the text behind the quote. -/
def openNode? (line : List Char) : Option (Nat × List Char × List Char) := do
  let line ← line.dropPrefix? "  node_".toList
  let (id, line) ← Text.takeNat? line
  let line ← line.dropPrefix? " [shape=box,style=\"rounded,filled\",fillcolor=\"".toList
  let (colour, line) ← readLabel? line
  let line ← line.dropPrefix? ",label=\"".toList
  return (id, colour, line)

/-- Reads the line of an edge. -/
def readEdge? (line : List Char) : Option Edge := do
  let line ← line.dropPrefix? "  node_".toList
  let (src, line) ← Text.takeNat? line
  let line ← line.dropPrefix? " -> node_".toList
  let (dest, line) ← Text.takeNat? line
  let line ← line.dropPrefix? " [label=\"out".toList
  let (srcSlot, line) ← Text.takeNat? line
  let line ← line.dropPrefix? " -> in".toList
  let (destSlot, line) ← Text.takeNat? line
  if line = "\"];".toList then some { src, srcSlot, dest, destSlot } else none

/-- What the label of a node says: the name and the number of the node, its op, its device, and the
element types of its outputs. -/
def labelText (n : NodeDef) : String :=
  n.name ++ " (#" ++ toString n.id ++ ")\n" ++
    "op: " ++ n.op.name ++ "\n" ++
    "device: " ++ n.device ++ "\n" ++
    ", ".intercalate (n.outDTypes.map DType.name)

/-- A line on which a node is read back. Its label is what stands before the first quote that no
backslash escapes. -/
def ReadsNode (n : NodeDef) (line : List Char) : Prop :=
  ∃ label, openNode? line = some (n.id, (fill n).toList, label ++ '"' :: "];".toList) ∧
    '\n' ∉ label ∧
    readLabel? (label ++ '"' :: "];".toList) = some ((labelText n).toList, "];".toList)

theorem dropPrefix?_append (piece rest : List Char) :
    (piece ++ rest).dropPrefix? piece = some rest :=
  List.dropPrefix?_append_of_beq rest (beq_self_eq_true piece)

/-! ## The lines, piece by piece -/

/-- No colour needs an escape. -/
theorem escape_fill (n : NodeDef) : (fill n).toList.flatMap escapeChar = (fill n).toList := by
  unfold fill
  split
  · rfl
  split <;> rfl

/-- The lines of a label, joined. -/
theorem intercalate_labelLines (n : NodeDef) : "\n".intercalate (labelLines n) = labelText n := by
  simp only [labelLines, labelText, String.intercalate_cons_cons, String.intercalate_singleton,
    String.append_assoc]
  rfl

/-- The line of a node in its pieces: fixed texts, the number, the colour and the escaped label. -/
theorem toList_nodeLine (n : NodeDef) : (nodeLine n).toList =
    "  node_".toList ++ ((toString n.id).toList ++
      (" [shape=box,style=\"rounded,filled\",fillcolor=\"".toList ++
        ((fill n).toList.flatMap escapeChar ++ '"' ::
          (",label=\"".toList ++
            ((labelText n).toList.flatMap escapeChar ++ '"' :: "];".toList))))) := by
  unfold nodeLine
  rw [escape_fill, intercalate_labelLines]
  simp only [String.toList_append, toList_escape, List.append_assoc]
  rfl

/-- The line of an edge in its pieces: fixed texts and four numbers. -/
theorem toList_edgeLine (e : Edge) : (edgeLine e).toList =
    "  node_".toList ++ ((toString e.src).toList ++ (" -> node_".toList ++
      ((toString e.dest).toList ++ (" [label=\"out".toList ++ ((toString e.srcSlot).toList ++
        (" -> in".toList ++ ((toString e.destSlot).toList ++ "\"];".toList))))))) := by
  unfold edgeLine
  simp only [String.toList_append, List.append_assoc]

/-- The line of a node gives the node's number and colour back, and then its label. -/
theorem readsNode_nodeLine (n : NodeDef) : ReadsNode n (nodeLine n).toList := by
  refine ⟨(labelText n).toList.flatMap escapeChar, ?_, newline_notMem_escape _,
    readLabel?_escape _ _⟩
  have hid := Text.takeNat?_toString n.id
    (show (" [shape=box,style=\"rounded,filled\",fillcolor=\"".toList.head?.any _) = true by rfl)
  simp only [toList_nodeLine, openNode?, dropPrefix?_append, hid, readLabel?_escape,
    Option.bind_eq_bind, Option.bind_some]
  rfl

/-- The line of an edge gives the edge back. -/
theorem readEdge?_edgeLine (e : Edge) : readEdge? (edgeLine e).toList = some e := by
  have hsrc := Text.takeNat?_toString e.src (show (" -> node_".toList.head?.any _) = true by rfl)
  have hdest := Text.takeNat?_toString e.dest
    (show (" [label=\"out".toList.head?.any _) = true by rfl)
  have hsrcSlot := Text.takeNat?_toString e.srcSlot
    (show (" -> in".toList.head?.any _) = true by rfl)
  have hdestSlot := Text.takeNat?_toString e.destSlot
    (show ("\"];".toList.head?.any _) = true by rfl) []
  rw [List.append_nil] at hdestSlot
  simp only [toList_edgeLine, readEdge?, dropPrefix?_append, hsrc, hdest, hsrcSlot, hdestSlot,
    Option.bind_eq_bind, Option.bind_some, if_true]

/-! ## The text as lines -/

/-- No line of a drawing holds a line end. -/
theorem newline_notMem_lines (g : GraphDef) : ∀ line ∈ lines g, '\n' ∉ line.toList := by
  have hnat := Text.notMem_toString (c := '\n') (by decide)
  intro line hline
  simp only [lines, List.mem_append, List.mem_map, List.mem_singleton] at hline
  obtain (((hline | ⟨n, -, rfl⟩) | rfl) | ⟨e, -, rfl⟩) | rfl := hline
  · revert line
    decide
  · simp only [toList_nodeLine, List.mem_append, List.mem_cons, hnat, newline_notMem_escape,
      false_or, not_or]
    decide
  · decide
  · simp only [toList_edgeLine, List.mem_append, hnat, false_or, not_or]
    decide
  · decide

/-- The drawing is its lines, each ended. -/
theorem toList_toDot (g : GraphDef) :
    g.toDot.toList = ((lines g).map String.toList).flatMap (· ++ ['\n']) := by
  rw [GraphDef.toDot, String.toList_join, List.flatMap_map, List.flatMap_map]
  simp only [String.toList_append]
  rfl

/-- Ended lines are told apart by the line ends. -/
theorem splitOn_ended {texts : List (List Char)} (h : ∀ text ∈ texts, '\n' ∉ text) :
    (texts.flatMap (· ++ ['\n'])).splitOn '\n' = texts ++ [[]] := by
  induction texts with
  | nil => rfl
  | cons text texts ih =>
    rw [List.flatMap_cons, List.append_assoc, List.singleton_append,
      List.splitOn_append_cons_self_of_not_mem (h text List.mem_cons_self),
      ih fun t ht => h t (List.mem_cons_of_mem text ht), List.cons_append]

/-! ## The text outside of quotes -/

/-- The text outside of quoted texts. Inside of one, told by the flag, a backslash takes the next
character along. -/
def outside : Bool → List Char → List Char
  | _, [] => []
  | false, '"' :: rest => outside true rest
  | false, c :: rest => c :: outside false rest
  | true, '"' :: rest => outside false rest
  | true, '\\' :: _ :: rest => outside true rest
  | true, _ :: rest => outside true rest

/-- What stands outside of quotes on the line of the node with a number. -/
def bareNodeLine (id : Nat) : String :=
  "  node_" ++ toString id ++ " [shape=box,style=,fillcolor=,label=];"

/-- What stands outside of quotes on the line of an edge. -/
def bareEdgeLine (e : Edge) : String :=
  "  node_" ++ toString e.src ++ " -> node_" ++ toString e.dest ++ " [label=];"

/-- What stands outside of quotes on the lines of a drawing. -/
def bareLines (g : GraphDef) : List String :=
  ["digraph graphloom \x7b", "  rankdir=LR;", "  node [fontname=];", "  edge [fontname=];", ""] ++
    g.nodes.map (bareNodeLine ·.id) ++ [""] ++ g.edges.map bareEdgeLine ++ ["\x7d"]

/-- Outside of quotes, a piece without a quote is kept. -/
theorem outside_append {s : List Char} (h : '"' ∉ s) (rest : List Char) :
    outside false (s ++ rest) = s ++ outside false rest := by
  induction s with
  | nil => rfl
  | cons c s ih =>
    rw [List.mem_cons, not_or] at h
    rw [List.cons_append, outside, ih h.2, List.cons_append]
    exact fun heq => h.1 heq.symm

/-- Inside of quotes, a piece without quotes and backslashes is dropped. -/
theorem outside_inner {s : List Char} (hquote : '"' ∉ s) (hslash : '\\' ∉ s) (rest : List Char) :
    outside true (s ++ rest) = outside true rest := by
  induction s with
  | nil => rfl
  | cons c s ih =>
    rw [List.mem_cons, not_or] at hquote hslash
    rw [List.cons_append, outside, ih hquote.2 hslash.2]
    · exact fun heq => hquote.1 heq.symm
    · exact fun _ _ heq => absurd heq.symm hslash.1

/-- Inside of quotes, an escaped character neither ends the quotes nor shows outside. -/
theorem outside_escapeChar (c : Char) (rest : List Char) :
    outside true (escapeChar c ++ rest) = outside true rest := by
  unfold escapeChar
  split
  · rfl
  split
  · rfl
  split
  · rfl
  · exact outside_inner (by simpa [eq_comm]) (by simpa [eq_comm]) rest

/-- An escaped text stays inside of its quotes. -/
theorem outside_escape (s rest : List Char) :
    outside true (s.flatMap escapeChar ++ '"' :: rest) = outside false rest := by
  induction s with
  | nil => rfl
  | cons c s ih => rw [List.flatMap_cons, List.append_assoc, outside_escapeChar, ih]

/-- What stands outside of quotes on a line, whatever follows the line. -/
def Bares (line bare : String) : Prop :=
  ∀ rest, outside false (line.toList ++ rest) = bare.toList ++ outside false rest

/-- Outside of quotes, the line of a node shows its number and nothing else of the node. -/
theorem bares_nodeLine (n : NodeDef) : Bares (nodeLine n) (bareNodeLine n.id) := by
  intro rest
  have hopen : ∀ rest, outside false
      (" [shape=box,style=\"rounded,filled\",fillcolor=\"".toList ++ rest) =
        " [shape=box,style=,fillcolor=".toList ++ outside true rest := fun _ => rfl
  have hlabel : ∀ rest, outside false (",label=\"".toList ++ rest) =
      ",label=".toList ++ outside true rest := fun _ => rfl
  have hclose : ∀ rest, outside false ("];".toList ++ rest) = "];".toList ++ outside false rest :=
    fun _ => rfl
  simp only [toList_nodeLine, List.append_assoc, List.cons_append]
  rw [outside_append (by decide), outside_append (Text.notMem_toString (by decide) _), hopen,
    outside_escape, hlabel, outside_escape, hclose]
  have hbare : " [shape=box,style=,fillcolor=,label=];".toList =
      " [shape=box,style=,fillcolor=".toList ++ (",label=".toList ++ "];".toList) := rfl
  simp only [bareNodeLine, String.toList_append, List.append_assoc, hbare]

/-- Outside of quotes, the line of an edge shows the numbers of its nodes. -/
theorem bares_edgeLine (e : Edge) : Bares (edgeLine e) (bareEdgeLine e) := by
  intro rest
  have hnumber := fun n => outside_inner (Text.notMem_toString (c := '"') (by decide) n)
    (Text.notMem_toString (by decide) n)
  have hopen : ∀ rest, outside false (" [label=\"out".toList ++ rest) =
      " [label=".toList ++ outside true rest := fun _ => rfl
  have harrow : ∀ rest, outside true (" -> in".toList ++ rest) = outside true rest := fun _ => rfl
  have hclose : ∀ rest, outside true ("\"];".toList ++ rest) = "];".toList ++ outside false rest :=
    fun _ => rfl
  simp only [toList_edgeLine, List.append_assoc]
  rw [outside_append (by decide), outside_append (Text.notMem_toString (by decide) _),
    outside_append (by decide), outside_append (Text.notMem_toString (by decide) _), hopen,
    hnumber, harrow, hnumber, hclose]
  have hbare : " [label=];".toList = " [label=".toList ++ "];".toList := rfl
  simp only [bareEdgeLine, String.toList_append, List.append_assoc, hbare]

/-- Line by line, in the order of the drawing. -/
theorem forall₂_bares (g : GraphDef) : List.Forall₂ Bares (lines g) (bareLines g) := by
  have hplain : ∀ line : String, '"' ∉ line.toList → Bares line line := fun _ h => outside_append h
  have hheader : List.Forall₂ Bares header
      ["digraph graphloom \x7b", "  rankdir=LR;", "  node [fontname=];", "  edge [fontname=];",
        ""] :=
    .cons (hplain _ (by decide)) <| .cons (hplain _ (by decide)) <| .cons (fun _ => rfl) <|
      .cons (fun _ => rfl) <| .cons (fun _ => rfl) .nil
  have hnodes : List.Forall₂ Bares (g.nodes.map nodeLine) (g.nodes.map (bareNodeLine ·.id)) :=
    List.forall₂_map_left_iff.2 <| List.forall₂_map_right_iff.2 <|
      List.forall₂_same.2 fun n _ => bares_nodeLine n
  have hedges : List.Forall₂ Bares (g.edges.map edgeLine) (g.edges.map bareEdgeLine) :=
    List.forall₂_map_left_iff.2 <| List.forall₂_map_right_iff.2 <|
      List.forall₂_same.2 fun e _ => bares_edgeLine e
  have hblank : List.Forall₂ Bares [""] [""] := .cons (fun _ => rfl) .nil
  have hclose : List.Forall₂ Bares ["\x7d"] ["\x7d"] := .cons (fun _ => rfl) .nil
  exact List.rel_append (List.rel_append (List.rel_append (List.rel_append hheader hnodes) hblank)
    hedges) hclose

/-- The text outside of quotes in lines that are ended. -/
theorem outside_ended {texts bare : List String} (h : List.Forall₂ Bares texts bare) :
    outside false (String.join (texts.map (· ++ "\n"))).toList =
      (String.join (bare.map (· ++ "\n"))).toList := by
  simp only [String.toList_join, List.flatMap_map, String.toList_append]
  induction h with
  | nil => rfl
  | cons hline _ ih =>
    rw [List.flatMap_cons, List.flatMap_cons, List.append_assoc, hline,
      outside_append (by decide), ih, List.append_assoc]

end Drawing

/-! ## The drawing as a whole -/

/-- The drawing of a graph has seven lines and one for each node and each edge, each of them ended:
the header, the nodes in order, a blank line, the edges in order and the closing brace. The line of
a node gives back the node's number and what its label says, and ends behind the label; the line of
an edge gives the edge back. Outside of quotes stands what the numbers of the nodes and the edges
fix. -/
theorem GraphDef.toDot_reads (g : GraphDef) : ∃ texts nodes edges : List (List Char),
    g.toDot.toList.splitOn '\n' = texts ++ [[]] ∧
    texts.length = 7 + g.nodes.length + g.edges.length ∧
    texts = Drawing.header.map String.toList ++ nodes ++ [[]] ++ edges ++ [['\x7d']] ∧
    List.Forall₂ Drawing.ReadsNode g.nodes nodes ∧
    edges.map Drawing.readEdge? = g.edges.map some ∧
    Drawing.outside false g.toDot.toList =
      (String.join ((Drawing.bareLines g).map (· ++ "\n"))).toList := by
  refine ⟨(Drawing.lines g).map String.toList, g.nodes.map fun n => (Drawing.nodeLine n).toList,
    g.edges.map fun e => (Drawing.edgeLine e).toList, ?_, ?_, ?_, ?_, ?_,
    Drawing.outside_ended (Drawing.forall₂_bares g)⟩
  · rw [Drawing.toList_toDot]
    refine Drawing.splitOn_ended fun text htext => ?_
    obtain ⟨line, hline, rfl⟩ := List.mem_map.1 htext
    exact Drawing.newline_notMem_lines g line hline
  · simp only [Drawing.lines, Drawing.header, List.length_map, List.length_append,
      List.length_cons, List.length_nil]
    omega
  · simp only [Drawing.lines, List.map_append, List.map_map]
    rfl
  · exact List.forall₂_map_right_iff.2
      (List.forall₂_same.2 fun n _ => Drawing.readsNode_nodeLine n)
  · rw [List.map_map]
    exact List.map_congr_left fun e _ => Drawing.readEdge?_edgeLine e

end Dataflow
