import Dataflow.Graph.Definition

/-!
# Drawing a graph

A graph definition as a drawing in the DOT language: a header, a line for each node, a blank line,
a line for each edge and a closing brace. In the label of a node quotes, backslashes and line ends
are escaped, so a label has one line and ends at its closing quote whatever the names of the node
hold.
-/

namespace Dataflow.Drawing

/-- A text in which one character is replaced by others, wherever it stands. -/
def replace (c : Char) (others : List Char) (s : List Char) : List Char :=
  s.flatMap fun d => if d = c then others else [d]

/-- A text as it stands inside a label. The backslashes of the text are escaped first, since the
other escapes bring in backslashes of their own. -/
def escape (s : String) : String :=
  String.ofList
    (replace '\n' ['\\', 'n'] (replace '"' ['\\', '"'] (replace '\\' ['\\', '\\'] s.toList)))

/-- One character inside a label. -/
def escapeChar (c : Char) : List Char :=
  if c = '\\' then ['\\', '\\']
  else if c = '"' then ['\\', '"']
  else if c = '\n' then ['\\', 'n']
  else [c]

/-- The three replacements in a row escape each character by itself. -/
theorem toList_escape (s : String) : (escape s).toList = s.toList.flatMap escapeChar := by
  rw [escape, String.toList_ofList, replace, replace, replace, List.flatMap_assoc,
    List.flatMap_assoc]
  refine congrArg (s.toList.flatMap ·) (funext fun c => ?_)
  unfold escapeChar
  by_cases h₁ : c = '\\'
  · subst h₁
    rfl
  by_cases h₂ : c = '"'
  · subst h₂
    rfl
  by_cases h₃ : c = '\n'
  · subst h₃
    rfl
  simp [h₁, h₂, h₃]

/-- Reads a label after its opening quote: the text that it stands for, and what follows its
closing quote. -/
def readLabel? : List Char → Option (List Char × List Char)
  | [] => none
  | '"' :: rest => some ([], rest)
  | '\\' :: '\\' :: rest => (readLabel? rest).map fun (s, after) => ('\\' :: s, after)
  | '\\' :: '"' :: rest => (readLabel? rest).map fun (s, after) => ('"' :: s, after)
  | '\\' :: 'n' :: rest => (readLabel? rest).map fun (s, after) => ('\n' :: s, after)
  | c :: rest =>
    if c = '\\' then none else (readLabel? rest).map fun (s, after) => (c :: s, after)

/-- A label is read back, and ends at its closing quote. -/
theorem readLabel?_escape (s rest : List Char) :
    readLabel? (s.flatMap escapeChar ++ '"' :: rest) = some (s, rest) := by
  induction s with
  | nil => rfl
  | cons c s ih =>
    rw [List.flatMap_cons, List.append_assoc]
    by_cases h₁ : c = '\\'
    · subst h₁
      simp [escapeChar, readLabel?, ih]
    by_cases h₂ : c = '"'
    · subst h₂
      simp [escapeChar, readLabel?, ih]
    by_cases h₃ : c = '\n'
    · subst h₃
      simp [escapeChar, readLabel?, ih]
    simp [escapeChar, readLabel?, h₁, h₂, h₃, ih]

/-- A label has one line. -/
theorem newline_notMem_escape (s : List Char) : '\n' ∉ s.flatMap escapeChar := by
  simp only [List.mem_flatMap, not_exists, not_and]
  intro c _
  unfold escapeChar
  split
  · simp
  split
  · simp
  split
  · simp
  · simpa [eq_comm] using ‹¬c = '\n'›

/-- The lines before the first node. -/
def header : List String :=
  ["digraph graphloom \x7b", "  rankdir=LR;", "  node [fontname=\"Helvetica\"];",
    "  edge [fontname=\"Helvetica\"];", ""]

/-- The colour of a node: one for nodes that no edge enters, one for the others that no edge
leaves, and one for the rest. -/
def fill (n : NodeDef) : String :=
  if n.inEdges.isEmpty then "#d0e6ff"
  else if n.outEdges.isEmpty then "#d6f5d6"
  else "#f0f0f0"

/-- What a node's label says, line by line. -/
def labelLines (n : NodeDef) : List String :=
  [n.name ++ " (#" ++ toString n.id ++ ")", "op: " ++ n.op.name, "device: " ++ n.device,
    ", ".intercalate (n.outDTypes.map DType.name)]

/-- The line of a node. -/
def nodeLine (n : NodeDef) : String :=
  "  node_" ++ toString n.id ++ " [shape=box,style=\"rounded,filled\",fillcolor=\"" ++ fill n ++
    "\",label=\"" ++ escape ("\n".intercalate (labelLines n)) ++ "\"];"

/-- The line of an edge. -/
def edgeLine (e : Edge) : String :=
  "  node_" ++ toString e.src ++ " -> node_" ++ toString e.dest ++ " [label=\"out" ++
    toString e.srcSlot ++ " -> in" ++ toString e.destSlot ++ "\"];"

/-- The lines of a graph's drawing. -/
def lines (g : GraphDef) : List String :=
  header ++ g.nodes.map nodeLine ++ [""] ++ g.edges.map edgeLine ++ ["\x7d"]

end Dataflow.Drawing

namespace Dataflow

/-- The drawing of a graph, each line ended. -/
def GraphDef.toDot (g : GraphDef) : String :=
  String.join ((Drawing.lines g).map (· ++ "\n"))

end Dataflow
