import Dataflow.Graph.Builder
import Dataflow.Graph.Compilation
import Dataflow.Graph.Drawing
import Dataflow.Session.Setting

/-!
# Sessions

A session performs steps on a world of named things: the setting, graph definitions, executable
graphs and node handles. A graph comes into being, empty, when it is first named. `World.script`
answers a list of steps from an empty world.
-/

namespace Dataflow.Session

/-- All that the steps of a session share. -/
structure World where
  setting : Setting := {}
  /-- The number of the next graph definition. -/
  nextGraph : UInt64 := 0
  graphs : Table String GraphDef := {}
  executables : Table String Graph := {}
  handles : Table String NodeHandle := {}

/-! ## Steps -/

/-- A step of a node builder. -/
inductive BuilderStep
  /-- Feed an input from an output of the node whose handle has a name. -/
  | input (handle : String) (slot : Nat)
  | name (name : String)
  | attr (name : String) (value : AttrValue)
  /-- Build the node and name its handle, if it is to have a name. -/
  | build (dtypes : List DType) (save : Option String)
  | reset
  /-- A step on the setting while the builder is open. -/
  | step (step : SettingStep)

/-- How a step finds a node handle. -/
inductive HandleSource
  | saved (name : String)
  /-- By a node's name in a graph. -/
  | find (graph name : String)
  /-- By a node's position in a graph. -/
  | index (graph : String) (index : Nat)

/-- A step of a session. -/
inductive Step
  | setting (step : SettingStep)
  | graph (graph : String)
  | node (graph ops devices op device : String) (calls : List BuilderStep)
  | dump (graph : String)
  | dot (graph : String)
  | validate (graph : String)
  | nodeAt (graph : String) (index : Nat)
  | handle (graph : String) (source : HandleSource) (save : Option String)
  | attr (graph path : String)
  /-- Compile into an executable graph, which is kept as it is on failure if `keep`. -/
  | compile (graph registry executable : String) (keep : Bool)
  | exec (executable : String)
  | execClear (executable : String)
  | execAttr (executable path : String)
  | execNode (executable : String) (index : Nat)
  | execFind (executable name : String)
  | compute (executable : String) (index : Nat)

/-! ## Answers -/

/-- The answer to a step of a node builder. -/
inductive BuilderAnswer
  | done (result : Except Error Unit)
  | built (result : Except Error NodeHandle)
  | step (answer : SettingAnswer)

/-- What a node builder answers: why it cannot start, or the name of its op and its answers, each
with the state of the builder after it; then the graph. -/
structure BuilderReport where
  result : Except Error (String × List (BuilderAnswer × BuilderState))
  graph : GraphDef

/-- A handle as a graph sees it. -/
structure HandleView where
  handle : NodeHandle
  graph : GraphDef

/-- What a compilation answers. -/
structure CompileReport where
  result : Except Error Unit
  notes : List Note
  target : Graph
  /-- Whether the attributes of definition and executable graph agree. -/
  sameAttributes : Bool

/-- The answer to a step. -/
inductive Answer
  | setting (answer : SettingAnswer)
  | graph (graph : GraphDef)
  | node (report : BuilderReport)
  | text (text : String)
  | validation (result : Except Error Artifacts)
  | nodeAt (node : Option NodeDef)
  | handle (view : Option HandleView)
  | attr (value : Option AttrValue) (reading : AttrReading)
  | compiled (report : CompileReport)
  | exec (graph : Graph)
  | execNode (node : Option Node)
  | execFind (node : Option Node)
  /-- What the run of a node answers, `none` if there is no such node, and the log. -/
  | computed (result : Option (Except Error Unit)) (notes : List Note)

/-! ## Performing steps -/

namespace World

/-- The world with a new graph definition under a name. -/
def newGraph (w : World) (name : String) : GraphDef × World :=
  let (g, nextGraph) := GraphDef.new w.nextGraph
  (g, { w with nextGraph, graphs := w.graphs.insert name g })

/-- The graph definition of the given name. -/
def graph (w : World) (name : String) : GraphDef × World :=
  match w.graphs.get? name with
  | some g => (g, w)
  | none => w.newGraph name

/-- The executable graph of the given name. -/
def executable (w : World) (name : String) : Graph :=
  (w.executables.get? name).getD {}

/-- The world with an executable graph replaced. -/
def setExecutable (w : World) (name : String) (g : Graph) : World :=
  { w with executables := w.executables.insert name g }

/-- The handle that a step of a builder names; one that no graph has issued if there is none. -/
def namedHandle (w : World) (name : String) : NodeHandle :=
  (w.handles.get? name).getD ⟨⟨w.nextGraph⟩, 0⟩

/-- One step of a node builder. -/
def buildStep : NodeBuilder × World → BuilderStep →
    (BuilderAnswer × BuilderState) × NodeBuilder × World
  | (b, w), .input handle slot =>
    let (r, b) := b.input (w.namedHandle handle) slot
    ((.done r, b.state), b, w)
  | (b, w), .name name =>
    let (r, b) := b.setName name
    ((.done r, b.state), b, w)
  | (b, w), .attr name value =>
    let (r, b) := b.setAttr name value
    ((.done r, b.state), b, w)
  | (b, w), .build dtypes save =>
    let (r, b) := b.build dtypes
    let w :=
      match r, save with
      | .ok handle, some name => { w with handles := w.handles.insert name handle }
      | _, _ => w
    ((.built r, b.state), b, w)
  | (b, w), .reset => ((.done (.ok ()), b.reset.state), b.reset, w)
  | (b, w), .step step =>
    let (answer, setting) := w.setting.perform step
    ((.step answer, b.state), b, { w with setting })

/-- The steps of a node builder for a graph. -/
def buildNode (w : World) (graph ops devices op device : String) (calls : List BuilderStep) :
    BuilderReport × World :=
  let (g, w) := w.graph graph
  match NodeBuilder.start g op device (w.setting.opRegistry ops)
      (w.setting.deviceRegistry devices) with
  | .error e => (⟨.error e, g⟩, w)
  | .ok b =>
    let (answers, b, w) := Run.both buildStep (b, w) calls
    (⟨.ok (b.op.name, answers), b.graph⟩, { w with graphs := w.graphs.insert graph b.graph })

/-- The handle that a step asks for. -/
def findHandle (w : World) : HandleSource → Option NodeHandle × World
  | .saved name => (w.handles.get? name, w)
  | .find graph name =>
    let (g, w) := w.graph graph
    (g.find? name, w)
  | .index graph index =>
    let (g, w) := w.graph graph
    (g.handle? index, w)

/-- Compiles a graph into an executable one. -/
def compile (w : World) (graph registry target : String) (keep : Bool) :
    CompileReport × World :=
  let (g, w) := w.graph graph
  let before := w.executable target
  let (asked, result, updated) :=
    before.update g w.setting.catalog.book (w.setting.deviceRegistry registry)
  let after :=
    match result with
    | .ok () => updated
    | .error _ => if keep then before else updated
  ({ result
     notes := asked.flatMap Construction.notes
     target := after
     sameAttributes := g.attributes.agrees after.attributes },
    w.setExecutable target after)

/-- One step. -/
def perform (w : World) : Step → Answer × World
  | .setting step =>
    let (answer, setting) := w.setting.perform step
    (.setting answer, { w with setting })
  | .graph graph =>
    let (g, w) := w.newGraph graph
    (.graph g, w)
  | .node graph ops devices op device calls =>
    let (report, w) := w.buildNode graph ops devices op device calls
    (.node report, w)
  | .dump graph =>
    let (g, w) := w.graph graph
    (.graph g, w)
  | .dot graph =>
    let (g, w) := w.graph graph
    (.text g.toDot, w)
  | .validate graph =>
    let (g, w) := w.graph graph
    (.validation g.validate, w)
  | .nodeAt graph index =>
    let (g, w) := w.graph graph
    (.nodeAt g.nodes[index]?, w)
  | .handle graph source save =>
    match w.findHandle source with
    | (none, w) => (.handle none, w)
    | (some h, w) =>
      let (g, w) := w.graph graph
      (.handle (some ⟨h, g⟩),
        match save with
        | some name => { w with handles := w.handles.insert name h }
        | none => w)
  | .attr graph path =>
    let (g, w) := w.graph graph
    (.attr (g.attributes.get? path) (g.attributes.reading path), w)
  | .compile graph registry target keep =>
    let (report, w) := w.compile graph registry target keep
    (.compiled report, w)
  | .exec target => (.exec (w.executable target), w)
  | .execClear target =>
    let g := (w.executable target).clear
    (.exec g, w.setExecutable target g)
  | .execAttr target path =>
    let g := w.executable target
    (.attr (g.attributes.get? path) (g.attributes.reading path), w)
  | .execNode target index => (.execNode (w.executable target).nodes[index]?, w)
  | .execFind target name => (.execFind ((w.executable target).find? name), w)
  | .compute target index =>
    match (w.executable target).compute? index with
    | none => (.computed none [], w)
    | some (outcome, g) =>
      (.computed (some outcome.result) outcome.notes, w.setExecutable target g)

/-- The answers to a list of steps. -/
def script (steps : List Step) : List Answer :=
  Run.answers perform {} steps

end World

end Dataflow.Session
