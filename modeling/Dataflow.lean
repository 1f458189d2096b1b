import Dataflow.DType.Json
import Dataflow.Layout.Call
import Dataflow.Properties
import Dataflow.Tensor.View
import Dataflow.Names
import Dataflow.Op.Registry
import Dataflow.Op.Catalog
import Dataflow.Device.Registry
import Dataflow.Tensor.Buffer
import Dataflow.Graph.Builder
import Dataflow.Graph.Compilation
import Dataflow.Graph.Drawing
import Dataflow.Session.Blueprint
import Dataflow.Session.World
import Dataflow.Proofs.Graph.Assembly
import Dataflow.Proofs.Graph.WellFormed
import Dataflow.Proofs.Graph.Validation
import Dataflow.Proofs.Graph.Artifacts
import Dataflow.Proofs.Graph.Compilation
import Dataflow.Proofs.Graph.Update
import Dataflow.Proofs.Op.Catalog
import Dataflow.Proofs.Op.Kernels
import Dataflow.Proofs.Op.Lifecycle
import Dataflow.Proofs.Graph.Typing
import Dataflow.Proofs.Workshop
import Dataflow.Proofs.Names
import Dataflow.Proofs.Attribute
import Dataflow.Proofs.Op.Declaration
import Dataflow.Proofs.Graph.Naming
import Dataflow.Proofs.Graph.Staging
import Dataflow.Proofs.Graph.Handles
import Dataflow.Proofs.Graph.Attributes
import Dataflow.Proofs.Graph.Atomicity
import Dataflow.Proofs.Graph.Isolation
import Dataflow.Proofs.Device.Registration
import Dataflow.Proofs.Device.Registrar
import Dataflow.Proofs.Device.Naming
import Dataflow.Proofs.Device.Numbering
import Dataflow.Proofs.Graph.Mirroring
import Dataflow.Proofs.Device.Account
import Dataflow.Proofs.Device.Depot
import Dataflow.Proofs.Lifecycle
import Dataflow.Proofs.Stability
import Dataflow.Proofs.Device.Requests
import Dataflow.Proofs.Graph.Resolution
import Dataflow.Proofs.Graph.Drawing
import Dataflow.Proofs.Tensor.Buffer
import Dataflow.Proofs.Tensor.View
import Dataflow.Proofs.Tensor.Reach
import Dataflow.Proofs.Tensor.Access
import Dataflow.Proofs.Tensor.Enumeration
import Dataflow.Proofs.Tensor.ReadBack
import Dataflow.Proofs.Tensor.Counting
import Dataflow.Proofs.Tensor.Canonical
import Dataflow.Proofs.Text.Order
import Dataflow.Proofs.Graph.Completeness
import Dataflow.Proofs.Graph.Labeling
import Dataflow.Proofs.Graph.Extension
import Dataflow.Proofs.Graph.Restart
import Dataflow.Proofs.Device.Host
import Dataflow.Proofs.Properties
