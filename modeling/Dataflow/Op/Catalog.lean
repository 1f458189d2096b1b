import Dataflow.Op.Registry

/-!
# Catalogs

A catalog is what registrations of ops and kernels work on: registries by name, the book of kernels
that they share, and every op that was ever registered, in the order of the registrations. The
number of these ops is the serial number of the next one.
-/

namespace Dataflow

/-- Registries of ops with their kernels, and all ops that were registered. -/
structure Catalog where
  issued : List Op := []
  registries : Table String OpRegistry := {}
  book : KernelBook := {}

namespace Catalog

/-- The registry of the given name; it is empty unless something was registered. -/
def registry (c : Catalog) (name : String) : OpRegistry :=
  (c.registries.get? name).getD {}

/-- The catalog with another registry under a name. -/
def setRegistry (c : Catalog) (name : String) (r : OpRegistry) : Catalog :=
  { c with registries := c.registries.insert name r }

/-- Declares an op and registers it. -/
def registerOp (c : Catalog) (registry name : String) (numInputs : Nat)
    (shapes : List (Except Error Layout)) (attributes : List String) : Except Error Op × Catalog :=
  let registered := do
    let op ← Op.declare c.issued.length name numInputs shapes attributes
    let r ← (c.registry registry).registerOp op
    return (op, r)
  match registered with
  | .error e => (.error e, c)
  | .ok (op, r) => (.ok op, { c.setRegistry registry r with issued := c.issued ++ [op] })

/-- Registers a kernel for the op of the given name. -/
def registerKernel (c : Catalog) (registry op : String) (kernel : KernelDef) :
    Except Error Unit × Catalog :=
  match (c.registry registry).registerKernel c.book op kernel with
  | .error e => (.error e, c)
  | .ok book => (.ok (), { c with book })

/-- Setting one registry of a catalog leaves all others as they are. -/
theorem registry_setRegistry (c : Catalog) (name name' : String) (r : OpRegistry) :
    (c.setRegistry name r).registry name' = if name = name' then r else c.registry name' := by
  unfold registry setRegistry
  rw [Table.get?_insert]
  split <;> rfl

end Catalog

end Dataflow
