import Dataflow.Proofs.Attribute
import Dataflow.Proofs.Workshop

/-!
# The attributes of declared ops

The attributes of an op are declared one after the other, each under a name that is accepted and
new (`Op.Declared`). Ops come into a catalog by declaration alone, so every op of a graph that is
assembled in a workshop is declared (`Workshop.declared_run`).
-/

namespace Dataflow

namespace Op

/-- The attributes are all different, and none has a slash in its name. -/
structure Declared (op : Op) : Prop where
  nodup : op.attributes.Nodup
  noSlash : ∀ attr ∈ op.attributes, '/' ∉ attr.toList

/-- An attribute that is added has an accepted name, which none of the others has. -/
theorem addAttribute_eq_ok {op name : String} {attributes attributes' : List String}
    (h : addAttribute op attributes name = .ok attributes') :
    '/' ∉ name.toList ∧ name ∉ attributes ∧ attributes' = attributes ++ [name] := by
  obtain ⟨_, hcheck, h⟩ := except_bind_eq_ok.1 h
  split at h
  · cases h
  · cases h
    exact ⟨checkAttributeName_eq_ok_iff.1 hcheck, ‹_›, rfl⟩

/-- Attributes that are added one by one stay distinct and without a slash. -/
theorem declared_foldlM {op : String} {names attributes attributes' : List String}
    (hnodup : attributes.Nodup) (hslash : ∀ attr ∈ attributes, '/' ∉ attr.toList)
    (h : names.foldlM (addAttribute op) attributes = .ok attributes') :
    attributes'.Nodup ∧ ∀ attr ∈ attributes', '/' ∉ attr.toList := by
  induction names generalizing attributes with
  | nil =>
    cases h
    exact ⟨hnodup, hslash⟩
  | cons name rest ih =>
    rw [List.foldlM_cons] at h
    obtain ⟨longer, hadd, hrest⟩ := except_bind_eq_ok.1 h
    obtain ⟨hname, hnew, rfl⟩ := addAttribute_eq_ok hadd
    refine ih ?_ ?_ hrest
    · exact hnodup.append (List.nodup_singleton name) (List.disjoint_singleton.2 hnew)
    · intro attr hattr
      rcases List.mem_append.1 hattr with hattr | hattr
      · exact hslash attr hattr
      · rwa [List.mem_singleton.1 hattr]

/-- An op that is declared has distinct attributes without a slash. -/
theorem declared_of_declare {serial numInputs : Nat} {name : String}
    {shapes : List (Except Error Layout)} {attributes : List String} {op : Op}
    (h : declare serial name numInputs shapes attributes = .ok op) : op.Declared := by
  obtain ⟨accepted, hfold, h⟩ := except_bind_eq_ok.1 h
  cases h
  obtain ⟨hnodup, hslash⟩ := declared_foldlM List.nodup_nil nofun hfold
  exact ⟨hnodup, hslash⟩

end Op

/-- A step of a catalog registers no op but a declared one. -/
theorem Catalog.declared_perform {c : Catalog} (h : ∀ op ∈ c.issued, op.Declared) (s : Step) :
    ∀ op ∈ (c.perform s).2.issued, op.Declared := by
  cases s with
  | op registry name numInputs shapes attributes =>
    show ∀ op ∈ (c.registerOp registry name numInputs shapes attributes).2.issued, op.Declared
    unfold registerOp
    dsimp only
    split
    · exact h
    · rename_i op r hregistered
      obtain ⟨op', hop, hregistered⟩ := except_bind_eq_ok.1 hregistered
      obtain ⟨r', -, hregistered⟩ := except_bind_eq_ok.1 hregistered
      cases hregistered
      intro other hother
      rcases List.mem_append.1 hother with hother | hother
      · exact h other hother
      · rw [List.mem_singleton.1 hother]
        exact Op.declared_of_declare hop
  | kernel registry name kernel =>
    show ∀ op ∈ (c.registerKernel registry name kernel).2.issued, op.Declared
    unfold registerKernel
    split
    · exact h
    · exact h
  | freeze registry => exact h
  | teardown registry => exact h

namespace Workshop

/-- Every step of a workshop issues declared ops only. -/
theorem declared_perform {w : Workshop} (h : ∀ op ∈ w.catalog.issued, op.Declared) (s : Step) :
    ∀ op ∈ (w.perform s).2.catalog.issued, op.Declared := by
  cases s with
  | catalog step => exact Catalog.declared_perform h step
  | start => exact h
  | call => exact h

/-- The ops of a graph and of its builder are declared, after every run. -/
theorem declared_run (id : GraphId) (steps : List Step) :
    (run id steps).assembly.Uses Op.Declared := by
  have hissued : ∀ op ∈ (run id steps).catalog.issued, op.Declared :=
    Run.after_induction (P := fun w : Workshop => ∀ op ∈ w.catalog.issued, op.Declared) steps
      (fun _ hop => nomatch hop) fun _ s h => declared_perform h s
  exact (sound_run id steps).uses.imp fun op hop => hissued op (List.mem_of_getElem? hop)

end Workshop

end Dataflow
