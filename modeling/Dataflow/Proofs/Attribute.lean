import Dataflow.Attribute.Store

/-!
# Attribute paths and typed getters

The last slash of a path is the one in front of the attribute's name, since a name that is accepted
has none (`checkAttributeName_eq_ok_iff`). So a path has one reading, whatever the node's name is
(`attributePath_inj`). The getter of a value's own type answers the value, and every other getter
says which type it has found (`Attributes.reads_of_get?`).
-/

namespace Dataflow

/-! ## Paths -/

/-- A name is accepted for an attribute unless it has a slash. -/
theorem checkAttributeName_eq_ok_iff {name : String} :
    checkAttributeName name = .ok () ↔ '/' ∉ name.toList := by
  unfold checkAttributeName
  split
  · rename_i hslash
    exact ⟨nofun, fun h => absurd hslash h⟩
  · rename_i hslash
    exact ⟨fun _ => hslash, fun _ => rfl⟩

/-- If what follows a separator has none, no separator stands before it. -/
theorem eq_nil_of_cons_eq_append {α : Type} {c : α} {as bs cs : List α} (has : c ∉ as)
    (h : c :: as = bs ++ c :: cs) : bs = [] := by
  cases bs with
  | nil => rfl
  | cons b rest =>
    have htail : as = rest ++ c :: cs := (List.cons.inj h).2
    exact absurd (htail ▸ List.mem_append_right rest List.mem_cons_self) has

/-- A list is split at its last separator in one way. -/
theorem append_cons_inj_of_last {α : Type} {c : α} {xs ys as bs : List α} (has : c ∉ as)
    (hbs : c ∉ bs) (h : xs ++ c :: as = ys ++ c :: bs) : xs = ys ∧ as = bs := by
  have hxy : xs = ys := by
    rcases List.append_eq_append_iff.1 h with ⟨zs, hys, hzs⟩ | ⟨zs, hxs, hzs⟩
    · rw [hys, eq_nil_of_cons_eq_append has hzs, List.append_nil]
    · rw [hxs, eq_nil_of_cons_eq_append hbs hzs, List.append_nil]
  subst hxy
  exact ⟨rfl, (List.cons.inj (List.append_cancel_left h)).2⟩

/-- A path tells the node's name and the attribute's name. -/
theorem attributePath_inj {node node' attr attr' : String} (hattr : '/' ∉ attr.toList)
    (hattr' : '/' ∉ attr'.toList) (h : attributePath node attr = attributePath node' attr') :
    node = node' ∧ attr = attr' := by
  have hchars := congrArg String.toList h
  simp only [attributePath, String.toList_append, List.append_assoc] at hchars
  obtain ⟨hnode, hname⟩ := append_cons_inj_of_last hattr hattr' hchars
  exact ⟨String.toList_inj.1 hnode, String.toList_inj.1 hname⟩

/-! ## Getters -/

namespace Attributes

/-- What the typed getters answer about a path whose value is `value`. -/
structure Reads (a : Attributes) (path : String) (value : AttrValue) : Prop where
  int32 : a.getInt32 path =
    match value with
    | .int32 x => .ok x
    | _ => .error (.attributeTypeMismatch path .int32 value.type)
  int64 : a.getInt64 path =
    match value with
    | .int64 x => .ok x
    | _ => .error (.attributeTypeMismatch path .int64 value.type)
  float : a.getFloat path =
    match value with
    | .float bits => .ok bits
    | _ => .error (.attributeTypeMismatch path .float value.type)
  double : a.getDouble path =
    match value with
    | .double bits => .ok bits
    | _ => .error (.attributeTypeMismatch path .double value.type)
  bool : a.getBool path =
    match value with
    | .bool x => .ok x
    | _ => .error (.attributeTypeMismatch path .bool value.type)

/-- A getter takes the value out, or names the types that were expected and found. -/
theorem typed_of_get? {a : Attributes} {path : String} {value : AttrValue}
    (h : a.get? path = some value) {α : Type} (expected : AttrType)
    (extract : AttrValue → Option α) :
    a.typed path expected extract =
      match extract value with
      | some x => .ok x
      | none => .error (.attributeTypeMismatch path expected value.type) := by
  cases hx : extract value with
  | none => simp only [typed, h, hx]
  | some x => simp only [typed, h, hx]

/-- A stored value is what the getter of its type answers, and the other getters name both
types. -/
theorem reads_of_get? {a : Attributes} {path : String} {value : AttrValue}
    (h : a.get? path = some value) : a.Reads path value where
  int32 := (typed_of_get? h .int32 AttrValue.int32?).trans (by cases value <;> rfl)
  int64 := (typed_of_get? h .int64 AttrValue.int64?).trans (by cases value <;> rfl)
  float := (typed_of_get? h .float AttrValue.float?).trans (by cases value <;> rfl)
  double := (typed_of_get? h .double AttrValue.double?).trans (by cases value <;> rfl)
  bool := (typed_of_get? h .bool AttrValue.bool?).trans (by cases value <;> rfl)

/-- Writing entries one after the other under keys of their own. -/
theorem table_foldl_insert (path : String → String) (entries : List (String × AttrValue))
    (a : Attributes) :
    (entries.foldl (fun a (attr, value) => a.insert (path attr) value) a).table =
      entries.foldl (fun t e => t.insert (path e.1) e.2) a.table := by
  induction entries generalizing a with
  | nil => rfl
  | cons e rest ih => exact ih _

end Attributes

end Dataflow
