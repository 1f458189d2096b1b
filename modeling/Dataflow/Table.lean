/-!
# Tables

A finite map as the list of its entries, each key once, in the order in which the keys were first
inserted. Reading after a write is described by `get?_insert` and `get?_erase`, and `keys_insert`
says that a write to a key that is present leaves the keys as they are; a new key is entered at the
end (`entries_insert`).
-/

namespace Dataflow

/-- A finite map from keys to values. -/
structure Table (κ α : Type) where
  entries : List (κ × α)
  distinct : (entries.map (·.1)).Nodup
  deriving DecidableEq

namespace Table

variable {κ α : Type}

/-- The table without keys. -/
instance : EmptyCollection (Table κ α) :=
  ⟨[], List.nodup_nil⟩

/-- The keys in the order in which they were first inserted. -/
def keys (t : Table κ α) : List κ :=
  t.entries.map (·.1)

/-- The number of keys. -/
def size (t : Table κ α) : Nat :=
  t.entries.length

/-- Whether there is no key. -/
def isEmpty (t : Table κ α) : Bool :=
  t.entries.isEmpty

/-- No key is entered twice. -/
theorem nodup_keys (t : Table κ α) : t.keys.Nodup :=
  t.distinct

/-- There are as many entries as keys. -/
theorem size_eq_length_keys (t : Table κ α) : t.size = t.keys.length := by
  simp [size, keys]

/-- The table with other values under the same keys. -/
def map {β : Type} (f : α → β) (t : Table κ α) : Table κ β :=
  ⟨t.entries.map fun e => (e.1, f e.2), by
    rw [List.map_map]
    exact t.distinct⟩

/-- Changing the values of a table leaves its keys. -/
theorem keys_map {β : Type} (f : α → β) (t : Table κ α) : (t.map f).keys = t.keys := by
  rw [keys, map, List.map_map]
  rfl

variable [DecidableEq κ]

/-- The value that a list of entries has for a key. -/
def find (k : κ) : List (κ × α) → Option α
  | [] => none
  | e :: rest => if e.1 = k then some e.2 else find k rest

/-- A list of entries after a write: in the place of the key, or at the end. -/
def put (k : κ) (x : α) : List (κ × α) → List (κ × α)
  | [] => [(k, x)]
  | e :: rest => if e.1 = k then (k, x) :: rest else e :: put k x rest

/-- Nothing is found under a key that is not entered. -/
theorem find_eq_none_iff {k : κ} {es : List (κ × α)} : find k es = none ↔ k ∉ es.map (·.1) := by
  induction es with
  | nil => simp [find]
  | cons e rest ih =>
    by_cases h : e.1 = k
    · simp [find, h]
    · simp [find, h, ih, Ne.symm h]

/-- The value that was put is found under its key, and what was there before under every other. -/
theorem find_put (k k' : κ) (x : α) (es : List (κ × α)) :
    find k' (put k x es) = if k = k' then some x else find k' es := by
  induction es with
  | nil => simp [put, find]
  | cons e rest ih =>
    by_cases h : e.1 = k
    · simp only [put, if_pos h, find]
      split <;> simp_all
    · simp only [put, if_neg h, find, ih]
      by_cases hk : k = k'
      · subst hk; simp [h]
      · simp [hk]

/-- Without its entry nothing is found under a key, and what was there before under every other. -/
theorem find_filter (k k' : κ) (es : List (κ × α)) :
    find k' (es.filter (·.1 ≠ k)) = if k = k' then none else find k' es := by
  induction es with
  | nil => simp [find]
  | cons e rest ih =>
    by_cases h : e.1 = k
    · rw [List.filter_cons_of_neg (by simp [h]), ih]
      split
      · rfl
      · rename_i hk
        simp [find, h, hk]
    · rw [List.filter_cons_of_pos (by simp [h])]
      simp only [find, ih]
      by_cases hk : k = k'
      · subst hk; simp [h]
      · simp [hk]

/-- A key that is entered keeps its place, and a new one comes last. -/
theorem keys_put (k : κ) (x : α) (es : List (κ × α)) :
    (put k x es).map (·.1) =
      if k ∈ es.map (·.1) then es.map (·.1) else es.map (·.1) ++ [k] := by
  induction es with
  | nil => simp [put]
  | cons e rest ih =>
    by_cases h : e.1 = k
    · simp [put, h]
    · simp only [put, h, if_false, List.map_cons, ih, List.mem_cons, Ne.symm h, false_or]
      split <;> simp

/-- Putting a value enters no key twice. -/
theorem nodup_put (k : κ) (x : α) {es : List (κ × α)} (h : (es.map (·.1)).Nodup) :
    ((put k x es).map (·.1)).Nodup := by
  rw [keys_put]
  split
  · exact h
  · rename_i fresh
    exact List.nodup_append.2 ⟨h, by simp, by
      rintro a ha b hb rfl
      exact fresh (List.mem_singleton.1 hb ▸ ha)⟩

/-- The value of a key. -/
def get? (t : Table κ α) (k : κ) : Option α :=
  find k t.entries

/-- Whether a key has a value. -/
def contains (t : Table κ α) (k : κ) : Bool :=
  (t.get? k).isSome

/-- The table after a write to a key. -/
def insert (t : Table κ α) (k : κ) (x : α) : Table κ α :=
  ⟨put k x t.entries, nodup_put k x t.distinct⟩

/-- The table without a key. -/
def erase (t : Table κ α) (k : κ) : Table κ α :=
  ⟨t.entries.filter (·.1 ≠ k), t.distinct.sublist (List.filter_sublist.map _)⟩

theorem get?_empty (k : κ) : ({} : Table κ α).get? k = none := rfl

/-- After an insertion there is the new value under its key, and what was there before under every
other. -/
theorem get?_insert (t : Table κ α) (k k' : κ) (x : α) :
    (t.insert k x).get? k' = if k = k' then some x else t.get? k' :=
  find_put k k' x t.entries

/-- After an erasure there is nothing under the key, and what was there before under every
other. -/
theorem get?_erase (t : Table κ α) (k k' : κ) :
    (t.erase k).get? k' = if k = k' then none else t.get? k' :=
  find_filter k k' t.entries

/-- A table contains the keys that are entered. -/
theorem contains_iff {t : Table κ α} {k : κ} : t.contains k = true ↔ k ∈ t.keys := by
  unfold contains get? keys
  rw [← Decidable.not_iff_not, ← find_eq_none_iff]
  simp

/-- A key under which there is a value is entered. -/
theorem mem_keys_of_get? {t : Table κ α} {k : κ} {x : α} (h : t.get? k = some x) : k ∈ t.keys := by
  rw [← contains_iff, contains, h]
  rfl

/-- A key that is entered keeps its place, and a new one comes last. -/
theorem keys_insert (t : Table κ α) (k : κ) (x : α) :
    (t.insert k x).keys = if k ∈ t.keys then t.keys else t.keys ++ [k] :=
  keys_put k x t.entries

/-- Changing all values and then putting a changed one is the same as putting it before. -/
theorem map_put {β : Type} (f : α → β) (k : κ) (x : α) (es : List (κ × α)) :
    (put k x es).map (fun e => (e.1, f e.2)) = put k (f x) (es.map fun e => (e.1, f e.2)) := by
  induction es with
  | nil => rfl
  | cons e rest ih =>
    by_cases h : e.1 = k
    · simp [put, h]
    · simp [put, h, ih]

/-- A write to a table and a change of its values come in any order. -/
theorem map_insert {β : Type} (f : α → β) (t : Table κ α) (k : κ) (x : α) :
    (t.insert k x).map f = (t.map f).insert k (f x) := by
  unfold insert map
  simp only [map_put]

/-- If no key is entered twice, what is found under a key are its entries. -/
theorem find_eq_some_iff {k : κ} {x : α} {es : List (κ × α)} (h : (es.map (·.1)).Nodup) :
    find k es = some x ↔ (k, x) ∈ es := by
  induction es with
  | nil => simp [find]
  | cons e rest ih =>
    obtain ⟨fresh, distinct⟩ := List.nodup_cons.1 h
    by_cases hk : e.1 = k
    · subst hk
      have hrest : (e.1, x) ∉ rest := fun hmem => fresh (List.mem_map.2 ⟨_, hmem, rfl⟩)
      simp only [find, if_true, Option.some.injEq, List.mem_cons, hrest, or_false]
      exact ⟨fun hx => by rw [← hx], fun he => by rw [← he]⟩
    · simp only [find, if_neg hk, ih distinct, List.mem_cons]
      exact ⟨.inr, fun hmem => hmem.resolve_left fun he => hk (by rw [← he])⟩

/-- What there is under a key are the entries of the table. -/
theorem get?_eq_some_iff {t : Table κ α} {k : κ} {x : α} :
    t.get? k = some x ↔ (k, x) ∈ t.entries :=
  find_eq_some_iff t.distinct

/-- A new key is entered behind the others. -/
theorem put_of_notMem {k : κ} {es : List (κ × α)} (h : k ∉ es.map (·.1)) (x : α) :
    put k x es = es ++ [(k, x)] := by
  induction es with
  | nil => rfl
  | cons e rest ih =>
    rw [List.map_cons, List.mem_cons, not_or] at h
    rw [put, if_neg (Ne.symm h.1), ih h.2, List.cons_append]

/-- A new key is entered behind the others. -/
theorem entries_insert {t : Table κ α} {k : κ} (h : k ∉ t.keys) (x : α) :
    (t.insert k x).entries = t.entries ++ [(k, x)] :=
  put_of_notMem h x

/-- An erasure takes away the entry of its key. -/
theorem entries_erase (t : Table κ α) (k : κ) :
    (t.erase k).entries = t.entries.filter (·.1 ≠ k) :=
  rfl

/-- New keys, all different, are entered one after the other behind the others. -/
theorem entries_foldl_insert {β : Type} (key : β → κ) (value : β → α) {bs : List β}
    (t : Table κ α) (distinct : (bs.map key).Nodup) (fresh : ∀ b ∈ bs, key b ∉ t.keys) :
    (bs.foldl (fun t b => t.insert (key b) (value b)) t).entries =
      t.entries ++ bs.map fun b => (key b, value b) := by
  induction bs generalizing t with
  | nil => simp
  | cons b rest ih =>
    obtain ⟨apart, distinct⟩ := List.nodup_cons.1 distinct
    have hb := fresh b List.mem_cons_self
    rw [List.foldl_cons, ih _ distinct, entries_insert hb, List.append_assoc, List.map_cons]
    · rfl
    · intro b' hb'
      rw [keys_insert, if_neg hb, List.mem_append, List.mem_singleton, not_or]
      exact ⟨fresh b' (List.mem_cons_of_mem _ hb'),
        fun he => apart (he ▸ List.mem_map_of_mem hb')⟩

end Table

end Dataflow
