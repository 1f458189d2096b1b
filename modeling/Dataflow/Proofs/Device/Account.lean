import Mathlib
import Dataflow.Device.Heap

/-!
# The account of a device

What a device has lent out is told twice: by its holders, who have the blocks of their requests
that were answered with an address and not taken back (`Loans`), and by the backend, which hands
out blocks and is given them back (`History.out`, `History.releases`). The account agrees with both
(`Allocations.Covers`), as long as the backend hands out separate blocks (`History.Separate`): an
allocation adds its block (`Covers.allocate`), a release takes away the block that it names
(`Covers.free`), and no request that fails changes anything. Since separate blocks have room in
memory, their lengths have a sum that fits a word (`Covers.liveBytes_le`).
-/

namespace Dataflow

/-! ## The backend's view -/

namespace History

/-- The blocks that are out after one more event. -/
def outAfter (out : List (Address × Request)) : Event → List (Address × Request)
  | .request asked (some address) => out ++ [(address, asked)]
  | .request _ none => out
  | .release address _ => out.filter (·.1 ≠ address)

/-- The blocks that are out, each with what was asked for. -/
def out (history : History) : List (Address × Request) :=
  history.foldl outAfter []

/-- The blocks that were given back, each with what the backend was told that had been asked
for. -/
def releases (history : History) : List (Address × Request) :=
  history.filterMap fun event =>
    match event with
    | .request _ _ => none
    | .release address asked => some (address, asked)

/-- Each event is `P` after the events before it. -/
def Each (P : History → Event → Prop) (history : History) : Prop :=
  ∀ (i : Nat) (hi : i < history.length), P (history.take i) history[i]

instance {P : History → Event → Prop} [∀ past event, Decidable (P past event)]
    (history : History) : Decidable (history.Each P) :=
  inferInstanceAs
    (Decidable (∀ (i : Nat) (hi : i < history.length), P (history.take i) history[i]))

/-- Two blocks that do not overlap. -/
def Apart (b c : Address × Request) : Prop :=
  b.1.offset + b.2.size ≤ c.1.offset ∨ c.1.offset + c.2.size ≤ b.1.offset

instance (b c : Address × Request) : Decidable (Apart b c) :=
  inferInstanceAs (Decidable (_ ∨ _))

/-- A block that lies in the range of offsets, as every block of memory does: none begins at zero,
and all end within the range. -/
structure Inside (b : Address × Request) : Prop where
  start : 0 < b.1.offset
  stop : b.1.offset + b.2.size ≤ UInt64.size

instance (b : Address × Request) : Decidable (Inside b) :=
  decidable_of_iff (0 < b.1.offset ∧ b.1.offset + b.2.size ≤ UInt64.size)
    ⟨fun ⟨h, h'⟩ => ⟨h, h'⟩, fun ⟨h, h'⟩ => ⟨h, h'⟩⟩

/-- A block that is handed out lies in the memory of the backend, apart from those that are out. -/
def Separates (past : History) : Event → Prop
  | .request asked (some address) =>
    Inside (address, asked) ∧ ∀ b ∈ past.out, Apart b (address, asked)
  | .request _ none => True
  | .release _ _ => True

instance (past : History) : (event : Event) → Decidable (Separates past event)
  | .request _ (some _) => inferInstanceAs (Decidable (_ ∧ _))
  | .request _ none => inferInstanceAs (Decidable True)
  | .release _ _ => inferInstanceAs (Decidable True)

/-- The backend has only handed out separate blocks. -/
def Separate (history : History) : Prop :=
  history.Each Separates

instance (history : History) : Decidable history.Separate :=
  inferInstanceAs (Decidable (history.Each Separates))

/-- A block that is given back is out, and the backend is told what was asked for. -/
def Returns (past : History) : Event → Prop
  | .request _ _ => True
  | .release address asked => (address, asked) ∈ past.out

/-- The backend was only given back what it had out. -/
def Lawful (history : History) : Prop :=
  history.Each Returns

section
variable {P : History → Event → Prop} {history : History} {event : Event}

theorem each_nil : Each P [] :=
  fun _ hi => absurd hi (Nat.not_lt_zero _)

/-- What holds of every event of a history holds of every event of what came first. -/
theorem Each.of_prefix {past : History} (hpast : past <+: history) (h : history.Each P) :
    past.Each P := by
  obtain ⟨rest, rfl⟩ := hpast
  intro i hi
  have hP := h i (by rw [List.length_append]; exact Nat.lt_add_right _ hi)
  rwa [List.take_append_of_le_length (Nat.le_of_lt hi), List.getElem_append_left hi] at hP

/-- What holds of every event of a history holds of its last event after those before. -/
theorem each_concat : Each P (history ++ [event]) ↔ history.Each P ∧ P history event := by
  constructor
  · intro h
    have hP := h history.length (by simp)
    rw [List.take_left, List.getElem_concat_length rfl] at hP
    exact ⟨h.of_prefix (List.prefix_append ..), hP⟩
  · rintro ⟨hpast, hlast⟩ i hi
    rw [List.length_append, List.length_singleton] at hi
    rcases Nat.lt_or_eq_of_le (Nat.le_of_lt_succ hi) with hlt | rfl
    · rw [List.take_append_of_le_length (Nat.le_of_lt hlt), List.getElem_append_left hlt]
      exact hpast i hlt
    · rwa [List.take_left, List.getElem_concat_length rfl]

/-- The blocks that are out change with the last event only. -/
theorem out_concat : out (history ++ [event]) = outAfter history.out event := by
  rw [out, List.foldl_concat]
  rfl

/-- A request releases nothing. -/
theorem releases_request (history : History) (asked : Request) (given : Option Address) :
    releases (history ++ [.request asked given]) = history.releases := by
  rw [releases, List.filterMap_append]
  exact List.append_nil _

/-- A release is noted behind those before it. -/
theorem releases_release (history : History) (address : Address) (asked : Request) :
    releases (history ++ [.release address asked]) = history.releases ++ [(address, asked)] := by
  rw [releases, List.filterMap_append]
  rfl

/-- Blocks that are out are separate. -/
theorem Separate.out (h : history.Separate) :
    history.out.Pairwise Apart ∧ ∀ b ∈ history.out, Inside b := by
  induction history using List.reverseRecOn with
  | nil => exact ⟨.nil, nofun⟩
  | append_singleton past event ih =>
    obtain ⟨hpast, hevent⟩ := each_concat.1 h
    obtain ⟨hapart, hinside⟩ := ih hpast
    rw [out_concat]
    cases event with
    | request asked given =>
      cases given with
      | none => exact ⟨hapart, hinside⟩
      | some address =>
        obtain ⟨hin, hclear⟩ := hevent
        refine ⟨List.pairwise_append.2 ⟨hapart, List.pairwise_singleton .., ?_⟩, ?_⟩
        · intro b hb c hc
          rw [List.mem_singleton.1 hc]
          exact hclear b hb
        · intro b hb
          rcases List.mem_append.1 hb with hb | hb
          · exact hinside b hb
          · rwa [List.mem_singleton.1 hb]
    | release address asked =>
      -- what is out after a release was out before
      exact ⟨hapart.filter _, fun b hb => hinside b (List.mem_filter.1 hb).1⟩

end

end History

/-! ## The holders' view -/

/-- A block that was handed out for elements. -/
structure Loan where
  address : Address
  dtype : DType
  count : Nat
  deriving DecidableEq

namespace Loan

/-- The length of the elements. -/
def bytes (loan : Loan) : Nat :=
  loan.count * loan.dtype.size

/-- What the backend is asked for: the room of one element at least. -/
def asked (loan : Loan) : Request :=
  ⟨max loan.bytes loan.dtype.size, loan.dtype.size⟩

/-- The block as the account has it. -/
def block (loan : Loan) : Block :=
  ⟨loan.dtype, loan.bytes, loan.asked⟩

/-- The block as the backend has it. -/
def grant (loan : Loan) : Address × Request :=
  (loan.address, loan.asked)

/-- The block of a loan is not empty, even if it holds no element. -/
theorem size_pos (loan : Loan) : 0 < loan.asked.size :=
  Nat.lt_of_lt_of_le loan.dtype.size_pos (Nat.le_max_right ..)

end Loan

/-- The blocks that a device has lent out, and those that were taken back. -/
structure Loans where
  out : List Loan := []
  back : List Loan := []

namespace Loans

/-- One more block is lent out. -/
def lend (loans : Loans) (loan : Loan) : Loans :=
  { loans with out := loans.out ++ [loan] }

/-- The block at an address is taken back. -/
def takeBack (loans : Loans) (address : Address) : Loans where
  out := loans.out.filter (·.address ≠ address)
  back := loans.back ++ loans.out.filter (·.address = address)

/-- The length of the blocks that are out. -/
def bytes (loans : Loans) : Nat :=
  (loans.out.map Loan.bytes).sum

/-- If the addresses are different, the one block at an address is taken back. -/
theorem filter_address {out : List Loan} (h : (out.map Loan.address).Nodup) {loan : Loan}
    (hmem : loan ∈ out) : out.filter (·.address = loan.address) = [loan] := by
  induction out with
  | nil => cases hmem
  | cons first rest ih =>
    obtain ⟨hfirst, hrest⟩ := List.nodup_cons.1 h
    rcases List.mem_cons.1 hmem with rfl | hmem
    · rw [List.filter_cons_of_pos (by simp), List.filter_eq_nil_iff.2]
      intro other hother
      have hne : other.address ≠ loan.address := fun heq =>
        hfirst (heq ▸ List.mem_map_of_mem hother)
      simpa using hne
    · have hne : first.address ≠ loan.address := fun heq =>
        hfirst (heq ▸ List.mem_map_of_mem hmem)
      rw [List.filter_cons_of_neg (by simpa using hne), ih hrest hmem]

/-- What is taken back is no longer counted. -/
theorem bytes_takeBack {loans : Loans} (h : (loans.out.map Loan.address).Nodup) {loan : Loan}
    (hmem : loan ∈ loans.out) :
    loan.bytes + (loans.takeBack loan.address).bytes = loans.bytes := by
  have hperm := List.filter_append_perm (fun other : Loan => decide (other.address = loan.address))
    loans.out
  have hsum := (hperm.map Loan.bytes).sum_eq
  rw [filter_address h hmem] at hsum
  simpa [bytes, takeBack] using hsum

end Loans

/-! ## What a device does with its account -/

/-- How a request for elements ends: the answer, and the account after it. -/
inductive Device.Allocates (d : Device) (dtype : DType) (count : Nat) (a : Allocations) :
    Except Error Address → Allocations → Prop
  /-- The device itself refuses it. -/
  | refused {e : Error} : d.request dtype count = .error e →
      d.Allocates dtype count a (.error e) a
  /-- The backend has no memory for it. -/
  | denied {asked : Request} {bytes : Nat} : d.request dtype count = .ok (asked, bytes) →
      d.grant a.history asked = none →
      d.Allocates dtype count a (.error (.allocationFailed d.name bytes))
        { a with history := a.history ++ [.request asked none] }
  /-- The block is lent out. -/
  | lent {loan : Loan} : loan.dtype = dtype → loan.count = count →
      d.request dtype count = .ok (loan.asked, loan.bytes) →
      d.grant a.history loan.asked = some loan.address →
      d.Allocates dtype count a (.ok loan.address)
        { blocks := a.blocks.insert loan.address loan.block
          liveBytes := a.liveBytes + loan.bytes
          history := a.history ++ [.request loan.asked (some loan.address)] }

/-- How a release ends: the answer, and the account after it. -/
inductive Device.Frees (d : Device) (dtype : DType) (address : Address) (a : Allocations) :
    Except Error Unit → Allocations → Prop
  /-- The address is not on the account. -/
  | unknown : a.blocks.get? address = none →
      d.Frees dtype address a (.error (.unknownAllocation d.name)) a
  /-- The block was allocated for other elements. -/
  | mismatched {block : Block} : a.blocks.get? address = some block → block.dtype ≠ dtype →
      d.Frees dtype address a (.error (.freeDTypeMismatch d.name block.dtype dtype)) a
  /-- The block is given back. -/
  | done {block : Block} : a.blocks.get? address = some block → block.dtype = dtype →
      d.Frees dtype address a (.ok ())
        { blocks := a.blocks.erase address
          liveBytes := a.liveBytes - block.bytes
          history := a.history ++ [.release address block.asked] }

/-- A request is made if the block with its padding fits the range of offsets. -/
theorem Request.of?_eq_some_iff {size align : Nat} {asked : Request} :
    Request.of? size align = some asked ↔
      asked = ⟨size, align⟩ ∧ size + (align - 1) ≤ maxBlock := by
  unfold of?
  split
  · simp_all [eq_comm]
  · simp_all

/-- A device lets a request through if its backend accepts the length of the elements and a block
can hold them; that this length fits a word follows. -/
theorem Device.request_eq_ok_iff {d : Device} {dtype : DType} {count bytes : Nat}
    {asked : Request} :
    d.request dtype count = .ok (asked, bytes) ↔
      bytes = count * dtype.size ∧ asked = ⟨max bytes dtype.size, dtype.size⟩ ∧
        bytes ≤ d.backend.maxAllocation ∧ max bytes dtype.size + (dtype.size - 1) ≤ maxBlock := by
  unfold request
  cases hmul : Word.mul? count dtype.size with
  | none =>
    have hlong := Word.fit?_eq_none_iff.1 hmul
    refine ⟨nofun, ?_⟩
    rintro ⟨rfl, -, -, hrange⟩
    have hblock : maxBlock ≤ maxWord := Nat.div_le_self ..
    omega
  | some product =>
    obtain ⟨rfl, -⟩ := Word.mul?_eq_some_iff.1 hmul
    dsimp only
    split
    · rename_i hlimit
      refine ⟨nofun, ?_⟩
      rintro ⟨rfl, -, haccepted, -⟩
      exact absurd haccepted (Nat.not_le_of_lt hlimit)
    · rename_i hlimit
      cases hof : Request.of? (max (count * dtype.size) dtype.size) dtype.size with
      | none =>
        refine ⟨nofun, ?_⟩
        rintro ⟨rfl, rfl, -, hrange⟩
        rw [Request.of?_eq_some_iff.2 ⟨rfl, hrange⟩] at hof
        cases hof
      | some asked =>
        obtain ⟨rfl, hrange⟩ := Request.of?_eq_some_iff.1 hof
        constructor
        · rintro ⟨⟩
          exact ⟨rfl, rfl, Nat.le_of_not_lt hlimit, hrange⟩
        · rintro ⟨rfl, rfl, -, -⟩
          rfl

/-- A request for elements ends in one of the three ways. -/
theorem Device.allocate_allocates (d : Device) (dtype : DType) (count : Nat) (a : Allocations) :
    d.Allocates dtype count a (d.allocate dtype count a).1 (d.allocate dtype count a).2 := by
  unfold allocate
  cases hrequest : d.request dtype count with
  | error e => exact .refused hrequest
  | ok wanted =>
    obtain ⟨asked, bytes⟩ := wanted
    dsimp only
    cases hgrant : d.grant a.history asked with
    | none => exact .denied hrequest hgrant
    | some address =>
      obtain ⟨rfl, rfl, -⟩ := request_eq_ok_iff.1 hrequest
      exact @Allocates.lent d dtype count a ⟨address, dtype, count⟩ rfl rfl hrequest hgrant

/-- A release ends in one of the ways told. -/
theorem Device.free_frees (d : Device) (dtype : DType) (address : Address) (a : Allocations) :
    d.Frees dtype address a (d.free dtype address a).1 (d.free dtype address a).2 := by
  unfold free
  cases hget : a.blocks.get? address with
  | none => exact .unknown hget
  | some block =>
    by_cases hdtype : block.dtype = dtype
    · simp only [hdtype, ne_eq, not_true_eq_false, if_false]
      exact .done hget hdtype
    · simp only [ne_eq, hdtype, not_false_eq_true, if_true]
      exact .mismatched hget hdtype

/-- Two accounts of the same blocks, after histories in which the same was given back. -/
structure Allocations.Agree (a a' : Allocations) : Prop where
  blocks : a'.blocks = a.blocks
  liveBytes : a'.liveBytes = a.liveBytes
  releases : a'.history.releases = a.history.releases

theorem Allocations.Agree.refl (a : Allocations) : a.Agree a :=
  ⟨rfl, rfl, rfl⟩

/-- A request adds to the history of the account and rewrites nothing of it. -/
theorem Device.Allocates.history {d : Device} {dtype : DType} {count : Nat} {a a' : Allocations}
    {answer : Except Error Address} (h : d.Allocates dtype count a answer a') :
    a.history <+: a'.history := by
  cases h with
  | refused => exact List.prefix_rfl
  | denied => exact List.prefix_append ..
  | lent => exact List.prefix_append ..

/-- A release adds to the history of the account and rewrites nothing of it. -/
theorem Device.Frees.history {d : Device} {dtype : DType} {address : Address} {a a' : Allocations}
    {answer : Except Error Unit} (h : d.Frees dtype address a answer a') :
    a.history <+: a'.history := by
  cases h with
  | unknown => exact List.prefix_rfl
  | mismatched => exact List.prefix_rfl
  | done => exact List.prefix_append ..

/-! ## The account and the two views -/

/-- An account that agrees with what is lent out and with what the backend was told. -/
structure Allocations.Covers (a : Allocations) (loans : Loans) : Prop where
  /-- The blocks on the account are those that are lent out. -/
  blocks : a.blocks.entries = loans.out.map fun loan => (loan.address, loan.block)
  /-- Their length in sum is that of the elements they were asked for. -/
  liveBytes : a.liveBytes = loans.bytes
  /-- The backend has the same blocks out. -/
  out : a.history.out = loans.out.map Loan.grant
  /-- The backend was given back each block that was taken back, once, and no other. -/
  releases : a.history.releases = loans.back.map Loan.grant
  /-- Each time it was told what it had been asked for the block. -/
  lawful : a.history.Lawful

namespace Allocations.Covers

variable {a : Allocations} {loans : Loans}

/-- The empty account covers no loans. -/
theorem empty : Covers {} {} :=
  ⟨rfl, rfl, rfl, rfl, History.each_nil⟩

/-- No two loans that are out have one address, since the account has each address once. -/
theorem nodup_address (h : a.Covers loans) : (loans.out.map Loan.address).Nodup := by
  have hkeys := a.blocks.distinct
  rwa [h.blocks, List.map_map] at hkeys

/-- A block on the account is lent out. -/
theorem mem_of_get? (h : a.Covers loans) {address : Address} {block : Block}
    (hget : a.blocks.get? address = some block) :
    ∃ loan ∈ loans.out, loan.address = address ∧ loan.block = block := by
  have hmem := Table.get?_eq_some_iff.1 hget
  rw [h.blocks] at hmem
  obtain ⟨loan, hloan, heq⟩ := List.mem_map.1 hmem
  cases heq
  exact ⟨loan, hloan, rfl, rfl⟩

/-- A separate block has an address that is not on the account. -/
theorem notMem_keys (h : a.Covers loans) {loan : Loan}
    (hsep : History.Separates a.history (.request loan.asked (some loan.address))) :
    loan.address ∉ a.blocks.keys := by
  intro hmem
  rw [Table.keys, h.blocks, List.map_map] at hmem
  obtain ⟨other, hother, haddress⟩ := List.mem_map.1 hmem
  have hapart := hsep.2 other.grant (h.out ▸ List.mem_map_of_mem hother)
  -- Each block has a byte, so two of them at one address overlap.
  have hoffset : other.address.offset = loan.address.offset := congrArg Address.offset haddress
  have hother := other.size_pos
  have hloan := loan.size_pos
  simp only [History.Apart, Loan.grant, hoffset] at hapart
  omega

/-- A block that is lent out is entered. -/
theorem lend (h : a.Covers loans) {loan : Loan}
    (hsep : History.Separates a.history (.request loan.asked (some loan.address))) :
    Covers
      { blocks := a.blocks.insert loan.address loan.block
        liveBytes := a.liveBytes + loan.bytes
        history := a.history ++ [.request loan.asked (some loan.address)] }
      (loans.lend loan) where
  blocks := by
    rw [Table.entries_insert (h.notMem_keys hsep), h.blocks, Loans.lend, List.map_append]
    rfl
  liveBytes := by
    simp only [Loans.bytes, Loans.lend, List.map_append, List.sum_append, List.map_singleton,
      List.sum_singleton]
    rw [h.liveBytes, Loans.bytes]
  out := by
    rw [History.out_concat, h.out, Loans.lend, List.map_append]
    rfl
  releases := by
    rw [History.releases_request, h.releases]
    rfl
  lawful := History.each_concat.2 ⟨h.lawful, trivial⟩

/-- A block that is taken back is struck out. -/
theorem takeBack (h : a.Covers loans) {loan : Loan} (hmem : loan ∈ loans.out) :
    Covers
      { blocks := a.blocks.erase loan.address
        liveBytes := a.liveBytes - loan.bytes
        history := a.history ++ [.release loan.address loan.asked] }
      (loans.takeBack loan.address) where
  blocks := by
    rw [Table.entries_erase, h.blocks, List.filter_map]
    rfl
  liveBytes := by
    dsimp only
    rw [h.liveBytes, ← Loans.bytes_takeBack h.nodup_address hmem, Nat.add_sub_cancel_left]
  out := by
    rw [History.out_concat, h.out, History.outAfter, List.filter_map]
    rfl
  releases := by
    rw [History.releases_release, h.releases, Loans.takeBack,
      Loans.filter_address h.nodup_address hmem, List.map_append]
    rfl
  lawful := by
    refine History.each_concat.2 ⟨h.lawful, ?_⟩
    have hout : loan.grant ∈ a.history.out := h.out ▸ List.mem_map_of_mem hmem
    exact hout

/-- A request that the backend has no memory for is not entered: it leaves the account as it is. -/
theorem deny (h : a.Covers loans) (asked : Request) :
    Covers { a with history := a.history ++ [.request asked none] } loans where
  blocks := h.blocks
  liveBytes := h.liveBytes
  out := by
    rw [History.out_concat]
    exact h.out
  releases := by
    rw [History.releases_request, h.releases]
  lawful := History.each_concat.2 ⟨h.lawful, trivial⟩

/-- A request that ends well is entered, and one that fails leaves the account as it is. -/
theorem allocate (h : a.Covers loans) {d : Device} {dtype : DType} {count : Nat}
    {answer : Except Error Address} {a' : Allocations}
    (hstep : d.Allocates dtype count a answer a') (hsep : a'.history.Separate) :
    (∀ address, answer = .ok address → a'.Covers (loans.lend ⟨address, dtype, count⟩)) ∧
      ∀ e, answer = .error e → a'.Covers loans := by
  cases hstep with
  | refused => exact ⟨nofun, fun _ _ => h⟩
  | denied => exact ⟨nofun, fun _ _ => h.deny _⟩
  | @lent loan hdtype hcount =>
    subst hdtype hcount
    refine ⟨?_, nofun⟩
    rintro address ⟨⟩
    exact h.lend (History.each_concat.1 hsep).2

/-- A release that ends well is struck out, and one that fails leaves the account as it is. -/
theorem free (h : a.Covers loans) {d : Device} {dtype : DType} {address : Address}
    {answer : Except Error Unit} {a' : Allocations} (hstep : d.Frees dtype address a answer a') :
    (answer = .ok () → a'.Covers (loans.takeBack address)) ∧
      ∀ e, answer = .error e → a'.Covers loans := by
  cases hstep with
  | unknown => exact ⟨nofun, fun _ _ => h⟩
  | mismatched => exact ⟨nofun, fun _ _ => h⟩
  | done hget =>
    obtain ⟨loan, hmem, rfl, rfl⟩ := h.mem_of_get? hget
    exact ⟨fun _ => h.takeBack hmem, nofun⟩

end Allocations.Covers

end Dataflow
