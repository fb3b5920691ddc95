import KeyCustody.Proofs.Slab

/-!
# Runs of a slab

A slab takes two calls: renting the top free segment, and releasing a segment by its index. A
refused call leaves the slab as it was. Along any run from a new slab, the free stack and the
rented bits stay two views of one set (`Slab.Sound`, which each call keeps). The stack holds
distinct in-range indices, and an index is on it exactly when its bit is clear.

What each call does then follows from its index. Renting fails only on an empty stack; otherwise
it pops an index whose bit was clear and sets that bit. Releasing an index past the slab is
refused as corruption. Releasing one that is not rented is refused as a double release naming
the slab and the segment. Otherwise the bit is cleared and the index pushed. Every segment has
its offset `i * size`, with no overflow, since the slab's byte length fits a word, and the
segment ends inside the arena.
-/

namespace KeyCustody

namespace Slab

/-- A call on a slab. -/
inductive Op where
  | rent
  | release (i : Nat)

/-- Makes a call; a refused call leaves the slab as it was. -/
def apply (s : Slab) : Op → Slab
  | .rent =>
    match s.rent? with
    | some (_, s') => s'
    | none => s
  | .release i =>
    match s.release i with
    | .ok s' => s'
    | .error _ => s

/-- Makes calls one after another. -/
def applyAll (s : Slab) (ops : List Op) : Slab := ops.foldl apply s

variable {s s' : Slab} {i : Nat}

@[simp] theorem applyAll_nil (s : Slab) : s.applyAll [] = s := rfl

@[simp] theorem applyAll_cons (s : Slab) (op : Op) (ops : List Op) :
    s.applyAll (op :: ops) = (s.apply op).applyAll ops := rfl

/-! ## One call -/

/-- A released segment is one whose bit is set; it goes on top of the stack with its bit
cleared. -/
theorem release_of_rented (hi : i < s.segmentCount) (hr : s.rented.get i = true) :
    s.release i = .ok { s with free := i :: s.free, rented := s.rented.set i false } := by
  rw [release, if_neg (by omega), if_neg (by simp [hr])]

/-- An index past the slab is refused as corruption. -/
theorem release_of_le (hi : s.segmentCount ≤ i) :
    s.release i = .error (.corruption ("segment " ++ toString i ++ " is outside slab " ++
      toString s.id ++ " (" ++ toString s.segmentCount ++ " segments)")) := by
  rw [release, if_pos hi]

/-- A segment whose bit is clear is refused as released twice. -/
theorem release_of_not_rented (hi : i < s.segmentCount) (hr : s.rented.get i = false) :
    s.release i = .error (.doubleRelease s.id i) := by
  rw [release, if_neg (by omega), if_pos (by simp [hr])]

theorem apply_release_of_error {e : MemoryError} (h : s.release i = .error e) :
    s.apply (.release i) = s := by
  simp [apply, h]

/-- A call keeps the slab's id and dimensions. -/
theorem apply_dims (s : Slab) (op : Op) :
    (s.apply op).id = s.id ∧ (s.apply op).segmentSize = s.segmentSize ∧
      (s.apply op).segmentCount = s.segmentCount := by
  cases op with
  | rent =>
    cases h : s.rent? with
    | none => simp [apply, h]
    | some r =>
      obtain ⟨rest, -, heq⟩ := rent?_eq_some h
      simp [apply, h, heq]
  | release i =>
    cases h : s.release i with
    | error e => simp [apply, h]
    | ok s' =>
      obtain ⟨-, -, rfl⟩ := release_eq_ok h
      simp [apply, h]

/-- Renting from a sound slab pops an index whose bit was clear and sets that bit alone. -/
theorem Sound.rent?_pops (hs : s.Sound) (h : s.rent? = some (i, s')) :
    s.free = i :: s'.free ∧ s.rented.get i = false ∧ s'.rented.get i = true ∧
      ∀ j ≠ i, s'.rented.get j = s.rented.get j := by
  obtain ⟨rest, hfree, rfl⟩ := rent?_eq_some h
  have hmem : i ∈ s.free := by simp [hfree]
  have hi : i < s.segmentCount := hs.free_lt i hmem
  refine ⟨hfree, (hs.free_iff i hi).mp hmem, ?_, fun j hj => s.rented.get_set_ne i true hj⟩
  rw [Bitset.get_set, if_pos ⟨rfl, hs.word_lt hi⟩]

/-- Every call keeps a slab sound: the two cases of each call that change the slab are the
preservation lemmas of `rent?` and `release`. -/
theorem Sound.apply (hs : s.Sound) (op : Op) : (s.apply op).Sound := by
  cases op with
  | rent =>
    cases h : s.rent? with
    | none => simpa [Slab.apply, h] using hs
    | some r =>
      obtain ⟨i, s'⟩ := r
      simpa [Slab.apply, h] using hs.rent? h
  | release i =>
    cases h : s.release i with
    | error e => simpa [Slab.apply, h] using hs
    | ok s' =>
      obtain ⟨hi, hr, rfl⟩ := release_eq_ok h
      -- a rented segment is off the free stack, so it can go back on
      have hf : i ∉ s.free := fun hmem => by
        rw [(hs.free_iff i hi).mp hmem] at hr
        cases hr
      simpa [Slab.apply, h] using hs.release hi hf

/-! ## Runs -/

theorem Sound.applyAll (hs : s.Sound) (ops : List Op) : (s.applyAll ops).Sound := by
  induction ops generalizing s with
  | nil => exact hs
  | cons op ops ih => exact ih (hs.apply op)

theorem applyAll_dims (s : Slab) (ops : List Op) :
    (s.applyAll ops).id = s.id ∧ (s.applyAll ops).segmentSize = s.segmentSize ∧
      (s.applyAll ops).segmentCount = s.segmentCount := by
  induction ops generalizing s with
  | nil => exact ⟨rfl, rfl, rfl⟩
  | cons op ops ih =>
    obtain ⟨hid, hsize, hcount⟩ := apply_dims s op
    obtain ⟨hid', hsize', hcount'⟩ := ih (s.apply op)
    exact ⟨hid'.trans hid, hsize'.trans hsize, hcount'.trans hcount⟩

/-! ## What a sound slab answers -/

/-- How a slab with id `id` of `count` segments of `size` bytes stands and answers each call: its
free stack holds distinct in-range indices, exactly those whose rented bit is clear; renting fails
only on an empty stack and otherwise pops a clear index and sets that bit alone; releasing refuses
an index past the slab as corruption and a segment not rented as a double release, leaving the
slab as it was, and otherwise clears the bit alone and pushes the index; segment `i` has offset
`i * size` exactly when `i < count`, and ends inside the arena. -/
structure Contract (s : Slab) (id size count : Nat) : Prop where
  id_eq : s.id = id
  size_eq : s.segmentSize = size
  count_eq : s.segmentCount = count
  free_nodup : s.free.Nodup
  free_lt : ∀ i ∈ s.free, i < count
  free_iff : ∀ i < count, i ∈ s.free ↔ s.rented.get i = false
  rent_none : s.rent? = none ↔ s.free = []
  rent_some : ∀ i s', s.rent? = some (i, s') → s.free = i :: s'.free ∧ s.rented.get i = false ∧
    s'.rented.get i = true ∧ ∀ j ≠ i, s'.rented.get j = s.rented.get j
  release_outside : ∀ i, count ≤ i →
    s.release i = .error (.corruption ("segment " ++ toString i ++ " is outside slab " ++
      toString id ++ " (" ++ toString count ++ " segments)")) ∧ s.apply (.release i) = s
  release_free : ∀ i < count, s.rented.get i = false →
    s.release i = .error (.doubleRelease id i) ∧ s.apply (.release i) = s
  release_rented : ∀ i < count, s.rented.get i = true →
    s.release i = .ok { s with free := i :: s.free, rented := s.rented.set i false } ∧
    (s.rented.set i false).get i = false ∧ ∀ j ≠ i, (s.rented.set i false).get j = s.rented.get j
  offset : ∀ i, s.offsetOf? i = if i < count then some (i * size) else none
  in_arena : ∀ i < count, i * size + size ≤ s.byteLength

/-- A sound slab keeps its contract: the stack and the bits agree, so each call's answer is the one
its index calls for. -/
theorem Sound.contract (hs : s.Sound) : s.Contract s.id s.segmentSize s.segmentCount where
  id_eq := rfl
  size_eq := rfl
  count_eq := rfl
  free_nodup := hs.free_nodup
  free_lt := hs.free_lt
  free_iff := hs.free_iff
  rent_none := rent?_eq_none
  rent_some _ _ h := hs.rent?_pops h
  release_outside i hi := ⟨release_of_le hi, apply_release_of_error (release_of_le hi)⟩
  release_free i hi hr :=
    ⟨release_of_not_rented hi hr, apply_release_of_error (release_of_not_rented hi hr)⟩
  release_rented i hi hr :=
    ⟨release_of_rented hi hr, hs.get_set_false hi, fun _ hj => s.rented.get_set_ne i false hj⟩
  offset i := by
    by_cases hi : i < s.segmentCount
    · rw [if_pos hi, offsetOf?_of_lt hs.fits hi]
    · rw [if_neg hi, offsetOf?_of_le (by omega)]
  in_arena _ hi := s.segment_le_byteLength hi

end Slab

/-- A slab made for a positive size and count whose byte length fits a word keeps its contract
through every run of rents and releases: its free stack and its rented bits stay in step, and each
call answers as its index calls for. -/
theorem slab_stack_and_bits_stay_in_step {id size count : Nat} (hsize : 0 < size)
    (hcount : 0 < count) (hfit : size * count ≤ wordLimit) :
    ∃ s₀, Slab.create id size count = .ok s₀ ∧
      ∀ ops, (s₀.applyAll ops).Contract id size count := by
  have hcreate : Slab.create id size count =
      .ok ⟨id, size, count, id, List.range count, Bitset.new count⟩ :=
    Slab.create_of_fits hsize hcount hfit
  refine ⟨_, hcreate, fun ops => ?_⟩
  obtain ⟨hs₀, -⟩ := Slab.create_ok hcreate
  -- a run keeps the slab sound and its id and dimensions those it was made with
  obtain ⟨hid, hsz, hcnt⟩ := Slab.applyAll_dims
    ⟨id, size, count, id, List.range count, Bitset.new count⟩ ops
  have hcontract := (hs₀.applyAll ops).contract
  rw [hid, hsz, hcnt] at hcontract
  exact hcontract

/-- The slab of four 16-byte segments with id 7 keeps its contract through every run. -/
theorem slab_of_four_segments_stays_in_step :
    0 < 16 ∧ 0 < 4 ∧ 16 * 4 ≤ wordLimit ∧
      ∃ s₀, Slab.create 7 16 4 = .ok s₀ ∧ ∀ ops, (s₀.applyAll ops).Contract 7 16 4 :=
  ⟨by decide, by decide, by decide, slab_stack_and_bits_stay_in_step (by decide) (by decide) (by decide)⟩

end KeyCustody
