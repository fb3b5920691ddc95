import KeyCustody.Pool.Slab

/-!
# Slab bookkeeping

A slab's rented bits are read and set one index at a time: setting bit `i` changes bit `i` and
no other, within the words the set was made with. On that rests the invariant every slab of a pool
keeps, `Slab.Sound`: positive dimensions whose product fits a word, the arena keyed by the slab's
id, and a free stack of distinct in-range segments that are exactly those whose rented bit is
clear. Creating a slab establishes it; renting from the stack and releasing onto it keep it.

Two segments of one slab never share a byte, and every segment lies inside the arena.
-/

namespace KeyCustody

namespace Bitset

theorem mask_toBitVec (i : Nat) : (mask i).toBitVec = BitVec.twoPow 64 (i % 64) := by
  rw [mask, UInt64.toBitVec_shiftLeft, BitVec.twoPow_eq]
  have h : (i % 64).toUInt64.toBitVec % 64 = BitVec.ofNat 64 (i % 64) := by
    apply BitVec.eq_of_toNat_eq
    simp
    omega
  rw [h, BitVec.shiftLeft_eq', BitVec.toNat_ofNat]
  congr 1
  omega

/-- Masking a word with bit `i` tests the bit `i % 64` of the word. -/
theorem and_mask_ne_zero (w : UInt64) (i : Nat) :
    (w &&& mask i != 0) = w.toBitVec.getLsbD (i % 64) := by
  have hpow : BitVec.twoPow 64 (i % 64) ≠ 0#64 := by
    intro h
    have := congrArg (fun x => x.getLsbD (i % 64)) h
    simp [BitVec.getLsbD_twoPow] at this
    omega
  cases hb : w.toBitVec.getLsbD (i % 64)
  · simp [← UInt64.toBitVec_inj, mask_toBitVec, BitVec.and_twoPow, hb]
  · simp [← UInt64.toBitVec_inj, mask_toBitVec, BitVec.and_twoPow, hb, hpow]

theorem get_eq (s : Bitset) (i : Nat) :
    s.get i = (s.words[i / 64]?.map fun w => w.toBitVec.getLsbD (i % 64)).getD false := by
  unfold get
  cases s.words[i / 64]? <;> simp [and_mask_ne_zero]

@[simp] theorem size_set (s : Bitset) (i : Nat) (on : Bool) :
    (s.set i on).words.size = s.words.size := by
  simp [set]

/-- Setting bit `i` changes bit `i`, if its word exists, and no other bit. -/
theorem get_set (s : Bitset) (i : Nat) (on : Bool) (j : Nat) :
    (s.set i on).get j = if i = j ∧ i / 64 < s.words.size then on else s.get j := by
  rw [get_eq, get_eq, set, Array.getElem?_modify]
  by_cases hw : i / 64 = j / 64
  · rw [if_pos hw]
    have hm : i % 64 = j % 64 ↔ i = j := by omega
    cases h : s.words[j / 64]? with
    | none =>
      have : ¬ i / 64 < s.words.size := by
        rw [hw]
        simpa [Array.getElem?_eq_none_iff] using h
      simp [this]
    | some w =>
      have : i / 64 < s.words.size := by
        rw [hw]
        exact (Array.getElem?_eq_some_iff.mp h).1
      by_cases hij : i = j
      · subst hij
        have hi : i % 64 < 64 := Nat.mod_lt _ (by decide)
        cases on <;> simp [mask_toBitVec, hi, this]
      · have hne : i % 64 ≠ j % 64 := fun e => hij (hm.mp e)
        have hj : j % 64 < 64 := Nat.mod_lt _ (by decide)
        cases on <;> simp [mask_toBitVec, hij, hne.symm, hj]
  · rw [if_neg hw, if_neg (by omega)]

theorem get_set_ne (s : Bitset) (i : Nat) (on : Bool) {j : Nat} (hj : j ≠ i) :
    (s.set i on).get j = s.get j := by
  rw [get_set, if_neg (fun h => hj h.1.symm)]

@[simp] theorem get_new (n i : Nat) : (new n).get i = false := by
  rw [get_eq, new]
  cases h : (Array.replicate ((n + 63) / 64) (0 : UInt64))[i / 64]? with
  | none => rfl
  | some w =>
    rw [Array.getElem?_replicate] at h
    split at h
    · cases h
      simp
    · cases h

end Bitset

namespace Slab

/-- What every slab of a pool keeps: positive dimensions whose product fits a word, its arena
keyed by its id, and a free stack of distinct segments that are exactly the ones whose rented bit
is clear. -/
structure Sound (s : Slab) : Prop where
  size_pos : 0 < s.segmentSize
  count_pos : 0 < s.segmentCount
  fits : s.segmentSize * s.segmentCount ≤ wordLimit
  arena_eq : s.arena = s.id
  free_nodup : s.free.Nodup
  free_lt : ∀ i ∈ s.free, i < s.segmentCount
  free_iff : ∀ i < s.segmentCount, i ∈ s.free ↔ s.rented.get i = false
  words : s.rented.words.size = (s.segmentCount + 63) / 64

/-- Segment `i` of a slab has its rented bit inside the words. -/
theorem Sound.word_lt {s : Slab} (hs : s.Sound) {i : Nat} (hi : i < s.segmentCount) :
    i / 64 < s.rented.words.size := by
  rw [hs.words]
  omega

/-- A new slab has every segment free, from segment `0` up, over the arena keyed by its id. -/
theorem create_ok {id size count : Nat} {s : Slab} (h : create id size count = .ok s) :
    s.Sound ∧ s.id = id ∧ s.segmentSize = size ∧ s.segmentCount = count ∧ s.arena = id ∧
      s.free = List.range count := by
  unfold create at h
  split at h
  · cases h
  · split at h
    · cases h
    · rename_i hzero hfit
      cases h
      have hsize : 0 < size := by omega
      have hcount : 0 < count := by omega
      exact ⟨⟨hsize, hcount, Nat.le_of_not_gt hfit, rfl, List.nodup_range,
        fun i hi => List.mem_range.mp hi, fun i hi => by simp [hi], by simp⟩,
        rfl, rfl, rfl, rfl, rfl⟩

/-- A slab for a positive size and count whose product fits a word is made, with every segment
free. -/
theorem create_of_fits {id size count : Nat} (hsize : 0 < size) (hcount : 0 < count)
    (hfit : size * count ≤ wordLimit) :
    create id size count = .ok ⟨id, size, count, id, List.range count, Bitset.new count⟩ := by
  unfold create
  rw [if_neg (by omega), if_neg (Nat.not_lt.mpr hfit)]

/-- A slab that cannot be made is refused as a misuse: zero sizes or too many bytes. -/
theorem create_eq_error {id size count : Nat} {e : MemoryError} (h : create id size count = .error e) :
    ∃ m, e = .invalid m := by
  unfold create at h
  split at h
  · cases h
    exact ⟨_, rfl⟩
  · split at h
    · cases h
      exact ⟨_, rfl⟩
    · cases h

/-- A slab hands out a segment exactly when its free stack is not empty. -/
theorem rent?_eq_none {s : Slab} : s.rent? = none ↔ s.free = [] := by
  unfold rent?
  split <;> simp_all

/-- Renting pops the top of the free stack and sets its rented bit. -/
theorem rent?_eq_some {s s' : Slab} {i : Nat} (h : s.rent? = some (i, s')) :
    ∃ rest, s.free = i :: rest ∧ s' = { s with free := rest, rented := s.rented.set i true } := by
  unfold rent? at h
  split at h
  · cases h
  · rename_i j rest hfree
    cases h
    exact ⟨rest, hfree, rfl⟩

theorem Sound.rent? {s s' : Slab} {i : Nat} (hs : s.Sound) (h : s.rent? = some (i, s')) :
    s'.Sound := by
  obtain ⟨rest, hfree, rfl⟩ := rent?_eq_some h
  have hnd := hs.free_nodup
  rw [hfree] at hnd
  have hi : i < s.segmentCount := hs.free_lt i (by rw [hfree]; exact List.mem_cons_self)
  refine ⟨hs.size_pos, hs.count_pos, hs.fits, hs.arena_eq, (List.nodup_cons.mp hnd).2,
    fun j hj => hs.free_lt j (by rw [hfree]; exact List.mem_cons_of_mem i hj), ?_, ?_⟩
  · intro j hj
    simp only
    rw [Bitset.get_set]
    by_cases hij : i = j
    · subst hij
      simp [hs.word_lt hi, (List.nodup_cons.mp hnd).1]
    · rw [if_neg (fun h => hij h.1), ← hs.free_iff j hj, hfree, List.mem_cons]
      exact ⟨fun h => .inr h, fun h => h.resolve_left (Ne.symm hij)⟩
  · simp [hs.words]

/-- A segment off the free stack has its rented bit set. -/
theorem Sound.get_of_not_free {s : Slab} (hs : s.Sound) {i : Nat} (hi : i < s.segmentCount)
    (hf : i ∉ s.free) : s.rented.get i = true := by
  cases h : s.rented.get i
  · exact absurd ((hs.free_iff i hi).mpr h) hf
  · rfl

/-- Clearing the rented bit of a segment clears it. -/
theorem Sound.get_set_false {s : Slab} (hs : s.Sound) {i : Nat} (hi : i < s.segmentCount) :
    (s.rented.set i false).get i = false := by
  rw [Bitset.get_set, if_pos ⟨rfl, hs.word_lt hi⟩]

/-- Releasing a rented segment of the slab succeeds: the segment goes back on top of the free
stack and its rented bit is cleared. -/
theorem Sound.release_eq {s : Slab} (hs : s.Sound) {i : Nat} (hi : i < s.segmentCount)
    (hf : i ∉ s.free) :
    s.release i = .ok { s with free := i :: s.free, rented := s.rented.set i false } := by
  unfold release
  rw [if_neg (by omega), if_neg (by simp [hs.get_of_not_free hi hf])]

/-- A segment a slab takes back is one of its rented segments; it goes on top of the free stack,
and its rented bit is cleared. -/
theorem release_eq_ok {s s' : Slab} {i : Nat} (h : s.release i = .ok s') :
    i < s.segmentCount ∧ s.rented.get i = true ∧
      s' = { s with free := i :: s.free, rented := s.rented.set i false } := by
  unfold release at h
  split at h
  · cases h
  · split at h
    · cases h
    · rename_i hout hrented
      cases h
      exact ⟨by omega, by simpa using hrented, rfl⟩

theorem Sound.release {s : Slab} (hs : s.Sound) {i : Nat} (hi : i < s.segmentCount)
    (hf : i ∉ s.free) : Slab.Sound { s with free := i :: s.free, rented := s.rented.set i false } := by
  refine ⟨hs.size_pos, hs.count_pos, hs.fits, hs.arena_eq,
    List.nodup_cons.mpr ⟨hf, hs.free_nodup⟩, ?_, ?_, ?_⟩
  · intro j hj
    rcases List.mem_cons.mp hj with rfl | hj
    · exact hi
    · exact hs.free_lt j hj
  · intro j hj
    simp only
    rw [Bitset.get_set, List.mem_cons]
    by_cases hij : i = j
    · subst hij
      simp [hs.word_lt hi]
    · rw [if_neg (fun h => hij h.1), ← hs.free_iff j hj]
      exact ⟨fun h => h.resolve_left (Ne.symm hij), fun h => .inr h⟩
  · simp [hs.words]

/-- Two different segments of equal size share no byte. -/
theorem segments_disjoint {size i i' j : Nat} (hne : i ≠ i') (h1 : i * size ≤ j)
    (h2 : j < i * size + size) (h3 : i' * size ≤ j) (h4 : j < i' * size + size) : False := by
  rcases Nat.lt_or_gt_of_ne hne with hlt | hlt
  · have := Nat.mul_le_mul_right size (Nat.succ_le_of_lt hlt)
    rw [Nat.succ_mul] at this
    omega
  · have := Nat.mul_le_mul_right size (Nat.succ_le_of_lt hlt)
    rw [Nat.succ_mul] at this
    omega

/-- Every segment lies inside the arena. -/
theorem segment_le_byteLength (s : Slab) {i : Nat} (hi : i < s.segmentCount) :
    i * s.segmentSize + s.segmentSize ≤ s.byteLength := by
  have := Nat.mul_le_mul_right s.segmentSize (Nat.succ_le_of_lt hi)
  rw [Nat.succ_mul] at this
  rw [byteLength, Nat.mul_comm s.segmentSize]
  exact this

/-- In a slab whose byte length fits a word, every segment has its offset. -/
theorem offsetOf?_of_lt {s : Slab} (hfit : s.segmentSize * s.segmentCount ≤ wordLimit) {i : Nat}
    (hi : i < s.segmentCount) : s.offsetOf? i = some (i * s.segmentSize) := by
  have hend := s.segment_le_byteLength hi
  rw [byteLength] at hend
  rw [offsetOf?, if_pos hi, if_neg (by omega)]

theorem offsetOf?_of_le {s : Slab} {i : Nat} (hi : s.segmentCount ≤ i) : s.offsetOf? i = none := by
  rw [offsetOf?, if_neg (by omega)]

end Slab

end KeyCustody
