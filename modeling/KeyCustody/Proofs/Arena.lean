import KeyCustody.Buffer

/-!
# Arena bytes

Reading, writing and zeroing an arena work byte by byte and never change its length, so each is
described by what it does at one byte. A read sees only the bytes of its own range: a write or a
zeroing that misses the range leaves the read as it was.

Trimming and disposing zero whole sets of segments at once. What they do to the store of arenas
is summed up by `Arena.Scrubbed R A B`: every byte of `B` is the byte of `A`, or a zero where `R`
allows one.
-/

namespace KeyCustody

namespace Arena

theorem getElem?_read (a : List UInt8) (offset length k : Nat) :
    (read a offset length)[k]? = if k < length then a[offset + k]? else none := by
  simp [read, List.getElem?_take, List.getElem?_drop]

theorem length_read {a : List UInt8} {offset length : Nat} (h : offset + length ≤ a.length) :
    (read a offset length).length = length := by
  simp [read]
  omega

@[simp] theorem length_write (a : List UInt8) (offset : Nat) (data : List UInt8) :
    (write a offset data).length = a.length := by
  simp [write]

theorem getElem?_write (a : List UInt8) (offset : Nat) (data : List UInt8) (j : Nat) :
    (write a offset data)[j]? =
      if offset ≤ j ∧ j < offset + data.length then a[j]?.map fun _ => data.getD (j - offset) 0
      else a[j]? := by
  simp only [write, List.getElem?_mapIdx]
  split <;> simp

@[simp] theorem length_zero (a : List UInt8) (offset length : Nat) :
    (zero a offset length).length = a.length := by
  simp [zero]

theorem getElem?_zero (a : List UInt8) (offset length j : Nat) :
    (zero a offset length)[j]? =
      if offset ≤ j ∧ j < offset + length then a[j]?.map fun _ => 0 else a[j]? := by
  rw [zero, getElem?_write, List.length_replicate]
  split <;> rename_i h
  · rw [List.getD_eq_getElem?_getD, List.getElem?_replicate, if_pos (by omega)]
    rfl
  · rfl

@[simp] theorem modify_apply (arenas : Nat → List UInt8) (k : Nat) (f : List UInt8 → List UInt8)
    (j : Nat) : modify arenas k f j = if j = k then f (arenas j) else arenas j := rfl

/-- A read depends only on the bytes of its range. -/
theorem read_congr {a b : List UInt8} {offset length : Nat}
    (h : ∀ j, offset ≤ j → j < offset + length → a[j]? = b[j]?) :
    read a offset length = read b offset length := by
  apply List.ext_getElem?
  intro k
  rw [getElem?_read, getElem?_read]
  split
  · exact h _ (by omega) (by omega)
  · rfl

/-- A read of bytes that are all zero gives zeros. -/
theorem read_eq_replicate {a : List UInt8} {offset length : Nat}
    (hlen : offset + length ≤ a.length)
    (hzero : ∀ j b, offset ≤ j → j < offset + length → a[j]? = some b → b = 0) :
    read a offset length = List.replicate length 0 := by
  apply List.ext_getElem?
  intro k
  rw [getElem?_read, List.getElem?_replicate]
  split <;> rename_i hk
  · have hj : offset + k < a.length := by omega
    rw [List.getElem?_eq_getElem hj, hzero _ _ (by omega) (by omega) (List.getElem?_eq_getElem hj)]
  · rfl

/-- Writing inside the range of a read changes the read the way `overwrite` does. -/
theorem overwrite_read_write {a data : List UInt8} {base length offset : Nat}
    (hlen : base + length ≤ a.length) (hfit : offset + data.length ≤ length) :
    overwrite (read a base length) data offset =
      some (read (write a (base + offset) data) base length) := by
  have hread : (read a base length).length = length := length_read hlen
  rw [overwrite, if_pos (by omega), Option.some.injEq]
  apply List.ext_getElem?
  intro k
  rw [getElem?_read, getElem?_write]
  by_cases hk : k < length
  · rw [if_pos hk]
    by_cases hin : offset ≤ k ∧ k < offset + data.length
    · rw [if_pos (by omega), List.getElem?_append_left (by simp; omega),
        List.getElem?_append_right (by simp; omega), List.length_take, hread,
        Nat.min_eq_left (by omega), List.getElem?_eq_getElem (by omega : base + k < a.length),
        Option.map_some, List.getD_eq_getElem?_getD, Nat.add_sub_add_left,
        List.getElem?_eq_getElem (by omega : k - offset < data.length)]
      rfl
    · rw [if_neg (by omega)]
      rcases Nat.lt_or_ge k offset with hlt | hge
      · rw [List.getElem?_append_left (by simp; omega), List.getElem?_append_left (by simp; omega),
          List.getElem?_take, if_pos hlt, getElem?_read, if_pos hk]
      · rw [List.getElem?_append_right (by simp; omega), List.length_append, List.length_take,
          hread, Nat.min_eq_left (by omega), List.getElem?_drop, getElem?_read, if_pos (by omega)]
        congr 1
        omega
  · rw [if_neg hk, List.getElem?_eq_none]
    simp [hread]
    omega

/-- `B` is the store of arenas `A` with some bytes zeroed, only where `R` allows. -/
def Scrubbed (R : Nat → Nat → Prop) (A B : Nat → List UInt8) : Prop :=
  ∀ k j, (B k)[j]? = (A k)[j]? ∨ (R k j ∧ (B k)[j]? = (A k)[j]?.map fun _ => 0)

namespace Scrubbed

variable {R R' : Nat → Nat → Prop} {A B C : Nat → List UInt8}

theorem refl (R : Nat → Nat → Prop) (A : Nat → List UInt8) : Scrubbed R A A :=
  fun _ _ => .inl rfl

theorem mono (h : Scrubbed R A B) (hR : ∀ k j, R k j → R' k j) : Scrubbed R' A B := by
  intro k j
  rcases h k j with h | ⟨hr, h⟩
  · exact .inl h
  · exact .inr ⟨hR k j hr, h⟩

theorem trans (hAB : Scrubbed R A B) (hBC : Scrubbed R B C) : Scrubbed R A C := by
  intro k j
  rcases hBC k j with hc | ⟨hr, hc⟩ <;> rcases hAB k j with hb | ⟨hr', hb⟩
  · exact .inl (hc.trans hb)
  · exact .inr ⟨hr', hc.trans hb⟩
  · exact .inr ⟨hr, by rw [hc, hb]⟩
  · exact .inr ⟨hr, by rw [hc, hb, Option.map_map]; rfl⟩

/-- Outside the region nothing changes. -/
theorem frame (h : Scrubbed R A B) {k j : Nat} (hk : ¬ R k j) : (B k)[j]? = (A k)[j]? := by
  rcases h k j with h | ⟨hr, -⟩
  · exact h
  · exact absurd hr hk

theorem length_eq (h : Scrubbed R A B) (k : Nat) : (B k).length = (A k).length := by
  have hnone : ∀ j : Nat, (B k)[j]? = none ↔ (A k)[j]? = none := by
    intro j
    rcases h k j with h | ⟨-, h⟩ <;> rw [h]
    simp
  have h1 := (hnone (A k).length).2 (List.getElem?_eq_none (Nat.le_refl _))
  have h2 := (hnone (B k).length).1 (List.getElem?_eq_none (Nat.le_refl _))
  rw [List.getElem?_eq_none_iff] at h1 h2
  omega

/-- A byte of the scrubbed store is zero or the byte it was. -/
theorem zero_or_eq (h : Scrubbed R A B) {k j : Nat} {b : UInt8} (hb : (B k)[j]? = some b) :
    b = 0 ∨ (A k)[j]? = some b := by
  rcases h k j with h | ⟨-, h⟩
  · exact .inr (h ▸ hb)
  · rw [h] at hb
    obtain ⟨a, -, rfl⟩ := Option.map_eq_some_iff.mp hb
    exact .inl rfl

/-- Steps that each scrub at most their own region scrub, in sequence, at most the union. -/
theorem foldl {α : Type} (f : (Nat → List UInt8) → α → Nat → List UInt8)
    (Q : α → Nat → Nat → Prop) (hf : ∀ A x, Scrubbed (Q x) A (f A x)) (xs : List α)
    (A : Nat → List UInt8) : Scrubbed (fun k j => ∃ x ∈ xs, Q x k j) A (xs.foldl f A) := by
  induction xs generalizing A with
  | nil => exact refl _ A
  | cons x xs ih =>
    have hx : Scrubbed (fun k j => ∃ y ∈ x :: xs, Q y k j) A (f A x) :=
      (hf A x).mono fun k j hq => ⟨x, List.mem_cons_self, hq⟩
    have hrest : Scrubbed (fun k j => ∃ y ∈ x :: xs, Q y k j) (f A x) (xs.foldl f (f A x)) := by
      refine (ih (f A x)).mono fun k j h => ?_
      obtain ⟨y, hy, hq⟩ := h
      exact ⟨y, List.mem_cons_of_mem x hy, hq⟩
    exact hx.trans hrest

end Scrubbed

end Arena

namespace Slab

/-- Byte `j` of arena `k` lies in segment `i` of the slab. -/
def SegmentByte (s : Slab) (i k j : Nat) : Prop :=
  k = s.arena ∧ i < s.segmentCount ∧ i * s.segmentSize ≤ j ∧ j < i * s.segmentSize + s.segmentSize

/-- Byte `j` of arena `k` lies in a free segment of the slab. -/
def FreeByte (s : Slab) (k j : Nat) : Prop := ∃ i ∈ s.free, s.SegmentByte i k j

theorem zeroSegment_scrubbed (s : Slab) (A : Nat → List UInt8) (i : Nat) :
    Arena.Scrubbed (s.SegmentByte i) A (s.zeroSegment A i) := by
  intro k j
  unfold zeroSegment offsetOf?
  by_cases hi : i < s.segmentCount
  · rw [if_pos hi]
    by_cases hover : i * s.segmentSize > wordLimit
    · rw [if_pos hover]
      exact .inl rfl
    rw [if_neg hover]
    dsimp only
    rw [Arena.modify_apply]
    by_cases hk : k = s.arena
    · rw [if_pos hk, Arena.getElem?_zero]
      split <;> rename_i hj
      · exact .inr ⟨⟨hk, hi, hj⟩, rfl⟩
      · exact .inl rfl
    · rw [if_neg hk]
      exact .inl rfl
  · rw [if_neg hi]
    exact .inl rfl

/-- Zeroing the free segments touches no byte outside them. -/
theorem zeroFree_scrubbed (s : Slab) (A : Nat → List UInt8) :
    Arena.Scrubbed s.FreeByte A (s.zeroFree A) :=
  Arena.Scrubbed.foldl s.zeroSegment (fun i k j => s.SegmentByte i k j) s.zeroSegment_scrubbed
    s.free A

/-- Zeroing the free segments of several slabs touches no byte outside them. -/
theorem zeroFree_foldl_scrubbed (ss : List Slab) (A : Nat → List UInt8) :
    Arena.Scrubbed (fun k j => ∃ s ∈ ss, s.FreeByte k j) A
      (ss.foldl (fun A (s : Slab) => s.zeroFree A) A) :=
  Arena.Scrubbed.foldl (fun A (s : Slab) => s.zeroFree A) (fun s k j => s.FreeByte k j)
    (fun A s => s.zeroFree_scrubbed A) ss A

end Slab

end KeyCustody
