import Mathlib
import KeyCustody.Proofs.Arena
import KeyCustody.Proofs.Directory

/-!
# The pool invariant

A pool is described together with the leases held outside it. `Pool.Sound p ls` says four
things. The directory is in order: sound slabs with distinct ids below the next id, each owning an
arena of its byte length, and none once disposed. The leases `ls` lie inside their arenas, share
no byte, and, while the pool is live, are exactly the rented segments of its slabs. Every byte
that is not zero lies in one of their segments. The layout and the counters agree with the slabs
and with the number of leases out, and count no failed return while the pool is live.

Each pool operation keeps the invariant, with the lease list changed as the operation says: a rent
adds its lease, a return removes it, trimming and disposing keep the list. None of them changes
the bytes of a lease it is not given.
-/

namespace KeyCustody

namespace Lease

/-- Byte `j` of arena `k` belongs to the lease's segment. -/
def Covers (l : Lease) (k j : Nat) : Prop :=
  l.arena = k ∧ l.offset ≤ j ∧ j < l.offset + l.segmentSize

instance (l : Lease) (k j : Nat) : Decidable (l.Covers k j) :=
  inferInstanceAs (Decidable (_ ∧ _ ∧ _))

/-- Two leases share no byte. -/
def Apart (l l' : Lease) : Prop := ∀ k j, l.Covers k j → ¬ l'.Covers k j

theorem Apart.symm {l l' : Lease} (h : l.Apart l') : l'.Apart l :=
  fun k j h' hl => h k j hl h'

/-- A lease of positive size is never apart from itself. -/
theorem not_apart_self {l : Lease} (hl : 0 < l.segmentSize) : ¬ l.Apart l :=
  fun h => h l.arena l.offset ⟨rfl, Nat.le_refl _, by omega⟩ ⟨rfl, Nat.le_refl _, by omega⟩

end Lease

namespace Slab

/-- Lease `l` is out of slab `s`: it has the slab's size, id and arena, and one of its rented
segments, at that segment's offset. -/
structure Lent (s : Slab) (l : Lease) : Prop where
  id_eq : s.id = l.slab
  size_eq : s.segmentSize = l.segmentSize
  arena_eq : s.arena = l.arena
  index_lt : l.index < s.segmentCount
  not_free : l.index ∉ s.free
  offset_eq : l.offset = l.index * s.segmentSize

/-- The number of rented segments. -/
def rentedCount (s : Slab) : Nat := s.segmentCount - s.free.length

theorem Sound.free_length_le {s : Slab} (hs : s.Sound) : s.free.length ≤ s.segmentCount := by
  have := List.Nodup.length_le_of_subset hs.free_nodup
    (fun i hi => List.mem_range.mpr (hs.free_lt i hi))
  simpa using this

theorem Sound.not_idle {s : Slab} (hs : s.Sound) {i : Nat} (hi : i < s.segmentCount)
    (hf : i ∉ s.free) : s.isIdle = false := by
  have hsub : s.free ⊆ (List.range s.segmentCount).erase i := by
    intro j hj
    rw [(List.nodup_range).mem_erase_iff, List.mem_range]
    exact ⟨fun h => hf (h ▸ hj), hs.free_lt j hj⟩
  have hlen := List.Nodup.length_le_of_subset hs.free_nodup hsub
  rw [List.length_erase_of_mem (List.mem_range.mpr hi), List.length_range] at hlen
  simp only [isIdle, beq_eq_false_iff_ne]
  omega

/-- The segment of a lease out of a slab lies in the slab's arena, at the lease's index. -/
theorem Lent.covers {s : Slab} {l : Lease} (h : s.Lent l) {k j : Nat} :
    l.Covers k j ↔ s.SegmentByte l.index k j := by
  simp only [Lease.Covers, SegmentByte, ← h.arena_eq, h.offset_eq, ← h.size_eq]
  constructor
  · rintro ⟨hk, h1, h2⟩
    exact ⟨hk.symm, h.index_lt, h1, h2⟩
  · rintro ⟨hk, -, h1, h2⟩
    exact ⟨hk.symm, h1, h2⟩

/-- A lease out of a slab shares no byte with the slab's free segments. -/
theorem Lent.not_freeByte {s : Slab} {l : Lease} (h : s.Lent l) {k j : Nat}
    (hc : l.Covers k j) : ¬ s.FreeByte k j := by
  rintro ⟨i, hi, -, -, h1, h2⟩
  obtain ⟨-, -, h3, h4⟩ := h.covers.mp hc
  have hne : i ≠ l.index := by
    rintro rfl
    exact h.not_free hi
  exact segments_disjoint hne h1 h2 h3 h4

/-- Two leases out of one slab with different indices share no byte. -/
theorem Lent.apart {s : Slab} {l l' : Lease} (h : s.Lent l) (h' : s.Lent l')
    (hne : l.index ≠ l'.index) : l.Apart l' := by
  intro k j hc hc'
  obtain ⟨-, -, h1, h2⟩ := h.covers.mp hc
  obtain ⟨-, -, h3, h4⟩ := h'.covers.mp hc'
  exact segments_disjoint hne h1 h2 h3 h4

/-- Two leases out of one slab that share no byte have different indices. -/
theorem Lent.index_ne {s : Slab} {l l' : Lease} (h : s.Lent l)
    (h' : s.Lent l') (hap : l.Apart l') (hpos : 0 < l.segmentSize) : l.index ≠ l'.index := by
  intro he
  have hoff : l'.offset = l.offset := by rw [h'.offset_eq, h.offset_eq, he]
  have hsize : l'.segmentSize = l.segmentSize := by rw [← h'.size_eq, h.size_eq]
  have harena : l'.arena = l.arena := by rw [← h'.arena_eq, h.arena_eq]
  exact hap l.arena l.offset ⟨rfl, Nat.le_refl _, by omega⟩ ⟨harena, by omega, by omega⟩

/-- A lease out of a slab stays out of it when the free stack changes without taking its
segment back. -/
theorem Lent.withFree {s : Slab} {l : Lease} (h : s.Lent l) {free : List Nat} {rented : Bitset}
    (hf : l.index ∉ free) : Slab.Lent { s with free, rented } l :=
  ⟨h.id_eq, h.size_eq, h.arena_eq, h.index_lt, hf, h.offset_eq⟩

end Slab

namespace Pool

/-- The slabs are sound, have distinct ids below the next id and own arenas of their byte length;
a disposed pool has none. -/
structure Directory (p : Pool) : Prop where
  slabs_sound : ∀ s ∈ p.slabs, s.Sound
  ids_nodup : (p.slabs.map Slab.id).Nodup
  ids_lt : ∀ s ∈ p.slabs, s.id < p.nextSlabId
  arena_length : ∀ s ∈ p.slabs, (p.arenas s.arena).length = s.byteLength
  disposed_empty : p.disposed = true → p.slabs = []

/-- The leases held outside have positive sizes and lie at the offsets of their indices, inside
arenas older than the next slab, and share no byte; while
the pool is live each is out of one of its slabs, and every rented segment is one of them. -/
structure Outstanding (p : Pool) (ls : List Lease) : Prop where
  size_pos : ∀ l ∈ ls, 0 < l.segmentSize
  offset_eq : ∀ l ∈ ls, l.offset = l.index * l.segmentSize
  arena_lt : ∀ l ∈ ls, l.arena < p.nextSlabId
  in_arena : ∀ l ∈ ls, l.offset + l.segmentSize ≤ (p.arenas l.arena).length
  apart : ls.Pairwise Lease.Apart
  from_slab : p.disposed = false → ∀ l ∈ ls, ∃ s ∈ p.slabs, s.Lent l
  to_lease : p.disposed = false → ∀ s ∈ p.slabs, ∀ i < s.segmentCount, i ∉ s.free →
    ∃ l ∈ ls, s.Lent l ∧ l.index = i

/-- Every byte that is not zero lies in the segment of a lease held outside. -/
def Residue (p : Pool) (ls : List Lease) : Prop :=
  ∀ k j b, (p.arenas k)[j]? = some b → b ≠ 0 → ∃ l ∈ ls, l.Covers k j

/-- The layout and the counters agree with the slabs and with the leases held outside, and no
return fails while the pool is live. -/
structure Counted (p : Pool) (ls : List Lease) : Prop where
  active : p.layout.active = ls.length
  balance : p.metrics.rents = p.metrics.returns + p.metrics.releaseFailures + ls.length
  slabs : p.layout.slabs = p.slabs.length
  segments : p.layout.segments = (p.slabs.map Slab.segmentCount).sum
  bytes : p.layout.bytes = (p.slabs.map Slab.byteLength).sum
  rented : p.disposed = false → (p.slabs.map Slab.rentedCount).sum = ls.length
  failures : p.disposed = false → p.metrics.releaseFailures = 0

/-- The pool invariant, given the leases held outside the pool. -/
structure Sound (p : Pool) (ls : List Lease) : Prop where
  directory : p.Directory
  outstanding : p.Outstanding ls
  residue : p.Residue ls
  counted : p.Counted ls

variable {p : Pool} {ls ls' : List Lease}

/-- Only which leases are out matters, not their order. -/
theorem Sound.perm (h : p.Sound ls) (hp : ls.Perm ls') : p.Sound ls' := by
  obtain ⟨hd, ⟨hsize, hoff, harena, hin, hapart, hfrom, hto⟩, hres,
    ⟨hact, hbal, hsl, hseg, hby, hrent, hfail⟩⟩ := h
  refine ⟨hd, ⟨fun l hl => hsize l (hp.mem_iff.mpr hl), fun l hl => hoff l (hp.mem_iff.mpr hl),
    fun l hl => harena l (hp.mem_iff.mpr hl),
    fun l hl => hin l (hp.mem_iff.mpr hl), hp.pairwise hapart fun h => h.symm, ?_, ?_⟩, ?_,
    ⟨hp.length_eq ▸ hact, hp.length_eq ▸ hbal, hsl, hseg, hby, fun hd => hp.length_eq ▸ hrent hd,
      hfail⟩⟩
  · intro hd l hl
    exact hfrom hd l (hp.mem_iff.mpr hl)
  · intro hd s hs i hi hf
    obtain ⟨l, hl, hlent⟩ := hto hd s hs i hi hf
    exact ⟨l, hp.mem_iff.mp hl, hlent⟩
  · intro k j b hb hne
    obtain ⟨l, hl, hc⟩ := hres k j b hb hne
    exact ⟨l, hp.mem_iff.mp hl, hc⟩

/-- A slab of the pool that a lease is out of is the only one with its arena. -/
theorem Directory.eq_of_arena {p : Pool} (hd : p.Directory) {s t : Slab} (hs : s ∈ p.slabs)
    (ht : t ∈ p.slabs) (h : s.arena = t.arena) : s = t := by
  have hid : s.id = t.id := by
    rw [← (hd.slabs_sound s hs).arena_eq, ← (hd.slabs_sound t ht).arena_eq, h]
  exact List.inj_on_of_nodup_map hd.ids_nodup hs ht hid

/-- The slabs around one slab of the directory have other ids. -/
theorem Directory.ids_ne {p : Pool} (hd : p.Directory) {pre post : List Slab} {s : Slab}
    (hsplit : p.slabs = pre ++ s :: post) : (∀ t ∈ pre, t.id ≠ s.id) ∧ ∀ t ∈ post, t.id ≠ s.id := by
  have hnodup := hd.ids_nodup
  rw [hsplit, List.map_append, List.map_cons] at hnodup
  refine ⟨fun t ht he => ?_, fun t ht he => ?_⟩
  · exact (List.nodup_append.mp hnodup).2.2 _ (List.mem_map_of_mem ht) _ List.mem_cons_self he
  · exact (List.nodup_cons.mp (List.nodup_append.mp hnodup).2.1).1 (he ▸ List.mem_map_of_mem ht)

/-- No byte of a lease out of a live pool lies in a free segment of one of its slabs. -/
theorem Sound.not_freeByte (h : p.Sound ls) (hlive : p.disposed = false) {l : Lease}
    (hl : l ∈ ls) {s : Slab} (hs : s ∈ p.slabs) {k j : Nat} (hc : l.Covers k j) :
    ¬ s.FreeByte k j := by
  obtain ⟨t, ht, hlent⟩ := h.outstanding.from_slab hlive l hl
  intro hfree
  have hk : s.arena = k := hfree.elim fun _ ⟨_, hseg⟩ => hseg.1.symm
  have hts : t = s := h.directory.eq_of_arena ht hs (by rw [hk, hlent.arena_eq]; exact hc.1)
  exact hlent.not_freeByte hc (hts ▸ hfree)

/-- A lease's bytes are those of its range in its arena. -/
theorem read_congr {p p' : Pool} {l : Lease}
    (h : ∀ j, l.Covers l.arena j → (p'.arenas l.arena)[j]? = (p.arenas l.arena)[j]?) :
    p'.read l = p.read l :=
  Arena.read_congr fun j h1 h2 => h j ⟨rfl, h1, h2⟩

end Pool

end KeyCustody
