import KeyCustody.Proofs.SessionInvariant
import KeyCustody.Proofs.PoolMetrics

/-!
# Trimming

Trimming a live pool sweeps out exactly its idle slabs, those whose segments are all free, zeroing
their free segments, and answers how many it removed. The slabs that stay keep their order, their
free stacks and their rented bits, and a bucket whose slabs were all idle is gone. The trimmed-slab
counter moves on by the answer. The layout loses exactly the removed slabs, their segments and
their bytes, since in every pool the invariant describes it counts the slabs there are; the count
of leases out does not move. No lease out is touched, for a lease is out of a slab that is not
idle. Nothing that stays is idle, so trimming again at once answers zero and leaves the pool as it
is.
-/

namespace KeyCustody

namespace Pool

/-- The slabs whose segments are all free. -/
def idleSlabs (p : Pool) : List Slab := p.slabs.filter Slab.isIdle

variable {p : Pool} {ls : List Lease}

theorem recordLayout_of_layoutRecorded (h : p.LayoutRecorded) : p.recordLayout = p := by
  unfold LayoutRecorded at h
  unfold recordLayout
  rw [← h]

/-- A trim of a live pool with no idle slab, whose gauges hold its layout, answers zero and changes
nothing. -/
theorem trim_of_settled (hlive : p.disposed = false) (hnone : p.idleSlabs = [])
    (hrecorded : p.LayoutRecorded) : p.trim = (.ok 0, p) := by
  have hkeep : p.slabs.filter (!·.isIdle) = p.slabs := by
    rw [List.filter_eq_self]
    intro s hs
    have hs' : s ∉ p.idleSlabs := by simp [hnone]
    simpa [idleSlabs, hs] using hs'
  unfold idleSlabs at hnone
  -- with the fields of the pool named, what the trim rebuilds is the pool itself
  obtain ⟨disposed, slabs, nextSlabId, layout, arenas, capacity, metrics⟩ := p
  subst hlive
  simp only [trim, Bool.false_eq_true, if_false] at hnone hkeep ⊢
  simp only [hnone, hkeep, List.length_nil, List.map_nil, List.foldr_nil, List.foldl_nil,
    Nat.sub_zero, Nat.add_zero]
  exact congrArg _ (recordLayout_of_layoutRecorded hrecorded)

section Live

variable (hlive : p.disposed = false)
include hlive

theorem trim_answer : p.trim.1 = .ok p.idleSlabs.length := by
  simp [trim, hlive, idleSlabs]

theorem trim_slabs : p.trim.2.slabs = p.slabs.filter (!·.isIdle) := by
  simp [trim, hlive, recordLayout]

theorem trim_disposed : p.trim.2.disposed = false := by
  simp [trim, hlive, recordLayout]

theorem trim_layout : p.trim.2.layout = { p.layout with
    slabs := p.layout.slabs - p.idleSlabs.length
    segments := p.layout.segments - (p.idleSlabs.map Slab.segmentCount).sum
    bytes := p.layout.bytes - (p.idleSlabs.map Slab.byteLength).sum } := by
  simp [trim, hlive, recordLayout, idleSlabs, List.sum_eq_foldr]

theorem trim_slabsTrimmed :
    p.trim.2.metrics.slabsTrimmed = p.metrics.slabsTrimmed + p.idleSlabs.length := by
  simp [trim, hlive, recordLayout, idleSlabs]

/-- Every bucket keeps the slabs of its own that are not idle, in their order. -/
theorem bucket_trim (size : Nat) : p.trim.2.bucket size = (p.bucket size).filter (!·.isIdle) := by
  simp only [bucket, trim_slabs hlive, List.filter_filter, Bool.and_comm]

theorem not_idle_of_trim {s : Slab} (hs : s ∈ p.trim.2.slabs) : s.isIdle = false := by
  rw [trim_slabs hlive, List.mem_filter] at hs
  simpa using hs.2

/-- A trim right after a trim removes nothing and leaves the pool as it is. -/
theorem trim_trim : p.trim.2.trim = (.ok 0, p.trim.2) := by
  refine trim_of_settled (trim_disposed hlive) ?_ ?_
  · rw [idleSlabs, List.filter_eq_nil_iff]
    intro s hs
    simp [not_idle_of_trim hlive hs]
  · -- the first trim recorded the layout it left
    simp only [trim, hlive, Bool.false_eq_true, if_false]
    exact layoutRecorded_recordLayout _

end Live

/-- What trimming a pool the invariant describes does, when the pool is live: it answers the
number of idle slabs, keeps the others in their order, lowers the layout by exactly the removed
slabs' totals, keeps the count of leases out and their bytes, and leaves no idle slab. -/
theorem Sound.trim_reclaims (h : p.Sound ls) (hlive : p.disposed = false) :
    p.trim.1 = .ok p.idleSlabs.length ∧
    p.trim.2.slabs = p.slabs.filter (!·.isIdle) ∧
    p.trim.2.statistics.slabs + p.idleSlabs.length = p.statistics.slabs ∧
    p.trim.2.statistics.totalSegments + (p.idleSlabs.map Slab.segmentCount).sum =
      p.statistics.totalSegments ∧
    p.trim.2.statistics.allocatedBytes + (p.idleSlabs.map Slab.byteLength).sum =
      p.statistics.allocatedBytes ∧
    p.trim.2.statistics.activeRentals = p.statistics.activeRentals ∧
    p.trim.2.metrics.slabsTrimmed = p.metrics.slabsTrimmed + p.idleSlabs.length ∧
    (∀ size, p.trim.2.bucket size = (p.bucket size).filter (!·.isIdle)) ∧
    (∀ l ∈ ls, p.trim.2.read l = p.read l) ∧
    (∀ s ∈ p.trim.2.slabs, s.isIdle = false) ∧
    p.trim.2.trim = (.ok 0, p.trim.2) := by
  obtain ⟨-, -, hsl, hseg, hby, -, -⟩ := h.counted
  -- the layout counts the slabs, so the idle ones are part of each total
  have hslabs : p.idleSlabs.length ≤ p.layout.slabs := by
    rw [hsl, idleSlabs]
    exact List.length_filter_le _ _
  have hsegments : (p.idleSlabs.map Slab.segmentCount).sum ≤ p.layout.segments := by
    rw [hseg, ← sum_idle_add Slab.segmentCount p.slabs, idleSlabs]
    exact Nat.le_add_right _ _
  have hbytes : (p.idleSlabs.map Slab.byteLength).sum ≤ p.layout.bytes := by
    rw [hby, ← sum_idle_add Slab.byteLength p.slabs, idleSlabs]
    exact Nat.le_add_right _ _
  have hlayout := trim_layout hlive
  refine ⟨trim_answer hlive, trim_slabs hlive, ?_, ?_, ?_, ?_, trim_slabsTrimmed hlive,
    bucket_trim hlive, fun l hl => read_trim h hl, fun s hs => not_idle_of_trim hlive hs,
    trim_trim hlive⟩ <;> simp only [statistics, hlayout] <;> omega

end Pool

namespace Session

/-- Trimming a live pool in any session reached through the public steps reclaims exactly the idle
slabs. It answers how many there were and removes them, and with them every bucket they made up
alone; the other slabs stay in their order, with their free stacks and rented bits. The slab,
segment and byte counts drop by exactly the removed slabs' totals, the trimmed-slab counter rises
by the answer, and the count of active rentals and the bytes of every lease the session holds stay
as they were. No slab left is idle, so a second trim answers zero and changes nothing. -/
theorem Reachable.trim_reclaims_idle_slabs {s : Session} (hs : s.Reachable)
    (hlive : s.pool.disposed = false) :
    s.pool.trim.1 = .ok s.pool.idleSlabs.length ∧
    s.pool.trim.2.slabs = s.pool.slabs.filter (!·.isIdle) ∧
    s.pool.trim.2.statistics.slabs + s.pool.idleSlabs.length = s.pool.statistics.slabs ∧
    s.pool.trim.2.statistics.totalSegments + (s.pool.idleSlabs.map Slab.segmentCount).sum =
      s.pool.statistics.totalSegments ∧
    s.pool.trim.2.statistics.allocatedBytes + (s.pool.idleSlabs.map Slab.byteLength).sum =
      s.pool.statistics.allocatedBytes ∧
    s.pool.trim.2.statistics.activeRentals = s.pool.statistics.activeRentals ∧
    s.pool.trim.2.metrics.slabsTrimmed = s.pool.metrics.slabsTrimmed + s.pool.idleSlabs.length ∧
    (∀ size, s.pool.trim.2.bucket size = (s.pool.bucket size).filter (!·.isIdle)) ∧
    (∀ l ∈ s.leases, s.pool.trim.2.read l = s.pool.read l) ∧
    (∀ t ∈ s.pool.trim.2.slabs, t.isIdle = false) ∧
    s.pool.trim.2.trim = (.ok 0, s.pool.trim.2) :=
  hs.sound.pool.trim_reclaims hlive

theorem trim_reclaims_idle_slabs_after_rent :
    ((Session.ofPool (Pool.withStrategy PoolConfig.default (Strategy.constant 4).segments)).step
      (.rent 16 "a")).2.Reachable ∧
    ((Session.ofPool (Pool.withStrategy PoolConfig.default (Strategy.constant 4).segments)).step
      (.rent 16 "a")).2.pool.disposed = false ∧
    ((Session.ofPool (Pool.withStrategy PoolConfig.default (Strategy.constant 4).segments)).step
      (.rent 16 "a")).2.pool.trim.2.trim =
    (.ok 0, ((Session.ofPool (Pool.withStrategy PoolConfig.default
      (Strategy.constant 4).segments)).step (.rent 16 "a")).2.pool.trim.2) :=
  ⟨reachable_rent_after_start, rfl,
    (Reachable.trim_reclaims_idle_slabs reachable_rent_after_start rfl).2.2.2.2.2.2.2.2.2.2⟩

end Session

end KeyCustody
