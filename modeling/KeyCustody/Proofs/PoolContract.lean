import KeyCustody.Proofs.SessionInvariant

/-!
# What a pool promises its clients

Two promises hold in every session reached through the public steps: the statistics count what
they claim to count, and a lease always goes back cleanly.

## Accounting

A pool keeps its statistics as counters that each rent, return, trim and dispose moves, and never
counts them again from the slabs. They still agree with what they count. `Pool.Accounted p ls`
says so while the leases `ls` are out. The active count is the number of leases out, and every
rent is matched by a return, a failed return or a lease still out. The slab, segment and byte
counts are those of the directory. While the pool is live, the active count is its number of
rented segments, so it never exceeds the segment count. Once the pool is disposed it counts no
slab, segment or byte, and returning a lease still out takes exactly one from the active count and
adds one failed return.

A pool in order is accounted for (`Pool.Sound.accounted`). So is the pool of every session reached
through the public steps, with the leases its objects hold (`Session.Reachable.pool_accounted`).

## Returns

The errors a return can report for corruption or a double release guard against leases that did
not come from the pool, or came back twice. Neither happens to a lease still out of a pool in
order (`Pool.ReturnsCleanly`). On a live pool the return succeeds: the segment goes back on top of
its slab's free stack and its rented bit is cleared. On a disposed pool it is refused as a use
after dispose. Likewise a rent never reports corruption: its slab is always found again, with the
segment in range (`Session.Reachable.returns_valid`).
-/

namespace KeyCustody

namespace Slab

theorem rentedCount_le (s : Slab) : s.rentedCount ≤ s.segmentCount := Nat.sub_le _ _

end Slab

namespace Pool

/-- What the statistics of a pool say while the leases `ls` are out of it. -/
structure Accounted (p : Pool) (ls : List Lease) : Prop where
  active : p.statistics.activeRentals = ls.length
  balance : p.statistics.rents =
    p.statistics.returns + p.metrics.releaseFailures + p.statistics.activeRentals
  slabs : p.statistics.slabs = p.slabs.length
  segments : p.statistics.totalSegments = (p.slabs.map Slab.segmentCount).sum
  bytes : p.statistics.allocatedBytes = (p.slabs.map fun s => s.segmentSize * s.segmentCount).sum
  rented : p.disposed = false → p.statistics.activeRentals = (p.slabs.map Slab.rentedCount).sum
  bounded : p.disposed = false → p.statistics.activeRentals ≤ p.statistics.totalSegments
  emptied : p.disposed = true →
    p.statistics.slabs = 0 ∧ p.statistics.totalSegments = 0 ∧ p.statistics.allocatedBytes = 0
  late_return : p.disposed = true → ∀ l ∈ ls,
    (p.giveBack l).2.statistics.activeRentals + 1 = p.statistics.activeRentals ∧
    (p.giveBack l).2.metrics.releaseFailures = p.metrics.releaseFailures + 1 ∧
    (p.giveBack l).2.statistics.returns = p.statistics.returns

variable {p : Pool} {ls : List Lease}

/-- A return to a disposed pool counts one lease less as active, one more failed return and no
return. -/
theorem statistics_giveBack_of_disposed (hd : p.disposed = true) (l : Lease) :
    (p.giveBack l).2.statistics.activeRentals = p.statistics.activeRentals - 1 ∧
    (p.giveBack l).2.metrics.releaseFailures = p.metrics.releaseFailures + 1 ∧
    (p.giveBack l).2.statistics.returns = p.statistics.returns := by
  rw [giveBack_of_disposed hd]
  exact ⟨rfl, rfl, rfl⟩

theorem Sound.accounted (h : p.Sound ls) : p.Accounted ls := by
  obtain ⟨hact, hbal, hsl, hseg, hby, hrent⟩ := h.counted
  have hempty := h.directory.disposed_empty
  have hrented : p.disposed = false →
      p.statistics.activeRentals = (p.slabs.map Slab.rentedCount).sum :=
    fun hlive => hact.trans (hrent hlive).symm
  refine ⟨hact, ?_, hsl, hseg, hby, hrented, ?_, ?_, ?_⟩
  · simp only [statistics]
    omega
  · -- no slab has more segments rented than it has
    intro hlive
    rw [hrented hlive, show p.statistics.totalSegments = p.layout.segments from rfl, hseg]
    exact List.sum_le_sum fun s _ => s.rentedCount_le
  · intro hd
    simp [statistics, hsl, hseg, hby, hempty hd]
  · intro hd l hl
    obtain ⟨hactive, hfail, hret⟩ := statistics_giveBack_of_disposed hd l
    have hpos : 0 < ls.length := List.length_pos_of_mem hl
    refine ⟨?_, hfail, hret⟩
    rw [hactive]
    simp only [statistics] at hact ⊢
    omega

/-- How returning the lease `l` goes. On a live pool it succeeds: the segment, whose rented bit
is set, goes back on top of its slab's free stack and the bit is cleared. On a disposed pool it
is refused as a use after dispose. No other error comes of it. -/
structure ReturnsCleanly (p : Pool) (l : Lease) : Prop where
  live : p.disposed = false → (p.giveBack l).1 = .ok () ∧
    ∃ pre s post, p.slabs = pre ++ s :: post ∧ s.id = l.slab ∧ s.rented.get l.index = true ∧
      (p.giveBack l).2.slabs =
        pre ++ { s with free := l.index :: s.free, rented := s.rented.set l.index false } :: post ∧
      (s.rented.set l.index false).get l.index = false
  disposed : p.disposed = true → (p.giveBack l).1 = .error (.disposed .pool)
  only_disposed : ∀ e, (p.giveBack l).1 = .error e → e = .disposed .pool

theorem Sound.returnsCleanly {l : Lease} (h : p.Sound ls) (hl : l ∈ ls) : p.ReturnsCleanly l := by
  -- the invariant does not depend on the order of the leases out, so `l` may come first
  obtain ⟨front, back, hsplit⟩ := List.append_of_mem hl
  have h' : p.Sound (l :: (front ++ back)) := h.perm (hsplit ▸ List.perm_middle)
  have hdisposed : p.disposed = true → (p.giveBack l).1 = .error (.disposed .pool) := by
    intro hd
    rw [giveBack_of_disposed hd]
  refine ⟨fun hlive => ?_, hdisposed, fun e he => ?_⟩
  · obtain ⟨pre, s, post, hslabs, hlent, -, -, heq⟩ := h'.giveBack_live hlive
    have hs := h.directory.slabs_sound s (by simp [hslabs])
    rw [heq]
    exact ⟨rfl, pre, s, post, hslabs, hlent.id_eq,
      hs.get_of_not_free hlent.index_lt hlent.not_free, rfl, hs.get_set_false hlent.index_lt⟩
  · cases hlive : p.disposed
    · obtain ⟨_, _, _, -, -, -, -, heq⟩ := h'.giveBack_live hlive
      rw [heq] at he
      cases he
    · rw [hdisposed hlive] at he
      exact (Except.error.inj he).symm

end Pool

namespace Session

/-- In every session reached through the public steps, the pool's statistics count the leases
the session's objects hold, and agree with the pool's slabs. -/
theorem Reachable.pool_accounted {s : Session} (h : s.Reachable) : s.pool.Accounted s.leases :=
  h.sound.pool.accounted

theorem pool_accounted_after_rent :
    ((Session.ofPool (Pool.withStrategy PoolConfig.default (Strategy.constant 4).segments)).step
      (.rent 16 "a")).2.Reachable ∧
    ((Session.ofPool (Pool.withStrategy PoolConfig.default (Strategy.constant 4).segments)).step
      (.rent 16 "a")).2.pool.Accounted
    ((Session.ofPool (Pool.withStrategy PoolConfig.default (Strategy.constant 4).segments)).step
      (.rent 16 "a")).2.leases :=
  ⟨reachable_rent_after_start, Reachable.pool_accounted reachable_rent_after_start⟩

/-- In every session reached through the public steps, every lease its objects hold goes back
cleanly, and a rent never reports corruption. -/
theorem Reachable.returns_valid {s : Session} (h : s.Reachable) :
    (∀ l ∈ s.leases, s.pool.ReturnsCleanly l) ∧
    ∀ size e, (s.pool.rent size).1 = .error e → ∀ d, e ≠ .corruption d := by
  have hp : s.pool.Sound s.leases := h.sound.pool
  refine ⟨fun l hl => hp.returnsCleanly hl, fun size e he => ?_⟩
  exact (hp.rent_error (Prod.ext he rfl)).2

theorem returns_valid_after_rent :
    ((Session.ofPool (Pool.withStrategy PoolConfig.default (Strategy.constant 4).segments)).step
      (.rent 16 "a")).2.Reachable ∧
    ((∀ l ∈ ((Session.ofPool (Pool.withStrategy PoolConfig.default
        (Strategy.constant 4).segments)).step (.rent 16 "a")).2.leases,
      ((Session.ofPool (Pool.withStrategy PoolConfig.default (Strategy.constant 4).segments)).step
        (.rent 16 "a")).2.pool.ReturnsCleanly l) ∧
    ∀ size e, (((Session.ofPool (Pool.withStrategy PoolConfig.default
        (Strategy.constant 4).segments)).step (.rent 16 "a")).2.pool.rent size).1 = .error e →
      ∀ d, e ≠ .corruption d) :=
  ⟨reachable_rent_after_start, Reachable.returns_valid reachable_rent_after_start⟩

end Session

end KeyCustody
