import KeyCustody.Proofs.PoolRent

/-!
# Calls on a pool

A client of a pool rents segments, writes through leases, gives leases back, trims and disposes
(`Pool.Call`). A run makes calls one after another and keeps, for each, the pool it was made on and
its answer (`Pool.run`). Reading the statistics or asking whether the pool is disposed changes
nothing and is no call here.

A refusal changes nothing. A rent of zero bytes is refused as invalid on every pool, disposed or
not. A disposed pool refuses a rent of a positive size and a trim as a use after dispose and stays
as it was; disposing it again does nothing, and no call makes it live again.

A rent on a live pool that must make a slab too large for a word is refused exactly when every
slab of the size is full and the size times the new slab's segment count passes the word limit.
The refused rent has recorded the size in the histogram and changed nothing else. No call reads
the histogram, so two pools that differ only there answer every run of calls alike and still differ
only there afterwards (`Pool.SameButSizes.run`): after the refusal every later call behaves as if the
rent had not been made.
-/

namespace KeyCustody

namespace Pool

/-- A call a client makes on a pool. -/
inductive Call where
  | rent (size : Nat)
  /-- A write of `data` through a lease, from byte `offset` of its segment on. -/
  | write (l : Lease) (offset : Nat) (data : List UInt8)
  | giveBack (l : Lease)
  | trim
  | dispose

/-- What a call answers when it succeeds. -/
inductive Answer where
  | lease (l : Lease)
  | done
  | reclaimed (count : Nat)

/-- Makes one call. -/
def call (p : Pool) : Call → Except MemoryError Answer × Pool
  | .rent size => ((p.rent size).1.map .lease, (p.rent size).2)
  | .write l offset data => (.ok .done, p.writeLease l offset data)
  | .giveBack l => ((p.giveBack l).1.map fun _ => .done, (p.giveBack l).2)
  | .trim => (p.trim.1.map .reclaimed, p.trim.2)
  | .dispose => (.ok .done, p.dispose)

/-- One call of a run: the pool it was made on, the call and its answer. -/
structure Event where
  before : Pool
  call : Call
  answer : Except MemoryError Answer

/-- Makes calls in order, keeping each with the pool it was made on and its answer, and gives the
pool left at the end. -/
def run (p : Pool) : List Call → List Event × Pool
  | [] => ([], p)
  | c :: cs => (⟨p, c, (p.call c).1⟩ :: ((p.call c).2.run cs).1, ((p.call c).2.run cs).2)

variable {p : Pool} {n : Nat}

@[simp] theorem run_nil (p : Pool) : p.run [] = ([], p) := rfl

theorem run_cons (p : Pool) (c : Call) (cs : List Call) :
    p.run (c :: cs) = (⟨p, c, (p.call c).1⟩ :: ((p.call c).2.run cs).1, ((p.call c).2.run cs).2) :=
  rfl

/-! ## Refusals -/

/-- A rent of zero bytes is refused as invalid and changes nothing, whatever the pool. -/
theorem rent_zero (p : Pool) : p.rent 0 = (.error (.invalid .zeroSize), p) := by
  simp [rent]

/-- A rent is refused before it looks at the slabs, or asks a positive size of a live pool. -/
theorem refused_or_live (p : Pool) (n : Nat) :
    (n = 0 ∨ p.disposed = true) ∨ (n ≠ 0 ∧ p.disposed = false) := by
  cases p.disposed <;> by_cases hn : n = 0 <;> simp [hn]

theorem rent_of_disposed (hd : p.disposed = true) (hn : 0 < n) :
    p.rent n = (.error (.disposed .pool), p) := by
  rw [rent_of_refused (.inr hd), if_neg (Nat.pos_iff_ne_zero.mp hn)]

theorem trim_of_disposed (hd : p.disposed = true) : p.trim = (.error (.disposed .pool), p) := by
  simp [trim, hd]

theorem dispose_of_disposed (hd : p.disposed = true) : p.dispose = p := by
  simp [dispose, hd]

@[simp] theorem dispose_disposed (p : Pool) : p.dispose.disposed = true := by
  unfold dispose
  split
  · assumption
  · rfl

/-- No call makes a disposed pool live again. -/
theorem disposed_call (hd : p.disposed = true) (c : Call) : (p.call c).2.disposed = true := by
  cases c with
  | rent size =>
    by_cases hz : size = 0
    · subst hz
      simpa [call, rent_zero] using hd
    · simpa [call, rent_of_disposed hd (Nat.pos_of_ne_zero hz)] using hd
  | write l offset data => exact hd
  | giveBack l =>
    rw [call, giveBack_of_disposed hd]
    exact hd
  | trim => simpa [call, trim_of_disposed hd] using hd
  | dispose => exact dispose_disposed p

theorem disposed_run (hd : p.disposed = true) (cs : List Call) : (p.run cs).2.disposed = true := by
  induction cs generalizing p with
  | nil => exact hd
  | cons c cs ih => exact ih (disposed_call hd c)

/-- A rent on a live pool fails for want of a slab that fits a word exactly when every slab of the
size is full and the slab it would make is too large; the failure records the size in the
histogram and changes nothing else. -/
theorem rent_eq_slabOverflow (hlive : p.disposed = false)
    (hfull : ∀ s ∈ p.slabs, s.segmentSize = n → s.free = [])
    (hover : wordLimit < n * max (p.capacity n) 1) :
    p.rent n = (.error (.invalid (.slabOverflow (max (p.capacity n) 1) n)), p.observe n) := by
  have hn : n ≠ 0 := by
    rintro rfl
    simp at hover
  have hnone : rentFromSlabs n p.slabs = none := rentFromSlabs_of_full hfull
  have hcreate : Slab.create p.nextSlabId n (max (p.capacity n) 1) =
      .error (.invalid (.slabOverflow (max (p.capacity n) 1) n)) := by
    have hcount : max (p.capacity n) 1 ≠ 0 := by omega
    simp [Slab.create, hn, hcount, hover]
  simp only [rent, hn, hlive, if_false, Bool.false_eq_true, observe_slabs, hnone,
    observe_nextSlabId, observe_capacity, hcreate]

theorem rent_slabOverflow_iff (hlive : p.disposed = false) :
    (∃ count size, (p.rent n).1 = .error (.invalid (.slabOverflow count size))) ↔
      (∀ s ∈ p.slabs, s.segmentSize = n → s.free = []) ∧ wordLimit < n * max (p.capacity n) 1 := by
  constructor
  · rintro ⟨count, size, he⟩
    have hn : n ≠ 0 := by
      rintro rfl
      rw [rent_zero] at he
      cases he
    -- only a slab that cannot be made fails a rent with a misuse
    simp only [rent, hn, hlive, if_false, Bool.false_eq_true, observe_slabs, observe_nextSlabId,
      observe_capacity] at he
    cases hr : rentFromSlabs n p.slabs with
    | some r =>
      obtain ⟨id, i, slabs⟩ := r
      rw [hr] at he
      simp only [issue] at he
      split at he
      · cases he
      · split at he <;> cases he
    | none =>
      rw [hr] at he
      refine ⟨rentFromSlabs_eq_none hr, ?_⟩
      cases hc : Slab.create p.nextSlabId n (max (p.capacity n) 1) with
      | ok slab =>
        rw [hc] at he
        dsimp only at he
        split at he
        · cases he
        · simp only [issue] at he
          split at he
          · cases he
          · split at he <;> cases he
      | error e =>
        unfold Slab.create at hc
        split at hc
        · omega
        · split at hc
          · omega
          · cases hc
  · rintro ⟨hfull, hover⟩
    exact ⟨_, _, by rw [rent_eq_slabOverflow hlive hfull hover]⟩

/-! ## The histogram is never read -/

/-- The pool with its size histogram replaced. -/
def withSizes (p : Pool) (h : Histogram) : Pool :=
  { p with metrics := { p.metrics with requestedSizes := h } }

/-- Two pools equal but for their size histograms. -/
def SameButSizes (p q : Pool) : Prop := p.withSizes {} = q.withSizes {}

variable {h : Histogram}

@[simp] theorem withSizes_slabs : (p.withSizes h).slabs = p.slabs := rfl
@[simp] theorem withSizes_disposed : (p.withSizes h).disposed = p.disposed := rfl
@[simp] theorem withSizes_nextSlabId : (p.withSizes h).nextSlabId = p.nextSlabId := rfl
@[simp] theorem withSizes_capacity : (p.withSizes h).capacity = p.capacity := rfl

theorem sameButSizes_withSizes (p : Pool) (h : Histogram) : SameButSizes p (p.withSizes h) := rfl

theorem SameButSizes.eq_withSizes {q : Pool} (hpq : SameButSizes p q) :
    q = p.withSizes q.metrics.requestedSizes := by
  have := congrArg (withSizes · q.metrics.requestedSizes) hpq
  exact this.symm

theorem SameButSizes.symm {q : Pool} (hpq : SameButSizes p q) : SameButSizes q p :=
  Eq.symm hpq

theorem SameButSizes.trans {q r : Pool} (hpq : SameButSizes p q) (hqr : SameButSizes q r) :
    SameButSizes p r :=
  Eq.trans hpq hqr

theorem SameButSizes.statistics {q : Pool} (hpq : SameButSizes p q) :
    p.statistics = q.statistics := by
  rw [hpq.eq_withSizes]
  rfl

theorem issue_withSizes (q : Pool) (h : Histogram) (size id i : Nat) :
    (q.withSizes h).issue size id i = ((q.issue size id i).1, (q.issue size id i).2.withSizes h) := by
  unfold issue
  simp only [withSizes_slabs]
  split
  · rfl
  · split <;> rfl

theorem rent_withSizes (p : Pool) (h : Histogram) (n : Nat) :
    (p.withSizes h).rent n = ((p.rent n).1, (p.rent n).2.withSizes
      (if n = 0 ∨ p.disposed = true then h else h.observe n)) := by
  rcases refused_or_live p n with hr | ⟨hn, hd⟩
  · have hr' : n = 0 ∨ (p.withSizes h).disposed = true := hr
    rw [rent_of_refused hr', rent_of_refused hr, if_pos hr]
  · rw [if_neg (by simp [hn, hd])]
    simp only [rent, hn, hd, withSizes_disposed, if_false, Bool.false_eq_true, observe_slabs,
      withSizes_slabs, observe_nextSlabId, withSizes_nextSlabId, observe_capacity, withSizes_capacity]
    -- the slabs, the next id and the capacity are the same on both sides, so both take one branch
    cases hfs : rentFromSlabs n p.slabs with
    | some r =>
      obtain ⟨id, i, slabs⟩ := r
      exact issue_withSizes { p.observe n with slabs } (h.observe n) n id i
    | none =>
      dsimp only
      cases hc : Slab.create p.nextSlabId n (max (p.capacity n) 1) with
      | error e => rfl
      | ok slab =>
        dsimp only
        cases hs : slab.rent? with
        | none => rfl
        | some r =>
          obtain ⟨i, slab'⟩ := r
          exact issue_withSizes { (p.observe n).provision slab with slabs := p.slabs ++ [slab'] }
            (h.observe n) n slab.id i

theorem giveBack_withSizes (p : Pool) (h : Histogram) (l : Lease) :
    (p.withSizes h).giveBack l = ((p.giveBack l).1, (p.giveBack l).2.withSizes h) := by
  cases hd : p.disposed
  · simp only [giveBack, zeroLease_disposed, withSizes_disposed, hd, Bool.false_eq_true, if_false,
      zeroLease_slabs, withSizes_slabs]
    split
    · rfl
    · rfl
    · rfl
  · simp only [giveBack, zeroLease_disposed, withSizes_disposed, hd, if_true]
    rfl

theorem trim_withSizes (p : Pool) (h : Histogram) :
    (p.withSizes h).trim = (p.trim.1, p.trim.2.withSizes h) := by
  unfold trim
  cases hd : p.disposed
  · simp only [withSizes_disposed, hd, Bool.false_eq_true, if_false, withSizes_slabs]
    rfl
  · simp only [withSizes_disposed, hd, if_true]

theorem dispose_withSizes (p : Pool) (h : Histogram) :
    (p.withSizes h).dispose = p.dispose.withSizes h := by
  unfold dispose
  cases hd : p.disposed
  · simp only [withSizes_disposed, hd, Bool.false_eq_true, if_false, withSizes_slabs]
    rfl
  · simp only [withSizes_disposed, hd, if_true]

/-- A call on a pool with another histogram answers the same and leaves the same pool, but for
the histogram. -/
theorem call_withSizes (p : Pool) (h : Histogram) (c : Call) :
    ((p.withSizes h).call c).1 = (p.call c).1 ∧ SameButSizes (p.call c).2 ((p.withSizes h).call c).2 := by
  cases c with
  | rent size =>
    rw [call, call, rent_withSizes]
    exact ⟨rfl, sameButSizes_withSizes _ _⟩
  | write l offset data => exact ⟨rfl, sameButSizes_withSizes _ h⟩
  | giveBack l =>
    rw [call, call, giveBack_withSizes]
    exact ⟨rfl, sameButSizes_withSizes _ _⟩
  | trim =>
    rw [call, call, trim_withSizes]
    exact ⟨rfl, sameButSizes_withSizes _ _⟩
  | dispose =>
    rw [call, call, dispose_withSizes]
    exact ⟨rfl, sameButSizes_withSizes _ _⟩

/-- Pools equal but for their histograms answer every run of calls alike, and are equal but for
their histograms afterwards. -/
theorem SameButSizes.run {q : Pool} (hpq : SameButSizes p q) (cs : List Call) :
    (p.run cs).1.map Event.answer = (q.run cs).1.map Event.answer ∧
      SameButSizes (p.run cs).2 (q.run cs).2 := by
  induction cs generalizing p q with
  | nil => exact ⟨rfl, hpq⟩
  | cons c cs ih =>
    rw [hpq.eq_withSizes]
    obtain ⟨hanswer, hsame⟩ := call_withSizes p q.metrics.requestedSizes c
    obtain ⟨hanswers, hlast⟩ := ih hsame
    simp only [run_cons, List.map_cons, hanswer]
    exact ⟨congrArg _ hanswers, hlast⟩

/-- Refusals leave a pool as it was, and disposal is for good. A rent of zero bytes is refused as
invalid on every pool. A disposed pool stays disposed whatever is called on it, disposing it again
does nothing, and it refuses a rent of a positive size and a trim as a use after dispose, staying as
it was. On a live pool a rent fails for a slab too large for a word exactly when every slab of its
size is full and the new slab would be too large. That failure only records the size in the
histogram, so every later run of calls answers as it would have without it. -/
theorem refusals_leave_pool_unchanged :
    (∀ p : Pool, p.rent 0 = (.error (.invalid .zeroSize), p)) ∧
    (∀ p : Pool, p.dispose.disposed = true) ∧
    (∀ p : Pool, p.disposed = true →
      (∀ cs, (p.run cs).2.disposed = true) ∧ p.dispose = p ∧
      (∀ n, 0 < n → p.rent n = (.error (.disposed .pool), p)) ∧
      p.trim = (.error (.disposed .pool), p)) ∧
    (∀ (p : Pool) (n : Nat), p.disposed = false →
      ((∃ count size, (p.rent n).1 = .error (.invalid (.slabOverflow count size))) ↔
        (∀ s ∈ p.slabs, s.segmentSize = n → s.free = []) ∧ wordLimit < n * max (p.capacity n) 1)) ∧
    (∀ (p : Pool) (n : Nat), p.disposed = false →
      (∀ s ∈ p.slabs, s.segmentSize = n → s.free = []) → wordLimit < n * max (p.capacity n) 1 →
      p.rent n = (.error (.invalid (.slabOverflow (max (p.capacity n) 1) n)),
        p.withSizes (p.metrics.requestedSizes.observe n)) ∧
      ∀ cs, ((p.rent n).2.run cs).1.map Event.answer = (p.run cs).1.map Event.answer ∧
        SameButSizes ((p.rent n).2.run cs).2 (p.run cs).2) := by
  refine ⟨rent_zero, dispose_disposed, ?_, fun p n hlive => rent_slabOverflow_iff hlive, ?_⟩
  · intro p hd
    exact ⟨disposed_run hd, dispose_of_disposed hd, fun n hn => rent_of_disposed hd hn,
      trim_of_disposed hd⟩
  · intro p n hlive hfull hover
    have hrent := rent_eq_slabOverflow hlive hfull hover
    refine ⟨hrent, fun cs => ?_⟩
    -- the failed rent left `p` with the size recorded in the histogram only
    rw [hrent]
    exact (sameButSizes_withSizes p _).symm.run cs

/-- A rent of zero bytes on a disposed pool is refused as invalid, not as a use after dispose. -/
theorem rent_zero_after_dispose :
    (Pool.withStrategy PoolConfig.default fun _ => 1).dispose.disposed = true ∧
    ((Pool.withStrategy PoolConfig.default fun _ => 1).dispose.rent 0).1 ≠
      .error (.disposed .pool) := by
  refine ⟨dispose_disposed _, ?_⟩
  rw [rent_zero]
  intro h
  cases h

end Pool

end KeyCustody
