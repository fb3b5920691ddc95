import KeyCustody.Proofs.PoolCalls

/-!
# Metrics of a pool

A pool keeps its layout twice: once as it is, and once in the gauges, copied by hand wherever a
call changes the layout. Every call does so, and every pool reached by calls from an empty one has
gauges that hold its layout (`Pool.LayoutRecorded`), whatever leases the calls hand back. One call
changes the layout before it copies it: a rent that makes a slab counts the slab first, and copies
the layout only once it has taken a segment of it. Taking that segment cannot fail because the new
slab is not empty and its id is new; so the gauges rest on the directory of slabs
(`Pool.Directory`), which every call keeps, forged returns and writes included.

The counters tally the calls of a run: the trimmed-slab counter is the sum of what the trims
answered, the failure counter the number of returns refused, and the histogram's count the number
of rents of a positive size made while the pool was live.
-/

namespace KeyCustody

/-- A segment a slab takes back was rented, and the slab it becomes is sound, with the same id,
arena and byte length. -/
theorem Slab.Sound.release_ok {s s' : Slab} (hs : s.Sound) {i : Nat} (h : s.release i = .ok s') :
    s'.Sound ∧ s'.id = s.id ∧ s'.arena = s.arena ∧ s'.byteLength = s.byteLength := by
  obtain ⟨hi, hrented, rfl⟩ := Slab.release_eq_ok h
  have hf : i ∉ s.free := by
    rw [hs.free_iff i hi]
    simpa using hrented
  exact ⟨hs.release hi hf, rfl, rfl, rfl⟩

namespace Pool

variable {p : Pool}

/-- A return that a slab accepts changes that slab alone, a slab of the lease's size and id. -/
theorem releaseIn_eq_ok {l : Lease} {slabs slabs' : List Slab}
    (h : releaseIn l slabs = some (.ok slabs')) :
    ∃ pre s s' post, slabs = pre ++ s :: post ∧ slabs' = pre ++ s' :: post ∧
      s.segmentSize = l.segmentSize ∧ s.id = l.slab ∧ s.release l.index = .ok s' := by
  induction slabs generalizing slabs' with
  | nil => cases h
  | cons t rest ih =>
    unfold releaseIn at h
    split at h
    · rename_i hmatch
      split at h
      · cases hr : t.release l.index with
        | error e =>
          rw [hr] at h
          cases h
        | ok t' =>
          rw [hr] at h
          cases h
          exact ⟨[], t, t', rest, rfl, rfl, hmatch.1, hmatch.2, hr⟩
      · cases h
    · -- the slabs passed over keep their place in front of the one that took the segment
      obtain ⟨r, hr, heq⟩ := Option.map_eq_some_iff.mp h
      cases r with
      | error e => cases heq
      | ok rest' =>
        cases heq
        obtain ⟨pre, s, s', post, rfl, rfl, hsize, hid, hrel⟩ := ih hr
        exact ⟨t :: pre, s, s', post, rfl, rfl, hsize, hid, hrel⟩

/-- What a return can do. A live pool refuses it, counting a failure, or one of its slabs takes
the segment back and the return is counted; a disposed pool refuses it, counting a failure, and
stops counting the lease as active. Whatever happens, the segment has been zeroed. -/
theorem giveBack_cases (p : Pool) (l : Lease) :
    (p.disposed = false ∧ ∃ e, p.giveBack l = (.error e, (p.zeroLease l).countFailure)) ∨
    (p.disposed = false ∧ ∃ pre s s' post, p.slabs = pre ++ s :: post ∧
      s.segmentSize = l.segmentSize ∧ s.id = l.slab ∧ s.release l.index = .ok s' ∧
      p.giveBack l = (.ok (), { p.zeroLease l with
        slabs := pre ++ s' :: post
        layout := { p.layout with active := p.layout.active - 1 }
        metrics := { p.metrics with returns := p.metrics.returns + 1 } }.recordLayout)) ∨
    (p.disposed = true ∧ p.giveBack l = (.error (.disposed .pool), { p.zeroLease l with
      layout := { p.layout with active := p.layout.active - 1 } }.recordLayout.countFailure)) := by
  cases hlive : p.disposed
  · -- a live pool hands the segment to the first slab of the lease's size and id
    cases hr : releaseIn l p.slabs with
    | none =>
      refine .inl ⟨rfl, ?_⟩
      simp [Pool.giveBack, hlive, hr]
    | some r =>
      cases r with
      | error e =>
        refine .inl ⟨rfl, e, ?_⟩
        simp only [Pool.giveBack, zeroLease_disposed, hlive, Bool.false_eq_true, if_false,
          zeroLease_slabs, hr]
      | ok slabs =>
        obtain ⟨pre, s, s', post, hsplit, rfl, hsize, hid, hrel⟩ := releaseIn_eq_ok hr
        refine .inr (.inl ⟨rfl, pre, s, s', post, hsplit, hsize, hid, hrel, ?_⟩)
        simp only [Pool.giveBack, zeroLease_disposed, hlive, Bool.false_eq_true, if_false,
          zeroLease_slabs, hr, zeroLease_layout, zeroLease_metrics]
  · exact .inr (.inr ⟨rfl, giveBack_of_disposed hlive⟩)

/-! ## The directory under every call -/

theorem directory_of_slabs_eq_nil (h : p.slabs = []) : p.Directory :=
  ⟨by simp [h], by simp [h], by simp [h], by simp [h], fun _ => h⟩

theorem Directory.rent (hd : p.Directory) (n : Nat) : (p.rent n).2.Directory := by
  rcases refused_or_live p n with hr | ⟨hn, hlive⟩
  · rw [rent_of_refused hr]
    exact hd
  · have hobs : (p.observe n).Directory := hd.of_agree rfl rfl rfl fun _ => rfl
    rcases hd.rent_eq hn hlive with
      ⟨pre, s, s', post, i, hsplit, -, hrent, -, heq⟩ | ⟨slab, i, slab', -, hcreate, hrent, heq⟩ |
      ⟨e, -, -, heq⟩ <;> rw [heq]
    · -- the slab rented from keeps its id, arena and length
      have hs := hd.slabs_sound s (by simp [hsplit])
      have hs' := hs.rent? hrent
      obtain ⟨rest, -, rfl⟩ := Slab.rent?_eq_some hrent
      exact hobs.replace hsplit rfl hs' rfl rfl rfl rfl rfl fun _ => rfl
    · exact (hobs.provision hlive hcreate hrent).of_agree rfl rfl rfl fun _ => rfl
    · exact hobs

theorem Directory.writeLease (hd : p.Directory) (l : Lease) (offset : Nat) (data : List UInt8) :
    (p.writeLease l offset data).Directory :=
  hd.of_agree rfl rfl rfl (length_writeLease_arenas l offset data)

/-- A return keeps the directory whatever lease it is given: a slab takes a segment back only if
it was rented. -/
theorem Directory.giveBack (hd : p.Directory) (l : Lease) : (p.giveBack l).2.Directory := by
  have hz : (p.zeroLease l).Directory := hd.of_agree rfl rfl rfl (length_zeroLease_arenas l)
  rcases giveBack_cases p l with ⟨-, e, heq⟩ | ⟨-, pre, s, s', post, hsplit, -, -, hrel, heq⟩ |
    ⟨-, heq⟩ <;>
    rw [heq]
  · exact hz.of_agree rfl rfl rfl fun _ => rfl
  · obtain ⟨hs', hid, harena, hbytes⟩ := (hd.slabs_sound s (by simp [hsplit])).release_ok hrel
    exact hz.replace hsplit rfl hs' hid harena hbytes rfl rfl fun _ => rfl
  · exact hz.of_agree rfl rfl rfl fun _ => rfl

theorem Directory.dispose (hd : p.Directory) : p.dispose.Directory := by
  apply directory_of_slabs_eq_nil
  cases hlive : p.disposed
  · simp [Pool.dispose, hlive, recordLayout]
  · rw [dispose_of_disposed hlive]
    exact hd.disposed_empty hlive

theorem Directory.call (hd : p.Directory) (c : Call) : (p.call c).2.Directory := by
  cases c with
  | rent n => exact hd.rent n
  | write l offset data => exact hd.writeLease l offset data
  | giveBack l => exact hd.giveBack l
  | trim => exact hd.trim
  | dispose => exact hd.dispose

theorem Directory.run (hd : p.Directory) (cs : List Call) : (p.run cs).2.Directory := by
  induction cs generalizing p with
  | nil => exact hd
  | cons c cs ih => exact ih (hd.call c)

/-! ## The gauges -/

/-- The gauges hold the pool's layout. -/
def LayoutRecorded (p : Pool) : Prop := p.metrics.gauges = Gauges.ofLayout p.layout

theorem layoutRecorded_recordLayout (p : Pool) : p.recordLayout.LayoutRecorded := rfl

/-- A rent copies the layout whenever it changes it, provided the directory is in order: then a
new slab always has a segment to take. -/
theorem LayoutRecorded.rent (h : p.LayoutRecorded) (hd : p.Directory) (n : Nat) :
    (p.rent n).2.LayoutRecorded := by
  rcases refused_or_live p n with hr | ⟨hn, hlive⟩
  · rw [rent_of_refused hr]
    exact h
  · rcases hd.rent_eq hn hlive with
      ⟨pre, s, s', post, i, -, -, -, -, heq⟩ | ⟨slab, i, slab', -, -, -, heq⟩ | ⟨e, -, -, heq⟩ <;>
      rw [heq]
    · exact layoutRecorded_recordLayout _
    · exact layoutRecorded_recordLayout _
    · exact h

theorem LayoutRecorded.giveBack (h : p.LayoutRecorded) (l : Lease) :
    (p.giveBack l).2.LayoutRecorded := by
  -- a refused return on a live pool leaves the layout alone; every other one copies it
  rcases giveBack_cases p l with ⟨-, e, heq⟩ | ⟨-, pre, s, s', post, -, -, -, -, heq⟩ |
    ⟨-, heq⟩ <;>
    rw [heq]
  · exact h
  · exact layoutRecorded_recordLayout _
  · exact layoutRecorded_recordLayout _

theorem LayoutRecorded.trim (h : p.LayoutRecorded) : p.trim.2.LayoutRecorded := by
  cases hlive : p.disposed
  · simp only [Pool.trim, hlive, Bool.false_eq_true, if_false]
    exact layoutRecorded_recordLayout _
  · rw [trim_of_disposed hlive]
    exact h

theorem LayoutRecorded.dispose (h : p.LayoutRecorded) : p.dispose.LayoutRecorded := by
  cases hlive : p.disposed
  · simp only [Pool.dispose, hlive, Bool.false_eq_true, if_false]
    exact layoutRecorded_recordLayout _
  · rw [dispose_of_disposed hlive]
    exact h

theorem LayoutRecorded.call (h : p.LayoutRecorded) (hd : p.Directory) (c : Call) :
    (p.call c).2.LayoutRecorded := by
  cases c with
  | rent n => exact h.rent hd n
  | write l offset data => exact h
  | giveBack l => exact h.giveBack l
  | trim => exact h.trim
  | dispose => exact h.dispose

theorem LayoutRecorded.run (h : p.LayoutRecorded) (hd : p.Directory) (cs : List Call) :
    (p.run cs).2.LayoutRecorded := by
  induction cs generalizing p with
  | nil => exact h
  | cons c cs ih => exact ih (h.call hd c) (hd.call c)

/-! ## The counters -/

/-- The slabs a call reports trimmed: the count a trim answers, none for any other call. -/
def Event.reclaimed : Event → Nat
  | ⟨_, .trim, .ok (.reclaimed n)⟩ => n
  | _ => 0

/-- Whether the call is a return that was refused. -/
def Event.failedReturn : Event → Bool
  | ⟨_, .giveBack _, .error _⟩ => true
  | _ => false

/-- Whether the call is a rent of a positive size made while the pool was live. -/
def Event.liveRequest : Event → Bool
  | ⟨before, .rent n, _⟩ => decide (0 < n) && !before.disposed
  | _ => false

/-- The counters after a call are those before it moved on by what the call reports. -/
structure Event.Tallied (e : Event) (after : Pool) : Prop where
  trimmed : after.metrics.slabsTrimmed = e.before.metrics.slabsTrimmed + e.reclaimed
  failed : after.metrics.releaseFailures =
    e.before.metrics.releaseFailures + if e.failedReturn then 1 else 0
  requested : after.metrics.requestedSizes.count =
    e.before.metrics.requestedSizes.count + if e.liveRequest then 1 else 0

/-- A rent counts its size in the histogram when it is of a positive size on a live pool, and
moves no other counter. -/
theorem tallied_rent (hd : p.Directory) (n : Nat) :
    (Event.mk p (.rent n) (p.call (.rent n)).1).Tallied (p.call (.rent n)).2 := by
  rcases refused_or_live p n with hr | ⟨hn, hlive⟩
  · have hreq : ∀ a, (Event.mk p (.rent n) a).liveRequest = false := by
      intro a
      rcases hr with rfl | hdisp <;> simp [Event.liveRequest, *]
    simp only [call, rent_of_refused hr]
    exact ⟨rfl, rfl, by rw [hreq]; rfl⟩
  · have hreq : ∀ a, (Event.mk p (.rent n) a).liveRequest = true := by
      simp [Event.liveRequest, hlive, Nat.pos_of_ne_zero hn]
    -- whatever becomes of the rent, it starts from the pool with the size observed
    have hcounts : (p.rent n).2.metrics.slabsTrimmed = p.metrics.slabsTrimmed ∧
        (p.rent n).2.metrics.releaseFailures = p.metrics.releaseFailures ∧
        (p.rent n).2.metrics.requestedSizes.count = p.metrics.requestedSizes.count + 1 := by
      rcases hd.rent_eq hn hlive with
        ⟨pre, s, s', post, i, -, -, -, -, heq⟩ | ⟨slab, i, slab', -, -, -, heq⟩ | ⟨e, -, -, heq⟩ <;>
        rw [heq] <;> simp [countRent, recordLayout, observe, provision, Histogram.observe]
    obtain ⟨htrim, hfail, hcount⟩ := hcounts
    exact ⟨htrim, hfail, by rw [hreq]; exact hcount⟩

theorem tallied_writeLease (p : Pool) (l : Lease) (offset : Nat) (data : List UInt8) :
    (Event.mk p (.write l offset data) (p.call (.write l offset data)).1).Tallied
      (p.call (.write l offset data)).2 :=
  ⟨rfl, rfl, rfl⟩

/-- A return counts a failure exactly when it is refused, and moves no other counter. -/
theorem tallied_giveBack (p : Pool) (l : Lease) :
    (Event.mk p (.giveBack l) (p.call (.giveBack l)).1).Tallied (p.call (.giveBack l)).2 := by
  rcases giveBack_cases p l with ⟨-, e, heq⟩ | ⟨-, pre, s, s', post, -, -, -, -, heq⟩ |
    ⟨-, heq⟩ <;>
    simp only [call, heq] <;> exact ⟨rfl, rfl, rfl⟩

/-- A trim adds the number of slabs it answers to the trimmed-slab counter. -/
theorem tallied_trim (p : Pool) : (Event.mk p .trim (p.call .trim).1).Tallied (p.call .trim).2 := by
  cases hlive : p.disposed
  · refine ⟨?_, ?_, ?_⟩ <;> simp [call, Pool.trim, hlive, Event.reclaimed, Event.failedReturn,
      Event.liveRequest, Except.map, recordLayout]
  · simp only [call, trim_of_disposed hlive]
    exact ⟨rfl, rfl, rfl⟩

theorem tallied_dispose (p : Pool) :
    (Event.mk p .dispose (p.call .dispose).1).Tallied (p.call .dispose).2 := by
  cases hlive : p.disposed
  · simp only [call, Pool.dispose, hlive, Bool.false_eq_true, if_false]
    exact ⟨rfl, rfl, rfl⟩
  · simp only [call, dispose_of_disposed hlive]
    exact ⟨rfl, rfl, rfl⟩

theorem tallied_call (hd : p.Directory) (c : Call) :
    (Event.mk p c (p.call c).1).Tallied (p.call c).2 := by
  cases c with
  | rent n => exact tallied_rent hd n
  | write l offset data => exact tallied_writeLease p l offset data
  | giveBack l => exact tallied_giveBack p l
  | trim => exact tallied_trim p
  | dispose => exact tallied_dispose p

/-- Over a run, the counters move on by the tallies of its calls. -/
theorem counters_run (hd : p.Directory) (cs : List Call) :
    (p.run cs).2.metrics.slabsTrimmed =
        p.metrics.slabsTrimmed + ((p.run cs).1.map Event.reclaimed).sum ∧
      (p.run cs).2.metrics.releaseFailures =
        p.metrics.releaseFailures + (p.run cs).1.countP Event.failedReturn ∧
      (p.run cs).2.metrics.requestedSizes.count =
        p.metrics.requestedSizes.count + (p.run cs).1.countP Event.liveRequest := by
  induction cs generalizing p with
  | nil => simp
  | cons c cs ih =>
    obtain ⟨htrim, hfail, hreq⟩ := ih (hd.call c)
    obtain ⟨htrim₁, hfail₁, hreq₁⟩ := tallied_call hd c
    rw [run_cons]
    simp only [List.map_cons, List.sum_cons, List.countP_cons, htrim, hfail, hreq, htrim₁,
      hfail₁, hreq₁]
    omega

/-! ## From an empty pool -/

theorem directory_withStrategy (config : PoolConfig) (capacity : Nat → Nat) :
    (withStrategy config capacity).Directory :=
  directory_of_slabs_eq_nil rfl

/-- A new pool's gauges are at zero, which is its layout. -/
theorem layoutRecorded_withStrategy (config : PoolConfig) (capacity : Nat → Nat) :
    (withStrategy config capacity).LayoutRecorded := by
  simp [LayoutRecorded, withStrategy, Gauges.ofLayout, Layout.efficiency]

/-- After any calls on a pool made from a configuration and a capacity strategy, whether they
succeed or fail, the metrics follow the statistics: the gauges hold the slab, rental and byte
counts each capped at the largest signed 64-bit value, and the efficiency as it is; the rent and
return counters are the statistics'; the trimmed-slab counter is the sum of what the trims
answered, the failure counter the number of returns refused, and the histogram has counted every
rent of a positive size made while the pool was live. -/
theorem metrics_follow_statistics (config : PoolConfig) (capacity : Nat → Nat) (cs : List Call) :
    let r := (withStrategy config capacity).run cs
    r.2.metrics.gauges = ⟨min r.2.statistics.slabs gaugeLimit,
        min r.2.statistics.activeRentals gaugeLimit, min r.2.statistics.allocatedBytes gaugeLimit,
        r.2.statistics.efficiency⟩ ∧
      r.2.metrics.rents = r.2.statistics.rents ∧ r.2.metrics.returns = r.2.statistics.returns ∧
      r.2.metrics.slabsTrimmed = (r.1.map Event.reclaimed).sum ∧
      r.2.metrics.releaseFailures = r.1.countP Event.failedReturn ∧
      r.2.metrics.requestedSizes.count = r.1.countP Event.liveRequest := by
  intro r
  have hd := directory_withStrategy config capacity
  obtain ⟨htrim, hfail, hreq⟩ := counters_run hd cs
  refine ⟨(layoutRecorded_withStrategy config capacity).run hd cs, rfl, rfl, ?_, ?_, ?_⟩
  -- a new pool's counters start at zero
  · exact htrim.trans (Nat.zero_add _)
  · exact hfail.trans (Nat.zero_add _)
  · exact hreq.trans (Nat.zero_add _)

end Pool

end KeyCustody
