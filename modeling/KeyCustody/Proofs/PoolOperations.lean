import KeyCustody.Proofs.PoolInvariant

/-!
# Pool operations keep the invariant

Writing through a lease, returning a lease, trimming and disposing each keep `Pool.Sound`, with
the lease list changed as the operation says, and leave the bytes of every other lease as they
were. The argument is the same each time: an operation changes arena bytes only inside the
segment of the lease it is given, or only in free segments, which no lease out shares a byte with.
-/

namespace KeyCustody

namespace Pool

variable {p : Pool} {ls : List Lease}

/-- The directory reads a pool's slabs, next id and whether it is disposed, and of the arenas
only their lengths. -/
theorem Directory.of_agree {p' : Pool} (hd : p.Directory) (hdisp : p'.disposed = p.disposed)
    (hslabs : p'.slabs = p.slabs) (hnext : p'.nextSlabId = p.nextSlabId)
    (hlen : ∀ k, (p'.arenas k).length = (p.arenas k).length) : p'.Directory := by
  obtain ⟨hsound, hnodup, hlt, hlength, hempty⟩ := hd
  refine ⟨?_, ?_, ?_, ?_, ?_⟩ <;> simp only [hdisp, hslabs, hnext, hlen] <;> assumption

/-- The invariant reads a pool's slabs, next id, layout and three counters, and of the arenas only
their lengths and where their non-zero bytes lie. -/
theorem Sound.of_agree {p' : Pool} (h : p.Sound ls) (hdisp : p'.disposed = p.disposed)
    (hslabs : p'.slabs = p.slabs) (hnext : p'.nextSlabId = p.nextSlabId)
    (hlayout : p'.layout = p.layout) (hrents : p'.metrics.rents = p.metrics.rents)
    (hreturns : p'.metrics.returns = p.metrics.returns)
    (hfail : p'.metrics.releaseFailures = p.metrics.releaseFailures)
    (hlen : ∀ k, (p'.arenas k).length = (p.arenas k).length) (hres : p'.Residue ls) :
    p'.Sound ls := by
  obtain ⟨hd, ⟨hsize, hoff, harena, hin, hapart, hfrom, hto⟩, -,
    ⟨hact, hbal, hsl, hseg, hby, hrent, hfails⟩⟩ := h
  refine ⟨hd.of_agree hdisp hslabs hnext hlen, ⟨hsize, hoff, ?_, ?_, hapart, ?_, ?_⟩, hres,
    ⟨?_, ?_, ?_, ?_, ?_, ?_, ?_⟩⟩ <;>
    simp only [hdisp, hslabs, hnext, hlayout, hrents, hreturns, hfail, hlen] <;> assumption

/-- Recording the gauges changes nothing the invariant speaks of. -/
theorem Sound.recordLayout (h : p.Sound ls) : p.recordLayout.Sound ls :=
  h.of_agree rfl rfl rfl rfl rfl rfl rfl (fun _ => rfl) h.residue

/-! ## Writing through a lease -/

theorem length_writeLease_arenas (l : Lease) (offset : Nat) (data : List UInt8) (k : Nat) :
    ((p.writeLease l offset data).arenas k).length = (p.arenas k).length := by
  simp only [writeLease, Arena.modify_apply]
  split <;> simp

/-- A write through a lease changes only bytes of its segment. -/
theorem getElem?_writeLease_arenas {l : Lease} {offset : Nat} {data : List UInt8}
    (hfit : offset + data.length ≤ l.segmentSize) {k j : Nat} (hc : ¬ l.Covers k j) :
    ((p.writeLease l offset data).arenas k)[j]? = (p.arenas k)[j]? := by
  simp only [writeLease, Arena.modify_apply]
  split
  · rename_i hk
    rw [Arena.getElem?_write, if_neg, hk]
    intro hj
    exact hc ⟨hk.symm, by omega, by omega⟩
  · rfl

theorem Sound.writeLease (h : p.Sound ls) {l : Lease} (hl : l ∈ ls) {offset : Nat}
    {data : List UInt8} (hfit : offset + data.length ≤ l.segmentSize) :
    (p.writeLease l offset data).Sound ls := by
  refine h.of_agree rfl rfl rfl rfl rfl rfl rfl (length_writeLease_arenas l offset data) ?_
  intro k j b hb hne
  by_cases hc : l.Covers k j
  · exact ⟨l, hl, hc⟩
  · rw [getElem?_writeLease_arenas hfit hc] at hb
    exact h.residue k j b hb hne

/-- A write through one lease leaves the bytes of a lease apart from it as they were. -/
theorem read_writeLease_of_apart {l l' : Lease} (hap : l'.Apart l) {offset : Nat}
    {data : List UInt8} (hfit : offset + data.length ≤ l.segmentSize) :
    (p.writeLease l offset data).read l' = p.read l' :=
  read_congr fun _ hc => getElem?_writeLease_arenas hfit (hap _ _ hc)

/-- A write through a lease changes its bytes the way `overwrite` does. -/
theorem overwrite_read_writeLease (h : p.Sound ls) {l : Lease} (hl : l ∈ ls) {offset : Nat}
    {data : List UInt8} (hfit : offset + data.length ≤ l.segmentSize) :
    overwrite (p.read l) data offset = some ((p.writeLease l offset data).read l) := by
  simp only [read, Pool.writeLease, Arena.modify_apply, if_true]
  exact Arena.overwrite_read_write (h.outstanding.in_arena l hl) hfit

/-! ## Disposing -/

/-- Disposing zeroes bytes only in free segments of the slabs. -/
theorem dispose_scrubbed (hlive : p.disposed = false) :
    Arena.Scrubbed (fun k j => ∃ s ∈ p.slabs, s.FreeByte k j) p.arenas p.dispose.arenas := by
  simp only [dispose, hlive, Bool.false_eq_true, if_false, recordLayout]
  exact Slab.zeroFree_foldl_scrubbed p.slabs p.arenas

theorem Sound.dispose (h : p.Sound ls) : p.dispose.Sound ls := by
  cases hlive : p.disposed
  · have hscrub := dispose_scrubbed hlive
    obtain ⟨-, ⟨hsize, hoff, harena, hin, hapart, -, -⟩, hres, ⟨hact, hbal, -, -, -, -, -⟩⟩ := h
    simp only [Pool.dispose, hlive, Bool.false_eq_true, if_false] at hscrub ⊢
    refine Sound.recordLayout ⟨⟨by simp, by simp, by simp, by simp, fun _ => rfl⟩,
      ⟨hsize, hoff, harena, fun l hl => (hscrub.length_eq l.arena).symm ▸ hin l hl, hapart,
        by simp, by simp⟩, ?_, ⟨hact, hbal, by simp, by simp, by simp, by simp, by simp⟩⟩
    intro k j b hb hne
    rcases hscrub.zero_or_eq hb with rfl | hb
    · exact absurd rfl hne
    · exact hres k j b hb hne
  · simp only [Pool.dispose, hlive, if_true]
    exact h

/-- Disposing leaves the bytes of every lease out as they were. -/
theorem read_dispose (h : p.Sound ls) {l : Lease} (hl : l ∈ ls) : p.dispose.read l = p.read l := by
  cases hlive : p.disposed
  · refine read_congr fun j hc => (dispose_scrubbed hlive).frame ?_
    rintro ⟨s, hs, hfree⟩
    exact h.not_freeByte hlive hl hs hc hfree
  · simp [dispose, hlive]

/-! ## Trimming -/

/-- The slabs a trim removes. -/
theorem trim_scrubbed (hlive : p.disposed = false) :
    Arena.Scrubbed (fun k j => ∃ s ∈ p.slabs.filter Slab.isIdle, s.FreeByte k j) p.arenas
      p.trim.2.arenas := by
  simp only [trim, hlive, Bool.false_eq_true, if_false, recordLayout]
  exact Slab.zeroFree_foldl_scrubbed _ p.arenas

theorem rentedCount_of_idle {s : Slab} (hs : s.isIdle = true) : s.rentedCount = 0 := by
  simp only [Slab.isIdle, beq_iff_eq] at hs
  simp [Slab.rentedCount, hs]

/-- Splitting a sum over the slabs into the idle ones and the others. -/
theorem sum_idle_add (f : Slab → Nat) (slabs : List Slab) :
    ((slabs.filter Slab.isIdle).map f).sum + ((slabs.filter (!·.isIdle)).map f).sum =
      (slabs.map f).sum := by
  have := List.sum_map_filter_add_sum_map_filter_not (fun s : Slab => s.isIdle = true) f slabs
  simpa using this

/-- Trimming keeps the slabs that remain as they were, with their arenas' lengths. -/
theorem Directory.trim (hd : p.Directory) : p.trim.2.Directory := by
  cases hlive : p.disposed
  · have hscrub := trim_scrubbed hlive
    obtain ⟨hsound, hnodup, hlt, hlength, -⟩ := hd
    have hsub : p.slabs.filter (!·.isIdle) ⊆ p.slabs := List.filter_subset_self _
    simp only [Pool.trim, hlive, Bool.false_eq_true, if_false, recordLayout] at hscrub ⊢
    exact ⟨fun s hs => hsound s (hsub hs), hnodup.sublist (List.filter_sublist.map Slab.id),
      fun s hs => hlt s (hsub hs),
      fun s hs => (hscrub.length_eq s.arena).trans (hlength s (hsub hs)), by simp⟩
  · simp only [Pool.trim, hlive, if_true]
    exact hd

theorem Sound.trim (h : p.Sound ls) : p.trim.2.Sound ls := by
  cases hlive : p.disposed
  · have hscrub := trim_scrubbed hlive
    have hdir := h.directory.trim
    obtain ⟨hsound, -, -, -, -⟩ := h.directory
    obtain ⟨-, ⟨hsize, hoff, harena, hin, hapart, hfrom, hto⟩, hres,
      ⟨hact, hbal, hsl, hseg, hby, hrent, hfails⟩⟩ := h
    have hsub : p.slabs.filter (!·.isIdle) ⊆ p.slabs := List.filter_subset_self _
    simp only [Pool.trim, hlive, Bool.false_eq_true, if_false] at hscrub hdir ⊢
    refine Sound.recordLayout ⟨hdir.of_agree rfl rfl rfl fun _ => rfl,
      ⟨hsize, hoff, harena, fun l hl => (hscrub.length_eq l.arena).symm ▸ hin l hl, hapart, ?_, ?_⟩,
      ?_, ⟨hact, hbal, ?_, ?_, ?_, ?_, fun _ => hfails hlive⟩⟩
    · intro _ l hl
      obtain ⟨s, hs, hlent⟩ := hfrom hlive l hl
      have hbusy := (hsound s hs).not_idle hlent.index_lt hlent.not_free
      exact ⟨s, List.mem_filter.mpr ⟨hs, by simp [hbusy]⟩, hlent⟩
    · intro _ s hs
      exact hto hlive s (hsub hs)
    · intro k j b hb hne
      rcases hscrub.zero_or_eq hb with rfl | hb
      · exact absurd rfl hne
      · exact hres k j b hb hne
    · have := List.length_eq_length_filter_add (l := p.slabs) Slab.isIdle
      simp only [hsl]
      omega
    · have := sum_idle_add Slab.segmentCount p.slabs
      simp only [hseg, ← List.sum_eq_foldr]
      omega
    · have := sum_idle_add Slab.byteLength p.slabs
      simp only [hby, ← List.sum_eq_foldr]
      omega
    · intro _
      have hzero : ((p.slabs.filter Slab.isIdle).map Slab.rentedCount).sum = 0 := by
        apply List.sum_eq_zero
        intro n hn
        obtain ⟨s, hs, rfl⟩ := List.mem_map.mp hn
        exact rentedCount_of_idle (List.mem_filter.mp hs).2
      have := sum_idle_add Slab.rentedCount p.slabs
      rw [← hrent hlive]
      dsimp only
      omega
  · simp only [Pool.trim, hlive, if_true]
    exact h

/-- Trimming leaves the bytes of every lease out as they were. -/
theorem read_trim (h : p.Sound ls) {l : Lease} (hl : l ∈ ls) : p.trim.2.read l = p.read l := by
  cases hlive : p.disposed
  · refine read_congr fun j hc => (trim_scrubbed hlive).frame ?_
    rintro ⟨s, hs, hfree⟩
    exact h.not_freeByte hlive hl (List.mem_filter.mp hs).1 hc hfree
  · simp [trim, hlive]

/-! ## Returning a lease -/

@[simp] theorem zeroLease_disposed (l : Lease) : (p.zeroLease l).disposed = p.disposed := rfl
@[simp] theorem zeroLease_slabs (l : Lease) : (p.zeroLease l).slabs = p.slabs := rfl
@[simp] theorem zeroLease_layout (l : Lease) : (p.zeroLease l).layout = p.layout := rfl
@[simp] theorem zeroLease_metrics (l : Lease) : (p.zeroLease l).metrics = p.metrics := rfl
@[simp] theorem zeroLease_nextSlabId (l : Lease) : (p.zeroLease l).nextSlabId = p.nextSlabId := rfl

theorem length_zeroLease_arenas (l : Lease) (k : Nat) :
    ((p.zeroLease l).arenas k).length = (p.arenas k).length := by
  simp only [zeroLease, Arena.modify_apply]
  split <;> simp

/-- Zeroing a lease's segment changes only bytes of the segment, and makes them zero. -/
theorem getElem?_zeroLease_arenas (l : Lease) (k j : Nat) :
    ((p.zeroLease l).arenas k)[j]? =
      if l.Covers k j then (p.arenas k)[j]?.map fun _ => 0 else (p.arenas k)[j]? := by
  simp only [zeroLease, Arena.modify_apply]
  by_cases hk : k = l.arena
  · subst hk
    rw [if_pos rfl, Arena.getElem?_zero]
    by_cases hj : l.offset ≤ j ∧ j < l.offset + l.segmentSize
    · rw [if_pos hj, if_pos ⟨rfl, hj⟩]
    · rw [if_neg hj, if_neg fun hc => hj hc.2]
  · rw [if_neg hk, if_neg fun hc => hk hc.1.symm]

/-- Once a lease has zeroed its segment it is no longer needed to account for non-zero bytes. -/
theorem residue_zeroLease {l : Lease} (h : p.Residue (l :: ls)) : (p.zeroLease l).Residue ls := by
  intro k j b hb hne
  rw [getElem?_zeroLease_arenas] at hb
  split at hb
  · obtain ⟨a, -, rfl⟩ := Option.map_eq_some_iff.mp hb
    exact absurd rfl hne
  · rename_i hc
    obtain ⟨l', hl', hc'⟩ := h k j b hb hne
    rcases List.mem_cons.mp hl' with rfl | hl'
    · exact absurd hc' hc
    · exact ⟨l', hl', hc'⟩

/-- A return to a live pool puts the lease's segment back on top of its slab's free stack and
clears its rented bit; it never fails. -/
theorem Sound.giveBack_live {l : Lease} (h : p.Sound (l :: ls)) (hlive : p.disposed = false) :
    ∃ pre s post, p.slabs = pre ++ s :: post ∧ s.Lent l ∧ (∀ t ∈ pre, t.id ≠ s.id) ∧
      (∀ t ∈ post, t.id ≠ s.id) ∧
      p.giveBack l = (.ok (), { p.zeroLease l with
        slabs := pre ++ { s with free := l.index :: s.free, rented := s.rented.set l.index false }
          :: post
        layout := { p.layout with active := p.layout.active - 1 }
        metrics := { p.metrics with returns := p.metrics.returns + 1 } }.recordLayout) := by
  obtain ⟨s, hs, hlent⟩ := h.outstanding.from_slab hlive l List.mem_cons_self
  obtain ⟨pre, post, hsplit⟩ := List.append_of_mem hs
  obtain ⟨hpre, hpost⟩ := h.directory.ids_ne hsplit
  have hsound := h.directory.slabs_sound s hs
  refine ⟨pre, s, post, hsplit, hlent, hpre, hpost, ?_⟩
  have hrel : releaseIn l (p.zeroLease l).slabs = some (.ok (pre ++ { s with
      free := l.index :: s.free, rented := s.rented.set l.index false } :: post)) := by
    show releaseIn l p.slabs = _
    rw [hsplit, releaseIn_eq (fun t ht hm => hpre t ht (hm.2.trans hlent.id_eq.symm))
      ⟨hlent.size_eq, hlent.id_eq⟩ hlent.arena_eq,
      hsound.release_eq hlent.index_lt hlent.not_free]
    rfl
  simp only [giveBack, zeroLease_disposed, hlive, Bool.false_eq_true, if_false, hrel]
  rfl

/-- A return to a disposed pool zeroes the segment and is refused as a use after dispose; the
lease stops counting as active and the failed return is counted. -/
theorem giveBack_of_disposed {l : Lease} (hd : p.disposed = true) :
    p.giveBack l = (.error (.disposed .pool), { p.zeroLease l with
      layout := { p.layout with active := p.layout.active - 1 } }.recordLayout.countFailure) := by
  simp only [giveBack, zeroLease_disposed, hd, if_true, zeroLease_layout]

/-- Replacing one slab by a sound one with the same id, arena and byte length keeps the directory
in order. -/
theorem Directory.replace {p p' : Pool} (hd : p.Directory) {pre post : List Slab} {s s' : Slab}
    (hsplit : p.slabs = pre ++ s :: post) (hslabs : p'.slabs = pre ++ s' :: post)
    (hs' : s'.Sound) (hid : s'.id = s.id) (harena : s'.arena = s.arena)
    (hbytes : s'.byteLength = s.byteLength) (hnext : p'.nextSlabId = p.nextSlabId)
    (hdisp : p'.disposed = p.disposed) (hlen : ∀ k, (p'.arenas k).length = (p.arenas k).length) :
    p'.Directory := by
  have hold : ∀ t ∈ p'.slabs, t = s' ∨ t ∈ p.slabs := by
    intro t ht
    rw [hslabs, List.mem_append, List.mem_cons] at ht
    rw [hsplit, List.mem_append, List.mem_cons]
    rcases ht with ht | rfl | ht
    · exact .inr (.inl ht)
    · exact .inl rfl
    · exact .inr (.inr (.inr ht))
  have hs : s ∈ p.slabs := by simp [hsplit]
  refine ⟨?_, ?_, ?_, ?_, ?_⟩
  · intro t ht
    rcases hold t ht with rfl | ht
    · exact hs'
    · exact hd.slabs_sound t ht
  · have := hd.ids_nodup
    rw [hsplit] at this
    rw [hslabs]
    simpa [hid] using this
  · intro t ht
    rw [hnext]
    rcases hold t ht with rfl | ht
    · exact hid ▸ hd.ids_lt s hs
    · exact hd.ids_lt t ht
  · intro t ht
    rw [hlen]
    rcases hold t ht with rfl | ht
    · rw [harena, hbytes]
      exact hd.arena_length s hs
    · exact hd.arena_length t ht
  · intro h
    rw [hdisp] at h
    simp [hd.disposed_empty h] at hsplit

/-- A return keeps the invariant with the lease gone, whether the pool is live or disposed. -/
theorem Sound.giveBack {l : Lease} (h : p.Sound (l :: ls)) : (p.giveBack l).2.Sound ls := by
  have hres := residue_zeroLease h.residue
  have hapart : ∀ l' ∈ ls, l.Apart l' := (List.pairwise_cons.mp h.outstanding.apart).1
  obtain ⟨hsize, hoff, harena, hin, hpair, hfrom, hto⟩ := h.outstanding
  obtain ⟨hact, hbal, hsl, hseg, hby, hrent, hfails⟩ := h.counted
  have hpos := hsize l List.mem_cons_self
  cases hlive : p.disposed
  · obtain ⟨pre, s, post, hsplit, hlent, hpre, hpost, heq⟩ := h.giveBack_live hlive
    have hs : s ∈ p.slabs := by simp [hsplit]
    have hsound := h.directory.slabs_sound s hs
    rw [heq]
    refine Sound.recordLayout ⟨h.directory.replace hsplit rfl
      (hsound.release hlent.index_lt hlent.not_free) rfl rfl rfl rfl rfl
      (length_zeroLease_arenas l), ⟨fun l' hl' => hsize l' (List.mem_cons_of_mem l hl'),
      fun l' hl' => hoff l' (List.mem_cons_of_mem l hl'),
      fun l' hl' => harena l' (List.mem_cons_of_mem l hl'),
      fun l' hl' => (length_zeroLease_arenas l _).symm ▸ hin l' (List.mem_cons_of_mem l hl'),
      (List.pairwise_cons.mp hpair).2, ?_, ?_⟩, hres, ⟨?_, ?_, ?_, ?_, ?_, ?_, fun _ => hfails hlive⟩⟩
    · -- a lease out of the returning slab keeps its segment, which is not the one returned
      intro _ l' hl'
      obtain ⟨t, ht, hlent'⟩ := hfrom hlive l' (List.mem_cons_of_mem l hl')
      rw [hsplit, List.mem_append, List.mem_cons] at ht
      rcases ht with ht | rfl | ht
      · exact ⟨t, by simp [ht], hlent'⟩
      · have hne := hlent.index_ne hlent' (hapart l' hl') hpos
        exact ⟨{ t with free := l.index :: t.free, rented := t.rented.set l.index false }, by simp,
          hlent'.withFree (by simp [Ne.symm hne, hlent'.not_free])⟩
      · exact ⟨t, by simp [ht], hlent'⟩
    · -- a rented segment other than the returned one still belongs to a lease out
      intro _ u hu i hi hf
      simp only [List.mem_append, List.mem_cons] at hu
      rcases hu with hu | rfl | hu
      · obtain ⟨l', hl', hlent', hidx⟩ := hto hlive u (by simp [hsplit, hu]) i hi hf
        rcases List.mem_cons.mp hl' with rfl | hl'
        · exact absurd (hlent'.id_eq.trans hlent.id_eq.symm) (hpre u hu)
        · exact ⟨l', hl', hlent', hidx⟩
      · simp only [List.mem_cons, not_or] at hf
        obtain ⟨l', hl', hlent', hidx⟩ := hto hlive s hs i hi hf.2
        rcases List.mem_cons.mp hl' with rfl | hl'
        · exact absurd hidx.symm hf.1
        · exact ⟨l', hl', hlent'.withFree (by simp [hidx, hf.1, hf.2]), hidx⟩
      · obtain ⟨l', hl', hlent', hidx⟩ := hto hlive u (by simp [hsplit, hu]) i hi hf
        rcases List.mem_cons.mp hl' with rfl | hl'
        · exact absurd (hlent'.id_eq.trans hlent.id_eq.symm) (hpost u hu)
        · exact ⟨l', hl', hlent', hidx⟩
    · simp only [List.length_cons] at hact
      dsimp only
      omega
    · simp only [List.length_cons] at hbal
      dsimp only
      omega
    · simp [hsl, hsplit]
    · simp [hseg, hsplit]
    · simp [hby, hsplit, Slab.byteLength]
    · intro _
      have hcount := hrent hlive
      have hle := hsound.free_length_le
      have hlt : s.free.length < s.segmentCount := by
        have := hsound.not_idle hlent.index_lt hlent.not_free
        simp only [Slab.isIdle, beq_eq_false_iff_ne] at this
        omega
      simp only [hsplit, List.map_append, List.map_cons, List.sum_append, List.sum_cons,
        List.length_cons, Slab.rentedCount] at hcount ⊢
      omega
  · have hempty := h.directory.disposed_empty hlive
    rw [giveBack_of_disposed hlive]
    simp only [Pool.countFailure, Pool.recordLayout]
    refine ⟨⟨by simp [hempty], by simp [hempty], by simp [hempty], by simp [hempty],
      fun _ => hempty⟩, ⟨fun l' hl' => hsize l' (List.mem_cons_of_mem l hl'),
      fun l' hl' => hoff l' (List.mem_cons_of_mem l hl'),
      fun l' hl' => harena l' (List.mem_cons_of_mem l hl'),
      fun l' hl' => (length_zeroLease_arenas l _).symm ▸ hin l' (List.mem_cons_of_mem l hl'),
      (List.pairwise_cons.mp hpair).2, by simp [hlive], by simp [hlive]⟩, hres,
      ⟨?_, ?_, by simp [hsl, hempty], by simp [hseg, hempty], by simp [hby, hempty],
        by simp [hlive], by simp [hlive]⟩⟩
    · simp only [List.length_cons] at hact
      dsimp only
      omega
    · simp only [List.length_cons] at hbal
      dsimp only
      simp only [zeroLease_metrics]
      omega

/-- A return leaves the bytes of every other lease out as they were. -/
theorem read_giveBack {l l' : Lease} (h : p.Sound (l :: ls)) (hl' : l' ∈ ls) :
    (p.giveBack l).2.read l' = p.read l' := by
  have hap : l'.Apart l := ((List.pairwise_cons.mp h.outstanding.apart).1 l' hl').symm
  have hzero : (p.zeroLease l).read l' = p.read l' := by
    refine read_congr fun j hc => ?_
    rw [getElem?_zeroLease_arenas, if_neg (hap _ _ hc)]
  cases hlive : p.disposed
  · obtain ⟨pre, s, post, -, -, -, -, heq⟩ := h.giveBack_live hlive
    rw [heq]
    exact hzero
  · rw [giveBack_of_disposed hlive]
    exact hzero

end Pool

end KeyCustody
