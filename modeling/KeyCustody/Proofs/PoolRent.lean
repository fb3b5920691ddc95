import KeyCustody.Proofs.PoolOperations

/-!
# Renting keeps the invariant

A rent of a positive size from a live pool takes the top free segment of the first slab of that
size that has one, or provisions a new slab and takes its top segment, or fails to make that slab
(`Directory.rent_eq`). The segment taken was free, so no lease out shares a byte with it, and a
free segment holds only zeros. So the lease handed out reads as zeros and the invariant holds with
it added (`Sound.rent_ok`). A rent that fails changed at most the size histogram and never reports
a corruption (`Sound.rent_error`), and no rent changes the bytes of a lease out (`read_rent`).
-/

namespace KeyCustody

namespace Slab

/-- The lease of segment `i` of a slab. -/
def leaseOf (s : Slab) (i : Nat) : Lease := ⟨s.segmentSize, s.id, i, s.arena, i * s.segmentSize⟩

theorem covers_leaseOf {s : Slab} {i : Nat} (hi : i < s.segmentCount) {k j : Nat} :
    (s.leaseOf i).Covers k j ↔ s.SegmentByte i k j := by
  simp only [Lease.Covers, leaseOf, SegmentByte]
  constructor
  · rintro ⟨hk, h1, h2⟩
    exact ⟨hk.symm, hi, h1, h2⟩
  · rintro ⟨hk, -, h1, h2⟩
    exact ⟨hk.symm, h1, h2⟩

/-- The segment a slab hands out is lent by the slab it becomes. -/
theorem Sound.lent_rent? {s s' : Slab} {i : Nat} (hs : s.Sound) (h : s.rent? = some (i, s')) :
    s'.Lent (s.leaseOf i) := by
  obtain ⟨rest, hfree, rfl⟩ := rent?_eq_some h
  have hnd := hs.free_nodup
  rw [hfree] at hnd
  exact ⟨rfl, rfl, rfl, hs.free_lt i (by simp [hfree]), (List.nodup_cons.mp hnd).1, rfl⟩

/-- Renting from a slab rents one more of its segments. -/
theorem Sound.rentedCount_rent? {s s' : Slab} {i : Nat} (hs : s.Sound) (h : s.rent? = some (i, s')) :
    s'.rentedCount = s.rentedCount + 1 := by
  obtain ⟨rest, hfree, rfl⟩ := rent?_eq_some h
  have hle := hs.free_length_le
  rw [hfree, List.length_cons] at hle
  simp only [rentedCount, hfree, List.length_cons]
  omega

end Slab

namespace Pool

variable {p : Pool} {ls : List Lease} {size : Nat}

@[simp] theorem observe_disposed : (p.observe size).disposed = p.disposed := rfl
@[simp] theorem observe_slabs : (p.observe size).slabs = p.slabs := rfl
@[simp] theorem observe_nextSlabId : (p.observe size).nextSlabId = p.nextSlabId := rfl
@[simp] theorem observe_capacity : (p.observe size).capacity = p.capacity := rfl
@[simp] theorem provision_slabs (slab : Slab) : (p.provision slab).slabs = p.slabs := rfl
@[simp] theorem provision_disposed (slab : Slab) : (p.provision slab).disposed = p.disposed := rfl
@[simp] theorem provision_nextSlabId (slab : Slab) :
    (p.provision slab).nextSlabId = p.nextSlabId + 1 := rfl

theorem provision_arenas (slab : Slab) (k : Nat) : (p.provision slab).arenas k =
    if k = slab.arena then List.replicate slab.byteLength 0 else p.arenas k := by
  simp [provision]

theorem Sound.observe (h : p.Sound ls) (size : Nat) : (p.observe size).Sound ls :=
  h.of_agree rfl rfl rfl rfl rfl rfl rfl (fun _ => rfl) h.residue

theorem Residue.cons (h : p.Residue ls) (l : Lease) : p.Residue (l :: ls) := by
  intro k j b hb hne
  obtain ⟨l', hl', hc⟩ := h k j b hb hne
  exact ⟨l', List.mem_cons_of_mem l hl', hc⟩

/-- A new slab's arena holds only zeros. -/
theorem Residue.provision (h : p.Residue ls) (slab : Slab) : (p.provision slab).Residue ls := by
  intro k j b hb hne
  rw [provision_arenas] at hb
  split at hb
  · rw [List.getElem?_replicate] at hb
    split at hb
    · cases hb
      exact absurd rfl hne
    · cases hb
  · exact h k j b hb hne

/-- A segment that shares no byte with the leases accounting for every non-zero byte reads as
zeros. -/
theorem read_eq_replicate_of_apart {l : Lease} (hres : p.Residue ls)
    (hin : l.offset + l.segmentSize ≤ (p.arenas l.arena).length) (hap : ∀ l' ∈ ls, l.Apart l') :
    p.read l = List.replicate l.segmentSize 0 := by
  refine Arena.read_eq_replicate hin fun j b h1 h2 hb => ?_
  by_cases hz : b = 0
  · exact hz
  · obtain ⟨l', hl', hc⟩ := hres _ j b hb hz
    exact absurd hc (hap l' hl' _ _ ⟨rfl, h1, h2⟩)

/-- A new lease is all zeros when the non-zero bytes are accounted for by the other leases. -/
theorem Sound.read_eq_replicate {l : Lease} (h : p.Sound (l :: ls)) (hres : p.Residue ls) :
    p.read l = List.replicate l.segmentSize 0 :=
  read_eq_replicate_of_apart hres (h.outstanding.in_arena l List.mem_cons_self)
    (List.pairwise_cons.mp h.outstanding.apart).1

/-- A free segment of a slab of a live pool shares no byte with a lease out. -/
theorem Sound.apart_leaseOf (h : p.Sound ls) (hlive : p.disposed = false) {s : Slab}
    (hs : s ∈ p.slabs) {i : Nat} (hi : i ∈ s.free) : ∀ l ∈ ls, (s.leaseOf i).Apart l := by
  intro l hl k j hc hc'
  have hlt := (h.directory.slabs_sound s hs).free_lt i hi
  exact h.not_freeByte hlive hl hs hc' ⟨i, hi, (Slab.covers_leaseOf hlt).mp hc⟩

/-- When no slab before it has its size and id, issuing a segment of a slab in the list finds the
slab and makes the segment's lease. -/
theorem issue_eq {q : Pool} {pre post : List Slab} {s : Slab} {i : Nat}
    (hslabs : q.slabs = pre ++ s :: post) (hsize : s.segmentSize = size)
    (hpre : ∀ t ∈ pre, t.segmentSize = size → t.id ≠ s.id) (hi : i < s.segmentCount)
    (hfit : s.segmentSize * s.segmentCount ≤ wordLimit) :
    q.issue size s.id i = (.ok (s.leaseOf i), q.countRent.recordLayout) := by
  subst hsize
  simp only [issue, hslabs, find?_slab hpre, Slab.offsetOf?_of_lt hfit hi]
  rfl

@[simp] theorem countRent_slabs : p.countRent.slabs = p.slabs := rfl
@[simp] theorem countRent_disposed : p.countRent.disposed = p.disposed := rfl
@[simp] theorem countRent_nextSlabId : p.countRent.nextSlabId = p.nextSlabId := rfl
@[simp] theorem countRent_arenas : p.countRent.arenas = p.arenas := rfl

/-- Taking the top free segment of a slab keeps the invariant with its lease added. -/
theorem Sound.take (h : p.Sound ls) (hlive : p.disposed = false) {pre post : List Slab}
    {s s' : Slab} {i : Nat} (hsplit : p.slabs = pre ++ s :: post) (hrent : s.rent? = some (i, s')) :
    { p with slabs := pre ++ s' :: post }.countRent.Sound (s.leaseOf i :: ls) := by
  have hs : s ∈ p.slabs := by simp [hsplit]
  have hsound := h.directory.slabs_sound s hs
  have hlent := hsound.lent_rent? hrent
  have hcount := hsound.rentedCount_rent? hrent
  obtain ⟨rest, hfree, rfl⟩ := Slab.rent?_eq_some hrent
  have hap := h.apart_leaseOf hlive hs (i := i) (by simp [hfree])
  obtain ⟨hsize, hoff, harena, hin, hpair, hfrom, hto⟩ := h.outstanding
  obtain ⟨hact, hbal, hsl, hseg, hby, hrented, hfails⟩ := h.counted
  refine ⟨h.directory.replace hsplit rfl (hsound.rent? hrent) rfl rfl rfl rfl rfl (fun _ => rfl),
    ⟨?_, ?_, ?_, ?_, List.pairwise_cons.mpr ⟨hap, hpair⟩,
    ?_, ?_⟩, h.residue.cons _, ⟨?_, ?_, ?_, ?_, ?_, ?_, fun _ => hfails hlive⟩⟩
  · intro l hl
    rcases List.mem_cons.mp hl with rfl | hl
    · exact hsound.size_pos
    · exact hsize l hl
  · intro l hl
    rcases List.mem_cons.mp hl with rfl | hl
    · rfl
    · exact hoff l hl
  · intro l hl
    rcases List.mem_cons.mp hl with rfl | hl
    · show s.arena < p.nextSlabId
      rw [hsound.arena_eq]
      exact h.directory.ids_lt s hs
    · exact harena l hl
  · intro l hl
    rcases List.mem_cons.mp hl with rfl | hl
    · show i * s.segmentSize + s.segmentSize ≤ (p.arenas s.arena).length
      rw [h.directory.arena_length s hs]
      exact s.segment_le_byteLength hlent.index_lt
    · exact hin l hl
  · -- the new lease is out of the slab it came from; a lease out of that slab keeps its segment
    intro _ l hl
    rcases List.mem_cons.mp hl with rfl | hl
    · exact ⟨_, by simp, hlent⟩
    · obtain ⟨t, ht, hlent'⟩ := hfrom hlive l hl
      rw [hsplit, List.mem_append, List.mem_cons] at ht
      rcases ht with ht | rfl | ht
      · exact ⟨t, by simp [ht], hlent'⟩
      · have hf := hlent'.not_free
        rw [hfree, List.mem_cons, not_or] at hf
        exact ⟨_, List.mem_append_right pre List.mem_cons_self, hlent'.withFree hf.2⟩
      · exact ⟨t, by simp [ht], hlent'⟩
  · -- a rented segment is the one just taken or was rented before
    intro _ u hu j hj hf
    simp only [countRent_slabs, List.mem_append, List.mem_cons] at hu
    rcases hu with hu | rfl | hu
    · obtain ⟨l, hl, hlent', hidx⟩ := hto hlive u (by simp [hsplit, hu]) j hj hf
      exact ⟨l, List.mem_cons_of_mem _ hl, hlent', hidx⟩
    · by_cases hji : j = i
      · exact ⟨s.leaseOf i, List.mem_cons_self, hlent, hji.symm⟩
      · have hf' : j ∉ s.free := by
          rw [hfree, List.mem_cons, not_or]
          exact ⟨hji, hf⟩
        obtain ⟨l, hl, hlent', hidx⟩ := hto hlive s hs j hj hf'
        exact ⟨l, List.mem_cons_of_mem _ hl, hlent'.withFree (hidx ▸ hf), hidx⟩
    · obtain ⟨l, hl, hlent', hidx⟩ := hto hlive u (by simp [hsplit, hu]) j hj hf
      exact ⟨l, List.mem_cons_of_mem _ hl, hlent', hidx⟩
  · simp only [countRent, List.length_cons, hact]
  · simp only [countRent, List.length_cons, hbal]
    omega
  · simp [countRent, hsl, hsplit]
  · simp [countRent, hseg, hsplit]
  · simp [countRent, hby, hsplit, Slab.byteLength]
  · intro _
    have := hrented hlive
    simp only [hsplit, List.map_append, List.map_cons, List.sum_append, List.sum_cons] at this
    simp only [countRent_slabs, List.map_append, List.map_cons, List.sum_append, List.sum_cons,
      List.length_cons, hcount]
    omega

/-- A new slab with its top segment taken joins the directory: its id is the next one, and its
arena is new and all zeros. -/
theorem Directory.provision (hd : p.Directory) (hlive : p.disposed = false) {slab slab' : Slab}
    {count i : Nat} (hcreate : Slab.create p.nextSlabId size count = .ok slab)
    (hrent : slab.rent? = some (i, slab')) :
    { p.provision slab with slabs := p.slabs ++ [slab'] }.Directory := by
  obtain ⟨hsound, -, -, -, harena_eq, -⟩ := Slab.create_ok hcreate
  have hs' := hsound.rent? hrent
  obtain ⟨rest, -, rfl⟩ := Slab.rent?_eq_some hrent
  -- the new slab's arena is keyed by the next id, above every arena in use
  have hold : ∀ t ∈ p.slabs, t.arena ≠ slab.arena := by
    intro t ht he
    have := hd.ids_lt t ht
    rw [← (hd.slabs_sound t ht).arena_eq, he, harena_eq] at this
    exact Nat.lt_irrefl _ this
  refine ⟨?_, ?_, ?_, ?_, ?_⟩
  · intro t ht
    simp only [List.mem_append, List.mem_singleton] at ht
    rcases ht with ht | rfl
    · exact hd.slabs_sound t ht
    · exact hs'
  · simp only [List.map_append, List.map_singleton]
    refine List.nodup_append.mpr ⟨hd.ids_nodup, List.nodup_singleton _, ?_⟩
    intro a ha b hb he
    obtain ⟨t, ht, rfl⟩ := List.mem_map.mp ha
    rw [List.mem_singleton] at hb
    have := hd.ids_lt t ht
    rw [he, hb, ← (hsound.arena_eq), harena_eq] at this
    exact Nat.lt_irrefl _ this
  · intro t ht
    simp only [List.mem_append, List.mem_singleton] at ht
    simp only [provision_nextSlabId]
    rcases ht with ht | rfl
    · exact Nat.lt_succ_of_lt (hd.ids_lt t ht)
    · show slab.id < p.nextSlabId + 1
      rw [← hsound.arena_eq, harena_eq]
      exact Nat.lt_succ_self _
  · intro t ht
    simp only [List.mem_append, List.mem_singleton] at ht
    rcases ht with ht | rfl
    · rw [provision_arenas, if_neg (hold t ht)]
      exact hd.arena_length t ht
    · rw [provision_arenas, if_pos rfl, List.length_replicate]
      rfl
  · intro hdisp
    simp [hlive] at hdisp

/-- Provisioning a new slab and taking its top segment keeps the invariant with the segment's
lease added. -/
theorem Sound.provision (h : p.Sound ls) (hlive : p.disposed = false) {slab slab' : Slab}
    {count i : Nat} (hcreate : Slab.create p.nextSlabId size count = .ok slab)
    (hrent : slab.rent? = some (i, slab')) :
    { p.provision slab with slabs := p.slabs ++ [slab'] }.countRent.Sound (slab.leaseOf i :: ls) := by
  have hdir := h.directory.provision hlive hcreate hrent
  obtain ⟨hsound, -, -, hcount, harena_eq, hfree⟩ := Slab.create_ok hcreate
  have hlent := hsound.lent_rent? hrent
  have hrc := hsound.rentedCount_rent? hrent
  have hidle : slab.rentedCount = 0 := by simp [Slab.rentedCount, hfree, hcount]
  obtain ⟨rest, hfree', rfl⟩ := Slab.rent?_eq_some hrent
  have hout : ∀ l ∈ ls, l.arena ≠ slab.arena := by
    intro l hl he
    have := h.outstanding.arena_lt l hl
    rw [he, harena_eq] at this
    exact Nat.lt_irrefl _ this
  obtain ⟨hsize, hoff, harena, hin, hpair, hfrom, hto⟩ := h.outstanding
  obtain ⟨hact, hbal, hsl, hseg, hby, hrented, hfails⟩ := h.counted
  refine ⟨hdir.of_agree rfl rfl rfl fun _ => rfl,
    ⟨?_, ?_, ?_, ?_, List.pairwise_cons.mpr ⟨?_, hpair⟩, ?_, ?_⟩,
    (h.residue.provision slab).cons _, ⟨?_, ?_, ?_, ?_, ?_, ?_, fun _ => hfails hlive⟩⟩
  · intro l hl
    rcases List.mem_cons.mp hl with rfl | hl
    · exact hsound.size_pos
    · exact hsize l hl
  · intro l hl
    rcases List.mem_cons.mp hl with rfl | hl
    · rfl
    · exact hoff l hl
  · intro l hl
    simp only [countRent_nextSlabId, provision_nextSlabId]
    rcases List.mem_cons.mp hl with rfl | hl
    · show slab.arena < p.nextSlabId + 1
      rw [harena_eq]
      exact Nat.lt_succ_self _
    · exact Nat.lt_succ_of_lt (harena l hl)
  · intro l hl
    simp only [countRent_arenas]
    rcases List.mem_cons.mp hl with rfl | hl
    · show i * slab.segmentSize + slab.segmentSize ≤ ((p.provision slab).arenas slab.arena).length
      rw [provision_arenas, if_pos rfl, List.length_replicate]
      exact slab.segment_le_byteLength hlent.index_lt
    · rw [provision_arenas, if_neg (hout l hl)]
      exact hin l hl
  · -- the new arena is apart from every arena a lease out lies in
    intro l hl k j hc hc'
    exact hout l hl (hc'.1.trans hc.1.symm)
  · intro _ l hl
    rcases List.mem_cons.mp hl with rfl | hl
    · exact ⟨_, List.mem_append_right _ (List.mem_singleton_self _), hlent⟩
    · obtain ⟨t, ht, hlent'⟩ := hfrom hlive l hl
      exact ⟨t, List.mem_append_left _ ht, hlent'⟩
  · -- the only rented segment of the new slab is the one just taken
    intro _ u hu j hj hf
    simp only [countRent_slabs, List.mem_append, List.mem_singleton] at hu
    rcases hu with hu | rfl
    · obtain ⟨l, hl, hlent', hidx⟩ := hto hlive u hu j hj hf
      exact ⟨l, List.mem_cons_of_mem _ hl, hlent', hidx⟩
    · have hj' : j ∈ slab.free := by
        rw [hfree]
        exact List.mem_range.mpr (hcount ▸ hj)
      rw [hfree', List.mem_cons] at hj'
      exact ⟨slab.leaseOf i, List.mem_cons_self, hlent, (hj'.resolve_right hf).symm⟩
  · simp [countRent, Pool.provision, hact]
  · simp only [countRent, Pool.provision, List.length_cons, hbal]
    omega
  · simp [countRent, Pool.provision, hsl]
  · simp [countRent, Pool.provision, hseg]
  · simp [countRent, Pool.provision, hby, Slab.byteLength]
  · intro _
    have := hrented hlive
    simp only [countRent_slabs, List.map_append, List.map_singleton, List.sum_append,
      List.sum_singleton, List.length_cons, hrc, hidle]
    omega

/-- What a rent of a positive size from a live pool with a sound directory does: it takes from the
first slab of the size with a free segment, or, when all are full, provisions a new slab, or fails
to make one. -/
theorem Directory.rent_eq (hd : p.Directory) (hsize : size ≠ 0) (hlive : p.disposed = false) :
    (∃ pre s s' post i, p.slabs = pre ++ s :: post ∧ s.segmentSize = size ∧
      s.rent? = some (i, s') ∧ (∀ t ∈ pre, t.segmentSize = size → t.free = []) ∧
      p.rent size = (.ok (s.leaseOf i),
        { p.observe size with slabs := pre ++ s' :: post }.countRent.recordLayout)) ∨
    (∃ slab i slab', (∀ t ∈ p.slabs, t.segmentSize = size → t.free = []) ∧
      Slab.create p.nextSlabId size (max (p.capacity size) 1) = .ok slab ∧
      slab.rent? = some (i, slab') ∧
      p.rent size = (.ok (slab.leaseOf i),
        { (p.observe size).provision slab with slabs := p.slabs ++ [slab'] }.countRent.recordLayout)) ∨
    (∃ e, (∀ t ∈ p.slabs, t.segmentSize = size → t.free = []) ∧
      Slab.create p.nextSlabId size (max (p.capacity size) 1) = .error e ∧
      p.rent size = (.error e, p.observe size)) := by
  simp only [rent, if_neg hsize, hlive, Bool.false_eq_true, if_false, observe_slabs,
    observe_nextSlabId, observe_capacity, provision_slabs]
  cases hr : rentFromSlabs size p.slabs with
  | some r =>
    obtain ⟨id, i, slabs'⟩ := r
    obtain ⟨pre, s, s', post, hsplit, rfl, rfl, rfl, hrent, hfull⟩ := rentFromSlabs_eq_some hr
    refine .inl ⟨pre, s, s', post, i, hsplit, rfl, hrent, hfull, ?_⟩
    have hs := hd.slabs_sound s (by simp [hsplit])
    obtain ⟨rest, hfree, rfl⟩ := Slab.rent?_eq_some hrent
    exact issue_eq (s := { s with free := rest, rented := s.rented.set i true }) rfl rfl
      (fun t ht _ => (hd.ids_ne hsplit).1 t ht) (hs.free_lt i (by simp [hfree])) hs.fits
  | none =>
    have hfull := rentFromSlabs_eq_none hr
    cases hc : Slab.create p.nextSlabId size (max (p.capacity size) 1) with
    | error e => exact .inr (.inr ⟨e, hfull, rfl, rfl⟩)
    | ok slab =>
      dsimp only
      obtain ⟨hs, hid, hsz, -, -, hfree⟩ := Slab.create_ok hc
      cases hr' : slab.rent? with
      | none =>
        have : List.range (max (p.capacity size) 1) = [] := by
          rw [← hfree, ← Slab.rent?_eq_none, hr']
        simp at this
      | some r =>
        obtain ⟨i, slab'⟩ := r
        refine .inr (.inl ⟨slab, i, slab', hfull, rfl, hr', ?_⟩)
        have hpre : ∀ t ∈ p.slabs, t.segmentSize = size → t.id ≠ slab.id := fun t ht _ he =>
          Nat.lt_irrefl _ (hid ▸ he ▸ hd.ids_lt t ht)
        obtain ⟨rest, hfree', rfl⟩ := Slab.rent?_eq_some hr'
        exact issue_eq (s := { slab with free := rest, rented := slab.rented.set i true })
          (by rfl) hsz hpre (hs.free_lt i (by simp [hfree'])) hs.fits

/-- A rent refused before it looks at the slabs: a zero size, or a disposed pool. -/
theorem rent_of_refused (h : size = 0 ∨ p.disposed = true) :
    p.rent size = (.error (if size = 0 then .invalid .zeroSize else .disposed .pool), p) := by
  rcases h with h | h
  · simp [rent, h]
  · by_cases hz : size = 0 <;> simp [rent, hz, h]

/-- A rent from a sound pool that hands out a lease hands out one of the size asked that reads
as zeros, and keeps the invariant with it added. -/
theorem Sound.rent_ok (h : p.Sound ls) {l : Lease} {p' : Pool} (hr : p.rent size = (.ok l, p')) :
    p'.Sound (l :: ls) ∧ l.segmentSize = size ∧ p'.read l = List.replicate size 0 := by
  have hlive : size ≠ 0 ∧ p.disposed = false := by
    by_cases hz : size = 0
    · rw [rent_of_refused (.inl hz)] at hr
      cases hr
    · cases hd : p.disposed
      · exact ⟨hz, rfl⟩
      · rw [rent_of_refused (.inr hd)] at hr
        cases hr
  rcases h.directory.rent_eq hlive.1 hlive.2 with
    ⟨pre, s, s', post, i, hsplit, hsize, hrent, -, heq⟩ | ⟨slab, i, slab', -, hc, hrent, heq⟩ |
      ⟨e, -, -, heq⟩
  · rw [heq] at hr
    obtain ⟨hl, rfl⟩ := Prod.mk.inj hr
    cases Except.ok.inj hl
    have hsound := ((h.observe size).take hlive.2 hsplit hrent).recordLayout
    have hzero := hsound.read_eq_replicate h.residue
    exact ⟨hsound, hsize, hzero.trans (congrArg (List.replicate · 0) hsize)⟩
  · rw [heq] at hr
    obtain ⟨hl, rfl⟩ := Prod.mk.inj hr
    cases Except.ok.inj hl
    have hsound := ((h.observe size).provision hlive.2 hc hrent).recordLayout
    have hsize : slab.segmentSize = size := (Slab.create_ok hc).2.2.1
    have hzero := hsound.read_eq_replicate (h.residue.provision slab)
    exact ⟨hsound, hsize, hzero.trans (congrArg (List.replicate · 0) hsize)⟩
  · rw [heq] at hr
    cases hr

/-- A rent from a sound pool that fails keeps the invariant and reports a misuse or a disposed
pool, never a corruption. -/
theorem Sound.rent_error (h : p.Sound ls) {e : MemoryError} {p' : Pool}
    (hr : p.rent size = (.error e, p')) : p'.Sound ls ∧ ∀ d, e ≠ .corruption d := by
  by_cases hrefused : size = 0 ∨ p.disposed = true
  · rw [rent_of_refused hrefused] at hr
    obtain ⟨he, rfl⟩ := Prod.mk.inj hr
    cases Except.error.inj he
    refine ⟨h, fun d => ?_⟩
    split <;> simp
  · have hsize : size ≠ 0 := fun hz => hrefused (.inl hz)
    have hlive : p.disposed = false := by simpa using fun hd => hrefused (.inr hd)
    rcases h.directory.rent_eq hsize hlive with ⟨_, _, _, _, _, -, -, -, -, heq⟩ |
      ⟨_, _, _, -, -, -, heq⟩ | ⟨e', -, hc, heq⟩
    · rw [heq] at hr
      cases hr
    · rw [heq] at hr
      cases hr
    · rw [heq] at hr
      obtain ⟨he, rfl⟩ := Prod.mk.inj hr
      cases Except.error.inj he
      obtain ⟨m, rfl⟩ := Slab.create_eq_error hc
      exact ⟨h.observe size, fun d => by simp⟩

/-- A rent from a sound pool leaves the bytes of every lease out as they were. -/
theorem read_rent (h : p.Sound ls) (size : Nat) {l : Lease} (hl : l ∈ ls) :
    (p.rent size).2.read l = p.read l := by
  by_cases hrefused : size = 0 ∨ p.disposed = true
  · rw [rent_of_refused hrefused]
  · have hsize : size ≠ 0 := fun hz => hrefused (.inl hz)
    have hlive : p.disposed = false := by simpa using fun hd => hrefused (.inr hd)
    rcases h.directory.rent_eq hsize hlive with ⟨_, _, _, _, _, -, -, -, -, heq⟩ |
      ⟨slab, _, _, -, hc, -, heq⟩ | ⟨_, -, -, heq⟩
    · rw [heq]
      rfl
    · -- the new slab's arena is not one a lease out lies in
      rw [heq]
      refine read_congr fun j _ => ?_
      have hne : l.arena ≠ slab.arena := by
        rw [(Slab.create_ok hc).2.2.2.2.1]
        exact Nat.ne_of_lt (h.outstanding.arena_lt l hl)
      show ((p.provision slab).arenas l.arena)[j]? = _
      rw [provision_arenas, if_neg hne]
    · rw [heq]
      rfl

end Pool

end KeyCustody
