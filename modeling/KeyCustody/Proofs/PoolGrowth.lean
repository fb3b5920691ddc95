import KeyCustody.Proofs.PoolMetrics

/-!
# How a pool grows

A rent of `n` bytes on a live pool looks only at the bucket of `n`-byte slabs. It takes the top of
the free stack of the first slab there that has a free segment, and changes that slab alone
(`Pool.rent_of_first`). Only when every slab of the bucket is fully rented does it make a slab,
and then exactly one: the next id, as many segments as the capacity strategy gives for `n`, raised
to one if it gives none, appended to the list, which hands out its segment `0` at once
(`Pool.rent_of_full`). A slab too large for a word is not made, and the rent is refused. A new
slab's free stack holds its segments in order with `0` on top, and a segment given back goes on top
of its slab's stack, so it is the next one that slab hands out (`Pool.giveBack_top`).

Slabs join the list only at its end, with an id above every other, and leave it only by being
filtered out; so the list keeps them in the order they were made (`Pool.InCreationOrder`).

From a bucket with no slab, `k` rents of `n` bytes in a row hand out, for the `j`-th of them,
segment `j % c` of the slab with id `next + j / c`, where `c` is the raised segment count and
`next` the id the pool would give next; they leave `⌈k / c⌉` slabs of `c` segments. The induction
over the rents carries `Pool.Grown`: the bucket after `j` rents is `⌈j / c⌉` slabs with consecutive
ids, the `m`-th of which has handed out its first `j - m * c` segments.
-/

namespace KeyCustody

theorem drop_range_eq_cons {t c : Nat} (h : t < c) :
    (List.range c).drop t = t :: (List.range c).drop (t + 1) := by
  rw [List.drop_eq_getElem_cons (by simpa using h), List.getElem_range]

theorem drop_range_eq_nil {t c : Nat} (h : c ≤ t) : (List.range c).drop t = [] :=
  List.drop_eq_nil_of_le (by simpa using h)

namespace Pool

variable {p q : Pool} {n : Nat}

/-! ## One rent -/

/-- A rent on a live pool takes the top of the free stack of the first slab of its size with a free
segment, and changes that slab alone, when no slab of the size before it has its id. -/
theorem rent_of_first (hlive : p.disposed = false) (hn : 0 < n) {pre post : List Slab} {s : Slab}
    {i : Nat} {rest : List Nat} (hsplit : p.slabs = pre ++ s :: post) (hsize : s.segmentSize = n)
    (hfree : s.free = i :: rest) (hi : i < s.segmentCount)
    (hfit : s.segmentSize * s.segmentCount ≤ wordLimit)
    (hpre : ∀ t ∈ pre, t.segmentSize = n → t.free = [] ∧ t.id ≠ s.id) :
    p.rent n = (.ok (s.leaseOf i), { p.observe n with
      slabs := pre ++ { s with free := rest, rented := s.rented.set i true } :: post
      }.countRent.recordLayout) := by
  have hrent : s.rent? = some (i, { s with free := rest, rented := s.rented.set i true }) := by
    simp [Slab.rent?, hfree]
  have hfound : rentFromSlabs n (pre ++ s :: post) = some (s.id, i, pre ++ _ :: post) :=
    rentFromSlabs_of_first (fun t ht h => (hpre t ht h).1) hsize hrent
  simp only [rent, Nat.pos_iff_ne_zero.mp hn, hlive, if_false, Bool.false_eq_true, observe_slabs,
    hsplit, hfound]
  exact issue_eq (s := { s with free := rest, rented := s.rented.set i true }) rfl hsize
    (fun t ht h => (hpre t ht h).2) hi hfit

/-- A rent on a live pool whose slabs of its size are all full, none with the next id, makes the
slab `create` gives, appends it and takes its segment `0`. -/
theorem rent_of_full (hlive : p.disposed = false) (hn : 0 < n)
    (hfull : ∀ t ∈ p.slabs, t.segmentSize = n → t.free = [] ∧ t.id ≠ p.nextSlabId) {slab : Slab}
    (hcreate : Slab.create p.nextSlabId n (max (p.capacity n) 1) = .ok slab) :
    p.rent n = (.ok (slab.leaseOf 0), { (p.observe n).provision slab with
      slabs := p.slabs ++ [{ slab with
        free := (List.range (max (p.capacity n) 1)).tail
        rented := slab.rented.set 0 true }] }.countRent.recordLayout) := by
  obtain ⟨hsound, hid, hsize, hcount, -, hfree⟩ := Slab.create_ok hcreate
  have hnone := rentFromSlabs_of_full fun t ht h => (hfull t ht h).1
  -- a new slab holds its segments in order, `0` on top
  have htop : slab.free = 0 :: (List.range (max (p.capacity n) 1)).tail := by
    obtain ⟨c, hc⟩ : ∃ c, max (p.capacity n) 1 = c + 1 := ⟨max (p.capacity n) 1 - 1, by omega⟩
    rw [hfree, hc, List.range_succ_eq_map, List.tail_cons]
  have hrent : slab.rent? = some (0, { slab with
      free := (List.range (max (p.capacity n) 1)).tail
      rented := slab.rented.set 0 true }) := by
    simp [Slab.rent?, htop]
  simp only [rent, Nat.pos_iff_ne_zero.mp hn, hlive, if_false, Bool.false_eq_true, observe_slabs,
    hnone, observe_nextSlabId, observe_capacity, hcreate, provision_slabs, hrent]
  exact issue_eq (s := { slab with
      free := (List.range (max (p.capacity n) 1)).tail
      rented := slab.rented.set 0 true })
    rfl hsize (fun t ht h => hid ▸ (hfull t ht h).2) (by rw [hcount]; omega) hsound.fits

/-- A return a slab takes puts the segment on top of the free stack of the lease's own slab, so it
is the next segment that slab hands out. -/
theorem giveBack_top {l : Lease} (h : (p.giveBack l).1 = .ok ()) :
    ∃ s ∈ (p.giveBack l).2.slabs, s.segmentSize = l.segmentSize ∧ s.id = l.slab ∧
      s.rent?.map Prod.fst = some l.index := by
  rcases giveBack_cases p l with ⟨-, e, heq⟩ | ⟨-, pre, s, s', post, -, hsize, hid, hrel, heq⟩ |
    ⟨-, heq⟩ <;> rw [heq] at h ⊢
  · cases h
  · refine ⟨s', by simp [recordLayout], ?_⟩
    rw [(Slab.release_eq_ok hrel).2.2]
    exact ⟨hsize, hid, rfl⟩
  · cases h

theorem Directory.rent_of_first (hd : p.Directory) (hlive : p.disposed = false) (hn : 0 < n)
    {pre post : List Slab} {s : Slab} {i : Nat} {rest : List Nat}
    (hsplit : p.slabs = pre ++ s :: post) (hsize : s.segmentSize = n) (hfree : s.free = i :: rest)
    (hpre : ∀ t ∈ pre, t.segmentSize = n → t.free = []) :
    p.rent n = (.ok (s.leaseOf i), { p.observe n with
      slabs := pre ++ { s with free := rest, rented := s.rented.set i true } :: post
      }.countRent.recordLayout) :=
  have hs := hd.slabs_sound s (by simp [hsplit])
  Pool.rent_of_first hlive hn hsplit hsize hfree (hs.free_lt i (by simp [hfree])) hs.fits
    fun t ht h => ⟨hpre t ht h, (hd.ids_ne hsplit).1 t ht⟩

/-- On a pool the directory describes whose slabs of a size are all full, a rent whose new slab
fits a word makes it with the next id and appends it, and hands out its segment `0`. -/
theorem Directory.rent_grows (hd : p.Directory) (hlive : p.disposed = false) (hn : 0 < n)
    (hfull : ∀ t ∈ p.slabs, t.segmentSize = n → t.free = [])
    (hfit : n * max (p.capacity n) 1 ≤ wordLimit) :
    (p.rent n).1 = .ok ⟨n, p.nextSlabId, 0, p.nextSlabId, 0⟩ ∧
    (p.rent n).2.slabs = p.slabs ++ [⟨p.nextSlabId, n, max (p.capacity n) 1, p.nextSlabId,
      (List.range (max (p.capacity n) 1)).tail, (Bitset.new (max (p.capacity n) 1)).set 0 true⟩] ∧
    (p.rent n).2.nextSlabId = p.nextSlabId + 1 := by
  have hrent := Pool.rent_of_full hlive hn
    (fun t ht h => ⟨hfull t ht h, Nat.ne_of_lt (hd.ids_lt t ht)⟩)
    (Slab.create_of_fits hn (by omega) hfit)
  rw [hrent]
  refine ⟨?_, rfl, rfl⟩
  simp [Slab.leaseOf]

/-- The first rent of `n > 0` bytes from a new pool, when its slab fits a word, makes slab `0` and
hands out its segment `0`. -/
theorem rent_withStrategy (config : PoolConfig) (capacity : Nat → Nat) (hn : 0 < n)
    (hfit : n * max (capacity n) 1 ≤ wordLimit) :
    ((withStrategy config capacity).rent n).1 = .ok ⟨n, 0, 0, 0, 0⟩ :=
  -- a new pool has no slab, so every slab of the size is full
  ((directory_withStrategy config capacity).rent_grows rfl hn
    (fun _ h => by simp [withStrategy] at h) hfit).1

/-! ## Creation order -/

/-- The slabs stand in the order they were made: their ids increase along the list. -/
def InCreationOrder (p : Pool) : Prop := (p.slabs.map Slab.id).Pairwise (· < ·)

theorem InCreationOrder.of_ids (h : p.InCreationOrder) (hids : q.slabs.map Slab.id = p.slabs.map Slab.id) :
    q.InCreationOrder := by
  unfold InCreationOrder
  rw [hids]
  exact h

theorem InCreationOrder.of_sublist (h : p.InCreationOrder) (hsub : q.slabs.Sublist p.slabs) :
    q.InCreationOrder :=
  h.sublist (hsub.map Slab.id)

theorem ids_replace {pre post : List Slab} {s s' : Slab} (h : s'.id = s.id) :
    (pre ++ s' :: post).map Slab.id = (pre ++ s :: post).map Slab.id := by
  simp [h]

theorem InCreationOrder.rent (h : p.InCreationOrder) (hd : p.Directory) (n : Nat) :
    (p.rent n).2.InCreationOrder := by
  rcases refused_or_live p n with hr | ⟨hn, hlive⟩
  · rw [rent_of_refused hr]
    exact h
  · rcases hd.rent_eq hn hlive with ⟨pre, s, s', post, i, hsplit, -, hrent, -, heq⟩ |
      ⟨slab, i, slab', -, hcreate, hrent, heq⟩ | ⟨e, -, -, heq⟩ <;> rw [heq]
    · -- the slab rented from keeps its id
      obtain ⟨rest, -, rfl⟩ := Slab.rent?_eq_some hrent
      exact h.of_ids (by rw [hsplit]; exact ids_replace rfl)
    · -- the new slab has the next id, above every id in the list
      obtain ⟨rest, -, rfl⟩ := Slab.rent?_eq_some hrent
      have hid : slab.id = p.nextSlabId := (Slab.create_ok hcreate).2.1
      show ((p.slabs ++ [_]).map Slab.id).Pairwise (· < ·)
      rw [List.map_append, List.pairwise_append]
      refine ⟨h, List.pairwise_singleton _ _, ?_⟩
      intro a ha b hb
      obtain ⟨t, ht, rfl⟩ := List.mem_map.mp ha
      rw [List.map_singleton, List.mem_singleton] at hb
      rw [hb]
      show t.id < slab.id
      rw [hid]
      exact hd.ids_lt t ht
    · exact h

theorem InCreationOrder.giveBack (h : p.InCreationOrder) (l : Lease) :
    (p.giveBack l).2.InCreationOrder := by
  rcases giveBack_cases p l with ⟨-, e, heq⟩ | ⟨-, pre, s, s', post, hsplit, -, -, hrel, heq⟩ |
    ⟨-, heq⟩ <;> rw [heq]
  · exact h
  · -- the slab that took the segment keeps its id
    exact h.of_ids (by rw [hsplit, (Slab.release_eq_ok hrel).2.2]; exact ids_replace rfl)
  · exact h

theorem InCreationOrder.trim (h : p.InCreationOrder) : p.trim.2.InCreationOrder := by
  cases hlive : p.disposed
  · refine h.of_sublist ?_
    simp only [Pool.trim, hlive, Bool.false_eq_true, if_false, recordLayout]
    exact List.filter_sublist
  · rw [trim_of_disposed hlive]
    exact h

theorem InCreationOrder.dispose (h : p.InCreationOrder) : p.dispose.InCreationOrder := by
  cases hlive : p.disposed
  · refine h.of_sublist ?_
    simp [Pool.dispose, hlive, recordLayout]
  · rw [dispose_of_disposed hlive]
    exact h

theorem InCreationOrder.call (h : p.InCreationOrder) (hd : p.Directory) (c : Call) :
    (p.call c).2.InCreationOrder := by
  cases c with
  | rent n => exact h.rent hd n
  | write l offset data => exact h
  | giveBack l => exact h.giveBack l
  | trim => exact h.trim
  | dispose => exact h.dispose

theorem InCreationOrder.run (h : p.InCreationOrder) (hd : p.Directory) (cs : List Call) :
    (p.run cs).2.InCreationOrder := by
  induction cs generalizing p with
  | nil => exact h
  | cons c cs ih => exact ih (h.call hd c) (hd.call c)

/-! ## Successive rents into an empty bucket -/

/-- Slab `m` of a bucket that `j` rents filled from empty, with slabs of `c` segments of `n` bytes
whose ids count up from `base`: it has handed out its first `j - m * c` segments, all of them
once `j` is past its end. -/
structure GrownSlab (base n c j m : Nat) (s : Slab) : Prop where
  id_eq : s.id = base + m
  arena_eq : s.arena = base + m
  size_eq : s.segmentSize = n
  count_eq : s.segmentCount = c
  free_eq : s.free = (List.range c).drop (j - m * c)

/-- `q` is `p` after `j` rents of `n` bytes into a bucket that had no slab: the bucket is `B`, of
`⌈j / c⌉` slabs appended after the slabs `p` had, with the ids that came next. -/
structure Grown (p : Pool) (n c j : Nat) (B : List Slab) (q : Pool) : Prop where
  live : q.disposed = false
  capacity_eq : q.capacity = p.capacity
  slabs_eq : q.slabs = p.slabs ++ B
  next_eq : q.nextSlabId = p.nextSlabId + B.length
  enough : j ≤ B.length * c
  no_spare : B.length * c < j + c
  slab : ∀ m s, B[m]? = some s → GrownSlab p.nextSlabId n c j m s

theorem GrownSlab.succ_of_full {base c j m : Nat} {s : Slab} (h : GrownSlab base n c j m s)
    (hfull : c ≤ j - m * c) : GrownSlab base n c (j + 1) m s := by
  refine ⟨h.id_eq, h.arena_eq, h.size_eq, h.count_eq, ?_⟩
  rw [h.free_eq, drop_range_eq_nil hfull, drop_range_eq_nil (by omega)]

theorem grown_start (hlive : p.disposed = false) (hc : 0 < c) : p.Grown n c 0 [] p :=
  ⟨hlive, rfl, by simp, rfl, by simp, by simpa using hc, fun m s h => by simp at h⟩

section Step

variable {c j : Nat} {B : List Slab}

theorem GrownSlab.snoc {base : Nat} {B : List Slab} {x : Slab}
    (hB : ∀ m t, B[m]? = some t → GrownSlab base n c j m t) (hx : GrownSlab base n c j B.length x) :
    ∀ m t, (B ++ [x])[m]? = some t → GrownSlab base n c j m t := by
  intro m t hm
  rcases Nat.lt_or_ge m B.length with hmB | hmB
  · rw [List.getElem?_append_left hmB] at hm
    exact hB m t hm
  · rw [List.getElem?_append_right hmB, List.getElem?_singleton] at hm
    split_ifs at hm with hm0
    cases hm
    obtain rfl : m = B.length := by omega
    exact hx

/-- The slabs of the bucket whose ends the rents have passed are full, and stay as they are
through one more rent. -/
theorem Grown.full_of_prefix {B0 B1 : List Slab} (h : p.Grown n c j (B0 ++ B1) q)
    (hend : B0.length * c ≤ j) {m : Nat} {t : Slab} (ht : B0[m]? = some t) :
    t.free = [] ∧ GrownSlab p.nextSlabId n c (j + 1) m t := by
  have hm : m < B0.length := (List.getElem?_eq_some_iff.mp ht).1
  have hslab := h.slab m t (by rw [List.getElem?_append_left hm]; exact ht)
  -- slab `m` ends at `(m + 1) * c`, where the rents have been already
  have hend' : m * c + c ≤ j := by
    have := Nat.mul_le_mul_right c (Nat.succ_le_of_lt hm)
    rw [Nat.succ_mul] at this
    omega
  have hfull : c ≤ j - m * c := by omega
  exact ⟨hslab.free_eq.trans (drop_range_eq_nil hfull), hslab.succ_of_full hfull⟩

/-- Every slab of the size ahead of the slabs the rents are still filling is full, with an id
below theirs. -/
theorem Grown.full_of_mem {B0 B1 : List Slab} (h : p.Grown n c j (B0 ++ B1) q)
    (hend : B0.length * c ≤ j) (hempty : ∀ s ∈ p.slabs, s.segmentSize ≠ n) {t : Slab}
    (ht : t ∈ p.slabs ++ B0) (hsize : t.segmentSize = n) :
    t.free = [] ∧ t.id < p.nextSlabId + B0.length := by
  rcases List.mem_append.mp ht with ht | ht
  · exact absurd hsize (hempty t ht)
  · obtain ⟨m, hm⟩ := List.mem_iff_getElem?.mp ht
    obtain ⟨hfull, hslab⟩ := h.full_of_prefix hend hm
    have hmB : m < B0.length := (List.getElem?_eq_some_iff.mp hm).1
    refine ⟨hfull, ?_⟩
    rw [hslab.id_eq]
    omega

/-- A rent while the last slab of the bucket has room takes the next segment of that slab. -/
theorem Grown.rent_room {B0 : List Slab} {last : Slab} (h : p.Grown n c j (B0 ++ [last]) q)
    (hn : 0 < n) (hfit : n * c ≤ wordLimit) (hempty : ∀ s ∈ p.slabs, s.segmentSize ≠ n) (hroom : j < B0.length * c + c) :
    (q.rent n).1 = .ok ⟨n, p.nextSlabId + j / c, j % c, p.nextSlabId + j / c, j % c * n⟩ ∧
    ∃ B', p.Grown n c (j + 1) B' (q.rent n).2 := by
  have hspare := h.no_spare
  simp only [List.length_append, List.length_singleton, Nat.succ_mul] at hspare
  have hlast : GrownSlab p.nextSlabId n c j B0.length last := h.slab _ _ (by simp)
  -- the last slab has handed out its first `j - B0.length * c` segments; the next is on top
  have hr : j - B0.length * c < c := by omega
  have hfree : last.free = (j - B0.length * c) :: (List.range c).drop (j - B0.length * c + 1) := by
    rw [hlast.free_eq, drop_range_eq_cons hr]
  have hpre : ∀ t ∈ p.slabs ++ B0, t.segmentSize = n → t.free = [] ∧ t.id ≠ last.id := by
    intro t ht hsize
    obtain ⟨hfull, hlt⟩ := h.full_of_mem (by omega) hempty ht hsize
    exact ⟨hfull, by rw [hlast.id_eq]; omega⟩
  have hrent := rent_of_first h.live hn (h.slabs_eq.trans (List.append_assoc _ _ _).symm)
    hlast.size_eq hfree (by rw [hlast.count_eq]; exact hr)
    (by rw [hlast.size_eq, hlast.count_eq]; exact hfit) hpre
  have hdiv : j / c = B0.length := Nat.div_eq_of_lt_le (by omega) (by rw [Nat.succ_mul]; omega)
  have hmod : j % c = j - B0.length * c := by
    rw [Nat.mod_eq_sub_mul_div, hdiv, Nat.mul_comm]
  refine ⟨?_, B0 ++ [{ last with
    free := (List.range c).drop (j - B0.length * c + 1)
    rented := last.rented.set (j - B0.length * c) true }], ?_⟩
  · rw [hrent, hdiv, hmod]
    simp [Slab.leaseOf, hlast.size_eq, hlast.id_eq, hlast.arena_eq]
  · rw [hrent]
    refine ⟨h.live, h.capacity_eq, by simp [recordLayout, List.append_assoc],
      by simpa [recordLayout] using h.next_eq, ?_, ?_,
      GrownSlab.snoc (fun m t hm => (h.full_of_prefix (by omega) hm).2)
        ⟨hlast.id_eq, hlast.arena_eq, hlast.size_eq, hlast.count_eq, ?_⟩⟩
    · simp only [List.length_append, List.length_singleton, Nat.succ_mul]
      omega
    · simp only [List.length_append, List.length_singleton, Nat.succ_mul]
      omega
    · show (List.range c).drop (j - B0.length * c + 1) = (List.range c).drop (j + 1 - B0.length * c)
      congr 1
      omega

/-- A rent once every slab of the bucket is full makes a slab with the next id and takes its
segment `0`. -/
theorem Grown.rent_new (h : p.Grown n c j B q) (hn : 0 < n) (hc : max (p.capacity n) 1 = c)
    (hfit : n * c ≤ wordLimit) (hempty : ∀ s ∈ p.slabs, s.segmentSize ≠ n)
    (hfull : j = B.length * c) :
    (q.rent n).1 = .ok ⟨n, p.nextSlabId + j / c, j % c, p.nextSlabId + j / c, j % c * n⟩ ∧
    ∃ B', p.Grown n c (j + 1) B' (q.rent n).2 := by
  have hcpos : 0 < c := by omega
  have hcq : max (q.capacity n) 1 = c := by rw [h.capacity_eq, hc]
  have h' : p.Grown n c j (B ++ []) q := by rwa [List.append_nil]
  have hcreate : Slab.create q.nextSlabId n c =
      .ok ⟨q.nextSlabId, n, c, q.nextSlabId, List.range c, Bitset.new c⟩ :=
    Slab.create_of_fits hn hcpos hfit
  have hfull' : ∀ t ∈ q.slabs, t.segmentSize = n → t.free = [] ∧ t.id ≠ q.nextSlabId := by
    intro t ht hsize
    rw [h.slabs_eq] at ht
    obtain ⟨hfree, hlt⟩ := h'.full_of_mem (by omega) hempty ht hsize
    exact ⟨hfree, by rw [h.next_eq]; omega⟩
  have hrent := rent_of_full h.live hn hfull' (hcq ▸ hcreate)
  have hdiv : j / c = B.length := by
    rw [hfull, Nat.mul_div_cancel _ hcpos]
  have hmod : j % c = 0 := by
    rw [hfull, Nat.mul_mod_left]
  refine ⟨?_, B ++ [⟨q.nextSlabId, n, c, q.nextSlabId, (List.range c).tail,
    (Bitset.new c).set 0 true⟩], ?_⟩
  · rw [hrent, hdiv, hmod]
    simp [Slab.leaseOf, h.next_eq]
  · rw [hrent, hcq]
    refine ⟨h.live, h.capacity_eq, by simp [recordLayout, h.slabs_eq],
      by simp [recordLayout, h.next_eq, Nat.add_assoc], ?_, ?_,
      GrownSlab.snoc (fun m t hm => (h'.full_of_prefix (by omega) hm).2)
        ⟨by rw [h.next_eq], by rw [h.next_eq], rfl, rfl, ?_⟩⟩
    · simp only [List.length_append, List.length_singleton, Nat.succ_mul]
      omega
    · simp only [List.length_append, List.length_singleton, Nat.succ_mul]
      omega
    · show (List.range c).tail = (List.range c).drop (j + 1 - B.length * c)
      rw [← List.drop_one]
      congr 1
      omega

/-- One more rent of `n` bytes: from the last slab of the bucket while it has room, from a new
slab once it is full. -/
theorem Grown.rent (h : p.Grown n c j B q) (hn : 0 < n) (hc : max (p.capacity n) 1 = c)
    (hfit : n * c ≤ wordLimit) (hempty : ∀ s ∈ p.slabs, s.segmentSize ≠ n) :
    (q.rent n).1 = .ok ⟨n, p.nextSlabId + j / c, j % c, p.nextSlabId + j / c, j % c * n⟩ ∧
    ∃ B', p.Grown n c (j + 1) B' (q.rent n).2 := by
  by_cases hroom : j < B.length * c
  · have hne : B ≠ [] := by
      rintro rfl
      simp at hroom
    obtain ⟨B0, last, rfl⟩ : ∃ B0 last, B = B0 ++ [last] :=
      ⟨B.dropLast, B.getLast hne, (List.dropLast_append_getLast hne).symm⟩
    refine h.rent_room hn hfit hempty ?_
    simpa [Nat.succ_mul] using hroom
  · exact h.rent_new hn hc hfit hempty (by have := h.enough; omega)

/-- Rents of `n` bytes one after another: the `i`-th hands out segment `i % c` of the slab with id
`next + i / c`, and the bucket keeps growing. -/
theorem Grown.run (h : p.Grown n c j B q) (hn : 0 < n) (hc : max (p.capacity n) 1 = c)
    (hfit : n * c ≤ wordLimit) (hempty : ∀ s ∈ p.slabs, s.segmentSize ≠ n) (k : Nat) :
    (q.run (List.replicate k (.rent n))).1.map Event.answer = (List.range' j k).map
      (fun i => .ok (.lease ⟨n, p.nextSlabId + i / c, i % c, p.nextSlabId + i / c, i % c * n⟩)) ∧
    ∃ B', p.Grown n c (j + k) B' (q.run (List.replicate k (.rent n))).2 := by
  induction k generalizing j B q with
  | zero => exact ⟨rfl, B, h⟩
  | succ k ih =>
    obtain ⟨hanswer, B', h'⟩ := h.rent hn hc hfit hempty
    obtain ⟨hanswers, B'', h''⟩ := ih h'
    have hjk : j + 1 + k = j + (k + 1) := by omega
    refine ⟨?_, B'', hjk ▸ h''⟩
    simp only [List.replicate_succ, run_cons, List.map_cons, List.range'_succ, call, hanswer,
      Except.map]
    exact congrArg _ hanswers

end Step

/-- The bucket of a pool grown from empty has `⌈j / c⌉` slabs of `c` segments of `n` bytes. -/
theorem Grown.bucket_totals (h : p.Grown n c j B q) (hc : 0 < c) (hempty : ∀ s ∈ p.slabs, s.segmentSize ≠ n) :
    (q.bucket n).length = (j + c - 1) / c ∧
    ((q.bucket n).map Slab.segmentCount).sum = (j + c - 1) / c * c ∧
    ((q.bucket n).map Slab.byteLength).sum = n * ((j + c - 1) / c * c) := by
  have hslab : ∀ s ∈ B, s.segmentSize = n ∧ s.segmentCount = c := by
    intro s hs
    obtain ⟨m, hm, rfl⟩ := List.getElem_of_mem hs
    have := h.slab m _ (List.getElem?_eq_getElem hm)
    exact ⟨this.size_eq, this.count_eq⟩
  -- the bucket is the grown slabs: the slabs the pool had are of other sizes
  have hbucket : q.bucket n = B := by
    rw [Pool.bucket, h.slabs_eq, List.filter_append, List.filter_eq_nil_iff.mpr, List.filter_eq_self.mpr,
      List.nil_append]
    · intro s hs
      simp [(hslab s hs).1]
    · intro s hs
      simp [hempty s hs]
  have hlen : B.length = (j + c - 1) / c := by
    have henough := h.enough
    have hspare := h.no_spare
    refine (Nat.div_eq_of_lt_le ?_ ?_).symm
    · omega
    · rw [Nat.succ_mul]
      omega
  have hcounts : B.map Slab.segmentCount = List.replicate B.length c := by
    rw [List.eq_replicate_iff]
    exact ⟨by simp, fun x hx => by obtain ⟨s, hs, rfl⟩ := List.mem_map.mp hx; exact (hslab s hs).2⟩
  have hbytes : B.map Slab.byteLength = List.replicate B.length (n * c) := by
    rw [List.eq_replicate_iff]
    refine ⟨by simp, fun x hx => ?_⟩
    obtain ⟨s, hs, rfl⟩ := List.mem_map.mp hx
    rw [Slab.byteLength, (hslab s hs).1, (hslab s hs).2]
  rw [hbucket, hcounts, hbytes, List.sum_replicate, List.sum_replicate, hlen, smul_eq_mul,
    smul_eq_mul]
  refine ⟨rfl, rfl, ?_⟩
  rw [Nat.mul_comm n c, ← Nat.mul_assoc, Nat.mul_comm _ n]

/-- `k` rents of `n` bytes in a row into a bucket with no slab: the `i`-th hands out segment
`i % c` of the slab with id `next + i / c`, and they leave `⌈k / c⌉` slabs of `c` segments and
`n * c` bytes each, where `c` is the strategy's count for `n` raised to one. -/
theorem rents_fill_bucket (hlive : p.disposed = false) (hn : 0 < n) {c : Nat}
    (hc : max (p.capacity n) 1 = c) (hfit : n * c ≤ wordLimit)
    (hempty : ∀ s ∈ p.slabs, s.segmentSize ≠ n) (k : Nat) :
    (p.run (List.replicate k (.rent n))).1.map Event.answer = (List.range k).map
      (fun i => .ok (.lease ⟨n, p.nextSlabId + i / c, i % c, p.nextSlabId + i / c, i % c * n⟩)) ∧
    ((p.run (List.replicate k (.rent n))).2.bucket n).length = (k + c - 1) / c ∧
    (((p.run (List.replicate k (.rent n))).2.bucket n).map Slab.segmentCount).sum =
      (k + c - 1) / c * c ∧
    (((p.run (List.replicate k (.rent n))).2.bucket n).map Slab.byteLength).sum =
      n * ((k + c - 1) / c * c) := by
  have hcpos : 0 < c := by omega
  obtain ⟨hanswers, B, hgrown⟩ := (grown_start (n := n) hlive hcpos).run hn hc hfit hempty k
  rw [Nat.zero_add] at hgrown
  refine ⟨by rw [hanswers, List.range_eq_range'], hgrown.bucket_totals hcpos hempty⟩

/-- A rent whose slab would not fit a word makes no slab, and neither does a rent of zero bytes:
from a pool with four segments to a slab and no slab at all, one rent of `2 ^ 63` bytes, or of
none, leaves no slab of its size, where one slab for every four rents would give one. -/
theorem overflowing_rent_makes_no_slab :
    (((withStrategy PoolConfig.default fun _ => 4).run [.rent (2 ^ 63)]).2.bucket (2 ^ 63)).length = 0 ∧
    (((withStrategy PoolConfig.default fun _ => 4).run [.rent 0]).2.bucket 0).length = 0 := by
  -- the pool has no slab, so every slab of the size is full, and four segments overflow a word
  have hover : wordLimit < 2 ^ 63 * max ((withStrategy PoolConfig.default fun _ => 4).capacity (2 ^ 63)) 1 := by
    simp [withStrategy, wordLimit]
  have hrefused := rent_eq_slabOverflow rfl (fun _ h => by simp [withStrategy] at h) hover
  constructor
  · show (((withStrategy PoolConfig.default fun _ => 4).rent (2 ^ 63)).2.bucket (2 ^ 63)).length = 0
    rw [hrefused]
    rfl
  · show (((withStrategy PoolConfig.default fun _ => 4).rent 0).2.bucket 0).length = 0
    rw [rent_zero]
    rfl

/-- How a pool grows. On a live pool the directory describes, a rent of `n > 0` bytes takes the top
segment of the first slab of size `n` with a free segment, and changes that slab alone. When every
slab of size `n` is full it makes one slab, with the next id and `max (f n) 1` segments of `n`
bytes, appends it and hands out its segment `0`; if those bytes do not fit a word it is refused
instead, and no slab is made. The slabs of a pool stay in the order they were made, through any
run from a new pool, and a segment given back is the next one its slab hands out. So from no slab
of size `n`, where the slab fits a word, `k` rents in a row hand out, for the `i`-th, segment
`i % c` of the slab with id `next + i / c`, and leave `⌈k / c⌉` slabs of size `n`, with
`⌈k / c⌉ * c` segments and `n` times as many bytes, where `c = max (f n) 1`. -/
theorem rent_follows_growth_policy :
    (∀ (p : Pool) (n : Nat), p.Directory → p.disposed = false → 0 < n →
      (∀ pre s post i rest, p.slabs = pre ++ s :: post → s.segmentSize = n → s.free = i :: rest →
        (∀ t ∈ pre, t.segmentSize = n → t.free = []) →
        p.rent n = (.ok (s.leaseOf i), { p.observe n with
          slabs := pre ++ { s with free := rest, rented := s.rented.set i true } :: post
          }.countRent.recordLayout)) ∧
      ((∀ t ∈ p.slabs, t.segmentSize = n → t.free = []) → n * max (p.capacity n) 1 ≤ wordLimit →
        (p.rent n).1 = .ok ⟨n, p.nextSlabId, 0, p.nextSlabId, 0⟩ ∧
        (p.rent n).2.slabs = p.slabs ++ [⟨p.nextSlabId, n, max (p.capacity n) 1, p.nextSlabId,
          (List.range (max (p.capacity n) 1)).tail, (Bitset.new (max (p.capacity n) 1)).set 0 true⟩] ∧
        (p.rent n).2.nextSlabId = p.nextSlabId + 1) ∧
      ((∀ t ∈ p.slabs, t.segmentSize = n → t.free = []) → wordLimit < n * max (p.capacity n) 1 →
        p.rent n = (.error (.invalid (.slabOverflow (max (p.capacity n) 1) n)), p.observe n))) ∧
    (∀ config capacity cs, ((withStrategy config capacity).run cs).2.InCreationOrder) ∧
    (∀ (p : Pool) (l : Lease), (p.giveBack l).1 = .ok () →
      ∃ s ∈ (p.giveBack l).2.slabs, s.segmentSize = l.segmentSize ∧ s.id = l.slab ∧
        s.rent?.map Prod.fst = some l.index) ∧
    (∀ (p : Pool) (n c k : Nat), p.disposed = false → 0 < n → max (p.capacity n) 1 = c →
      n * c ≤ wordLimit → (∀ s ∈ p.slabs, s.segmentSize ≠ n) →
      (p.run (List.replicate k (.rent n))).1.map Event.answer = (List.range k).map
        (fun i => .ok (.lease ⟨n, p.nextSlabId + i / c, i % c, p.nextSlabId + i / c, i % c * n⟩)) ∧
      ((p.run (List.replicate k (.rent n))).2.bucket n).length = (k + c - 1) / c ∧
      (((p.run (List.replicate k (.rent n))).2.bucket n).map Slab.segmentCount).sum =
        (k + c - 1) / c * c ∧
      (((p.run (List.replicate k (.rent n))).2.bucket n).map Slab.byteLength).sum =
        n * ((k + c - 1) / c * c)) := by
  refine ⟨fun p n hd hlive hn => ⟨?_, hd.rent_grows hlive hn, ?_⟩, fun config capacity cs => ?_,
    fun p l h => giveBack_top h, fun p n c k hlive hn hc hfit hempty =>
      rents_fill_bucket hlive hn hc hfit hempty k⟩
  · intro pre s post i rest hsplit hsize hfree hpre
    exact hd.rent_of_first hlive hn hsplit hsize hfree hpre
  · intro hfull hover
    exact rent_eq_slabOverflow hlive hfull hover
  · -- a new pool has no slab, so its ids are in order
    have hstart : (withStrategy config capacity).InCreationOrder := by
      simp [InCreationOrder, withStrategy]
    exact hstart.run (directory_withStrategy config capacity) cs

end Pool

end KeyCustody
