import KeyCustody.Proofs.PoolGrowth
import KeyCustody.Proofs.SessionInvariant

/-!
# The directory invariant

The pool keeps its slabs as buckets, one per segment size (`Pool.bucket`). Through every run of
calls from a new pool, the buckets stay in order (`Pool.Buckets`). A slab filed under size `n` has
segments of `n` bytes and at least one segment. Slab ids are distinct over the whole directory,
increase along each bucket, and stay below the id the pool gives next.

A client of the pool holds the leases it was handed and has not given back. It writes and returns
only through those (`Pool.Conforms`). Every lease it holds then names, by its size and slab id, a
slab that lends it (`Slab.Lends`): the lease's arena is that slab's, and the lease's segment is
marked rented there. While the pool is live, that slab is in the lease's bucket. Once the pool is
disposed, it was in that bucket when the dispose emptied the directory, and no other call removed
it (`Pool.HandleResolves`).

The lease half comes from the pool invariant `Pool.Sound`, which every call a client may make
keeps. The disposed half follows the run back to its dispose. No call but a dispose disposes a
live pool, and a disposed pool hands out no lease.
-/

namespace KeyCustody

namespace Slab

/-- Slab `s` is the one lease `l` names, and still lends it: the lease's slab id and arena are the
slab's, and the lease's segment is marked rented. -/
def Lends (s : Slab) (l : Lease) : Prop :=
  s.id = l.slab ∧ s.arena = l.arena ∧ s.rented.get l.index = true

theorem Lent.lends {s : Slab} {l : Lease} (h : s.Lent l) (hs : s.Sound) : s.Lends l :=
  ⟨h.id_eq, h.arena_eq, hs.get_of_not_free h.index_lt h.not_free⟩

end Slab

namespace Pool

/-- The directory in order, bucket by bucket: every slab filed under a size has segments of that
size and at least one of them; ids are distinct, increase along each bucket and stay below the
next id. -/
structure Buckets (p : Pool) : Prop where
  size_eq : ∀ n, ∀ s ∈ p.bucket n, s.segmentSize = n
  count_pos : ∀ n, ∀ s ∈ p.bucket n, 0 < s.segmentCount
  ids_nodup : (p.slabs.map Slab.id).Nodup
  ids_increase : ∀ n, ((p.bucket n).map Slab.id).Pairwise (· < ·)
  ids_lt : ∀ s ∈ p.slabs, s.id < p.nextSlabId

variable {p : Pool} {ls : List Lease} {cs : List Call}

/-- Sound slabs with distinct ids below the next, kept in creation order, make buckets in
order. -/
theorem Directory.buckets (hd : p.Directory) (ho : p.InCreationOrder) : p.Buckets where
  size_eq _ _ hs := of_decide_eq_true (List.mem_filter.mp hs).2
  count_pos _ s hs := (hd.slabs_sound s (List.mem_filter.mp hs).1).count_pos
  ids_nodup := hd.ids_nodup
  ids_increase _ := ho.sublist (List.filter_sublist.map Slab.id)
  ids_lt := hd.ids_lt

/-! ## A client's runs -/

/-- The leases a client holds after a call answered `answer`, given the leases `ls` it held before:
a rent that hands out a lease adds it, and a return takes its lease away, whatever it answers. -/
def Call.holding (c : Call) (ls : List Lease) (answer : Except MemoryError Answer) : List Lease :=
  match c, answer with
  | .rent _, .ok (.lease l) => l :: ls
  | .giveBack l, _ => ls.erase l
  | _, _ => ls

/-- A call a client holding `ls` can make: it writes and returns only through leases it holds,
and writes within their segments. -/
def Call.Allowed (ls : List Lease) : Call → Prop
  | .write l offset data => l ∈ ls ∧ offset + data.length ≤ l.segmentSize
  | .giveBack l => l ∈ ls
  | _ => True

/-- A run of calls a client holding `ls` can make on `p`. -/
def Conforms (p : Pool) (ls : List Lease) : List Call → Prop
  | [] => True
  | c :: cs => c.Allowed ls ∧ Conforms (p.call c).2 (c.holding ls (p.call c).1) cs

/-- The leases a client holding `ls` holds after a run of calls on `p`. -/
def held (p : Pool) (ls : List Lease) : List Call → List Lease
  | [] => ls
  | c :: cs => held (p.call c).2 (c.holding ls (p.call c).1) cs

/-- Every call a client may make keeps the pool invariant for the leases it holds next. -/
theorem Sound.call (h : p.Sound ls) {c : Call} (hc : c.Allowed ls) :
    (p.call c).2.Sound (c.holding ls (p.call c).1) := by
  cases c with
  | rent n =>
    -- the leases held next depend on whether the rent handed one out
    rcases hr : p.rent n with ⟨r, p'⟩
    cases r with
    | ok l => simpa [Pool.call, hr, Except.map, Call.holding] using (h.rent_ok hr).1
    | error e => simpa [Pool.call, hr, Except.map, Call.holding] using (h.rent_error hr).1
  | write l offset data => exact h.writeLease hc.1 hc.2
  | giveBack l =>
    -- the invariant does not depend on the order of the leases, so `l` may come first
    exact (h.perm (List.perm_cons_erase hc)).giveBack
  | trim => exact h.trim
  | dispose => exact h.dispose

theorem Sound.run (h : p.Sound ls) (hc : Conforms p ls cs) : (p.run cs).2.Sound (held p ls cs) := by
  induction cs generalizing p ls with
  | nil => exact h
  | cons c cs ih => exact ih (h.call hc.1) hc.2

/-- A lease held while the pool is live names a slab of its bucket that lends it. -/
theorem Sound.lends (h : p.Sound ls) (hlive : p.disposed = false) {l : Lease} (hl : l ∈ ls) :
    ∃ s ∈ p.bucket l.segmentSize, s.Lends l := by
  obtain ⟨s, hs, hlent⟩ := h.outstanding.from_slab hlive l hl
  exact ⟨s, List.mem_filter.mpr ⟨hs, decide_eq_true hlent.size_eq⟩,
    hlent.lends (h.directory.slabs_sound s hs)⟩

/-! ## Disposal -/

theorem Directory.rent_disposed (hd : p.Directory) (n : Nat) : (p.rent n).2.disposed = p.disposed := by
  rcases refused_or_live p n with hr | ⟨hn, hlive⟩
  · rw [rent_of_refused hr]
  · rcases hd.rent_eq hn hlive with ⟨_, _, _, _, _, -, -, -, -, heq⟩ | ⟨_, _, _, -, -, -, heq⟩ |
      ⟨_, -, -, heq⟩ <;> rw [heq] <;> rfl

theorem giveBack_disposed (p : Pool) (l : Lease) : (p.giveBack l).2.disposed = p.disposed := by
  rcases giveBack_cases p l with ⟨-, e, heq⟩ | ⟨-, pre, s, s', post, -, -, -, -, heq⟩ | ⟨-, heq⟩ <;>
    rw [heq] <;> rfl

theorem trim_disposed_eq (p : Pool) : p.trim.2.disposed = p.disposed := by
  cases hd : p.disposed
  · simp [Pool.trim, hd, recordLayout]
  · rw [trim_of_disposed hd, hd]

/-- Only a dispose disposes a live pool. -/
theorem Directory.eq_dispose_of_disposed (hd : p.Directory) (hlive : p.disposed = false) {c : Call}
    (h : (p.call c).2.disposed = true) : c = .dispose := by
  cases c with
  | rent n =>
    rw [Pool.call, hd.rent_disposed, hlive] at h
    cases h
  | write l offset data =>
    rw [Pool.call, show (p.writeLease l offset data).disposed = p.disposed from rfl, hlive] at h
    cases h
  | giveBack l =>
    rw [Pool.call, giveBack_disposed, hlive] at h
    cases h
  | trim =>
    rw [Pool.call, trim_disposed_eq, hlive] at h
    cases h
  | dispose => rfl

/-- A disposed pool hands out no lease, so a client holds no lease after a call that it did not
hold before. -/
theorem mem_of_mem_holding (hd : p.disposed = true) {c : Call} {l : Lease}
    (hl : l ∈ c.holding ls (p.call c).1) : l ∈ ls := by
  cases c with
  | rent n =>
    -- every rent on a disposed pool is refused
    obtain ⟨e, he⟩ : ∃ e, (p.rent n).1 = .error e := by
      by_cases hn : n = 0
      · exact ⟨_, by rw [hn, rent_zero]⟩
      · exact ⟨_, by rw [rent_of_disposed hd (Nat.pos_of_ne_zero hn)]⟩
    simpa [Pool.call, he, Except.map, Call.holding] using hl
  | write l' offset data => exact hl
  | giveBack l' => exact List.mem_of_mem_erase hl
  | trim => exact hl
  | dispose => exact hl

/-- Where the slab named by lease `l` stands after a run with events `evs` that ends at `q`. While
`q` is live, it is a slab of the lease's bucket that lends it. Once `q` is disposed, it was such a
slab of the live pool that a dispose of the run emptied. -/
def HandleResolves (evs : List Event) (q : Pool) (l : Lease) : Prop :=
  (q.disposed = false ∧ ∃ s ∈ q.bucket l.segmentSize, s.Lends l) ∨
  (q.disposed = true ∧ ∃ e ∈ evs, e.call = .dispose ∧ e.before.disposed = false ∧
    ∃ s ∈ e.before.bucket l.segmentSize, s.Lends l)

/-- Every lease a client holds at the end of a run resolves, unless the pool was disposed from the
start and the lease was held before the run. The induction is on the run. When the rest of the run
shows the lease held by a disposed pool, either the pool was disposed already, or this call was the
dispose, made while the lease was held by the live pool. -/
theorem Sound.resolves (h : p.Sound ls) (hc : Conforms p ls cs) {l : Lease}
    (hl : l ∈ held p ls cs) :
    (p.disposed = true ∧ l ∈ ls) ∨ HandleResolves (p.run cs).1 (p.run cs).2 l := by
  induction cs generalizing p ls with
  | nil =>
    cases hd : p.disposed
    · exact .inr (.inl ⟨hd, h.lends hd hl⟩)
    · exact .inl ⟨rfl, hl⟩
  | cons c cs ih =>
    rcases ih (h.call hc.1) hc.2 hl with ⟨hd', hl'⟩ | hres
    · cases hd : p.disposed
      · -- the call disposed the live pool, so it was the dispose, which keeps the leases held
        obtain rfl := h.directory.eq_dispose_of_disposed hd hd'
        exact .inr (.inr ⟨disposed_run hd' cs, ⟨p, .dispose, (p.call .dispose).1⟩,
          List.mem_cons_self, rfl, hd, h.lends hd hl'⟩)
      · exact .inl ⟨rfl, mem_of_mem_holding hd hl'⟩
    · rcases hres with ⟨hq, hs⟩ | ⟨hq, e, he, hrest⟩
      · exact .inr (.inl ⟨hq, hs⟩)
      · exact .inr (.inr ⟨hq, e, List.mem_cons_of_mem _ he, hrest⟩)

end Pool

/-- Through every run of calls a client makes on a new pool, writing and returning only through
the leases it holds, the directory stays in order bucket by bucket, and every lease the client
still holds names a slab of its bucket that lends it, or, once the pool is disposed, named one of
the pool the dispose emptied. -/
theorem directory_invariant_holds (config : PoolConfig) (capacity : Nat → Nat) (cs : List Pool.Call)
    (hc : Pool.Conforms (Pool.withStrategy config capacity) [] cs) :
    ((Pool.withStrategy config capacity).run cs).2.Buckets ∧
    ∀ l ∈ Pool.held (Pool.withStrategy config capacity) [] cs,
      Pool.HandleResolves ((Pool.withStrategy config capacity).run cs).1
        ((Pool.withStrategy config capacity).run cs).2 l := by
  have h₀ := Pool.sound_withStrategy config capacity
  refine ⟨?_, fun l hl => ?_⟩
  · -- the buckets are in order after any run, conforming or not
    have ho : (Pool.withStrategy config capacity).InCreationOrder := by
      simp [Pool.InCreationOrder, Pool.withStrategy]
    exact (h₀.directory.run cs).buckets (ho.run h₀.directory cs)
  · rcases h₀.resolves hc hl with ⟨-, hnil⟩ | hres
    · cases hnil
    · exact hres

/-- A rent, the return of its lease, a second rent and a dispose, on a new pool of four-segment
slabs, are a run a client can make. -/
theorem directory_invariant_after_return_and_dispose :
    Pool.Conforms (Pool.withStrategy PoolConfig.default fun _ => 4) []
      [.rent 16, .giveBack ⟨16, 0, 0, 0, 0⟩, .rent 16, .dispose] ∧
    ((Pool.withStrategy PoolConfig.default fun _ => 4).run
      [.rent 16, .giveBack ⟨16, 0, 0, 0, 0⟩, .rent 16, .dispose]).2.Buckets ∧
    ∀ l ∈ Pool.held (Pool.withStrategy PoolConfig.default fun _ => 4) []
        [.rent 16, .giveBack ⟨16, 0, 0, 0, 0⟩, .rent 16, .dispose],
      Pool.HandleResolves ((Pool.withStrategy PoolConfig.default fun _ => 4).run
          [.rent 16, .giveBack ⟨16, 0, 0, 0, 0⟩, .rent 16, .dispose]).1
        ((Pool.withStrategy PoolConfig.default fun _ => 4).run
          [.rent 16, .giveBack ⟨16, 0, 0, 0, 0⟩, .rent 16, .dispose]).2 l := by
  -- the first rent makes slab `0` and hands out its segment `0`, which the return gives back
  have hrent :
      ((Pool.withStrategy PoolConfig.default fun _ => 4).rent 16).1 = .ok ⟨16, 0, 0, 0, 0⟩ :=
    Pool.rent_withStrategy _ _ (by decide) (by decide)
  have hc : Pool.Conforms (Pool.withStrategy PoolConfig.default fun _ => 4) []
      [.rent 16, .giveBack ⟨16, 0, 0, 0, 0⟩, .rent 16, .dispose] := by
    refine ⟨trivial, ?_, trivial, trivial, trivial⟩
    show (⟨16, 0, 0, 0, 0⟩ : Lease) ∈ Pool.Call.holding (.rent 16) []
      ((Pool.withStrategy PoolConfig.default fun _ => 4).call (.rent 16)).1
    simp only [Pool.call, hrent]
    simp [Except.map, Pool.Call.holding]
  exact ⟨hc, directory_invariant_holds _ _ _ hc⟩

end KeyCustody
