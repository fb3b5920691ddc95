import KeyCustody.Proofs.SessionInvariant

/-!
# Every buffer is released once

A buffer rented for sensitive memory or a key is zeroed and given back to the pool exactly once:
when its holder is first disposed, or else when the holder is dropped. `Pool.GaveBack p p' ls`
says what giving back the leases `ls` does to the pool. None of them counts as active any more,
each counts once as a return or a failed return, and each reads as zeros. While the pool is live,
each segment is free again.

In a session in order every buffer out of the pool is held by one object, once, and on a live
pool every rented segment is held. Disposing memory or a key gives back what it holds and leaves
it holding nothing, so disposing it again changes nothing at all. Dropping an object gives back
what it holds. The empty value holds nothing, stays as it is when disposed and stays readable.
Memory refuses to be read or written exactly when it is disposed. And once no object holds a
buffer of a live pool, the pool counts none as rented and has had every rent returned
(`Session.Reachable.releases_once`).
-/

namespace KeyCustody

namespace Pool

variable {p : Pool} {ls : List Lease}

/-- The pool `p'` has taken back the leases `ls` out of `p`, once each: they no longer count as
active, each counts once as a return or a failed return, nothing is rented, and their segments
read as zeros and, while the pool is live, are free again. -/
structure GaveBack (p p' : Pool) (ls : List Lease) : Prop where
  active : p'.statistics.activeRentals + ls.length = p.statistics.activeRentals
  counted : p'.metrics.returns + p'.metrics.releaseFailures =
    p.metrics.returns + p.metrics.releaseFailures + ls.length
  rents : p'.metrics.rents = p.metrics.rents
  zeroed : ∀ l ∈ ls, p'.read l = List.replicate l.segmentSize 0
  freed : p.disposed = false → ∀ l ∈ ls, ∃ s ∈ p'.slabs, s.id = l.slab ∧ l.index ∈ s.free

theorem gaveBack_nil (p : Pool) : p.GaveBack p [] :=
  ⟨rfl, rfl, rfl, by simp, by simp⟩

theorem read_zeroLease_self {l : Lease} (hin : l.offset + l.segmentSize ≤ (p.arenas l.arena).length) :
    (p.zeroLease l).read l = List.replicate l.segmentSize 0 := by
  apply Arena.read_eq_replicate (by rw [length_zeroLease_arenas]; exact hin)
  intro j b h1 h2 hb
  rw [getElem?_zeroLease_arenas, if_pos ⟨rfl, h1, h2⟩] at hb
  obtain ⟨a, -, rfl⟩ := Option.map_eq_some_iff.mp hb
  rfl

theorem Sound.gaveBack_giveBack {l : Lease} (h : p.Sound (l :: ls)) :
    p.GaveBack (p.giveBack l).2 [l] := by
  have hact := h.counted.active
  have hzero := read_zeroLease_self (h.outstanding.in_arena l List.mem_cons_self)
  simp only [List.length_cons] at hact
  -- either way one active rental ends and the segment is zeroed
  have hactive : p.layout.active - 1 + 1 = p.layout.active := by omega
  cases hlive : p.disposed
  · obtain ⟨pre, s, post, hsplit, hlent, -, -, heq⟩ := h.giveBack_live hlive
    rw [heq]
    refine ⟨hactive, ?_, rfl, fun l' hl' => ?_, fun _ l' hl' => ?_⟩
    · show p.metrics.returns + 1 + p.metrics.releaseFailures = _
      simp only [List.length_singleton]
      omega
    · rw [List.mem_singleton.mp hl']
      exact hzero
    · -- the segment is back on top of its slab's free stack
      rw [List.mem_singleton.mp hl']
      exact ⟨{ s with free := l.index :: s.free, rented := s.rented.set l.index false },
        List.mem_append_right pre List.mem_cons_self, hlent.id_eq, List.mem_cons_self⟩
  · rw [giveBack_of_disposed hlive]
    refine ⟨hactive, ?_, rfl, fun l' hl' => ?_, fun h' => by simp [hlive] at h'⟩
    · show p.metrics.returns + (p.metrics.releaseFailures + 1) = _
      simp only [List.length_singleton]
      omega
    · rw [List.mem_singleton.mp hl']
      exact hzero

/-- Disposing memory gives back the leases it holds. -/
theorem Sound.gaveBack_dispose_memory {m : Memory} (h : p.Sound (m.leases ++ ls)) :
    p.GaveBack (m.dispose p).2 m.leases := by
  unfold Memory.dispose
  cases hb : m.backing with
  | owned o =>
    rw [Memory.leases, hb] at h ⊢
    cases o with
    | segment l => exact h.gaveBack_giveBack
    | heap _ => exact gaveBack_nil p
    | plain _ => exact gaveBack_nil p
  | empty => simpa [Memory.leases, hb] using gaveBack_nil p
  | disposed => simpa [Memory.leases, hb] using gaveBack_nil p

/-- Dropping an object gives back the leases it holds. -/
theorem Sound.gaveBack_dropItem {i : Item} (h : p.Sound (i.leases ++ ls)) :
    p.GaveBack (i.drop p) i.leases := by
  cases i with
  | lease l => exact h.gaveBack_giveBack
  | memory k m => exact h.gaveBack_dispose_memory
  | privateKey k => exact Sound.gaveBack_dispose_memory (m := k.memory.memory) h
  | publicKey k => exact Sound.gaveBack_dispose_memory (m := k.memory.memory) h

/-- The leases out of a pool in order are distinct. -/
theorem Sound.nodup (h : p.Sound ls) : ls.Nodup := by
  have hne : ∀ {a b : Lease}, a ∈ ls → b ∈ ls → a.Apart b → a ≠ b := by
    rintro a b ha - hap rfl
    exact Lease.not_apart_self (h.outstanding.size_pos a ha) hap
  exact h.outstanding.apart.imp_of_mem hne

end Pool

namespace Memory

/-- Disposing twice is disposing once. -/
theorem dispose_dispose (m : Memory) (p : Pool) :
    (m.dispose p).1.dispose (m.dispose p).2 = m.dispose p := by
  unfold dispose
  cases hb : m.backing <;> simp [hb]

@[simp] theorem dispose_empty (t : Tag) (p : Pool) : (empty t).dispose p = (empty t, p) := rfl

theorem bytes?_eq_error_iff (m : Memory) (p : Pool) (e : MemoryError) :
    m.bytes? p = .error e ↔ m.isDisposed = true ∧ e = .disposed .memory := by
  unfold bytes? isDisposed
  cases m.backing <;> simp [eq_comm]

theorem write_eq_error_iff (m : Memory) (data : List UInt8) (offset : Nat) (p : Pool)
    (e : MemoryError) :
    m.write data offset p = .error e ↔ m.isDisposed = true ∧ e = .disposed .memory := by
  unfold write isDisposed
  cases m.backing <;> simp [eq_comm]

end Memory

namespace Item

/-- What a dispose step does to an object: memory and keys are disposed, giving their buffers
back, and a lease is left alone. -/
def dispose (i : Item) (p : Pool) : Item × Pool :=
  match i with
  | lease l => (lease l, p)
  | memory k m => (memory k (m.dispose p).1, (m.dispose p).2)
  | privateKey key => (privateKey (key.dispose p).1, (key.dispose p).2)
  | publicKey key => (publicKey (key.dispose p).1, (key.dispose p).2)

/-- Disposing an object that is not a lease drops it and leaves it holding nothing. -/
theorem dispose_of_ne_lease {i : Item} (hi : ∀ l, i ≠ lease l) (p : Pool) :
    (i.dispose p).2 = i.drop p ∧ (i.dispose p).1.leases = [] ∧ ∀ l, (i.dispose p).1 ≠ lease l := by
  cases i with
  | lease l => exact absurd rfl (hi l)
  | memory k m => exact ⟨rfl, Memory.leases_dispose m p, fun _ => Item.noConfusion⟩
  | privateKey k => exact ⟨rfl, PrivateKey.leases_dispose k p, fun _ => Item.noConfusion⟩
  | publicKey k => exact ⟨rfl, PublicKey.leases_dispose k p, fun _ => Item.noConfusion⟩

theorem dispose_dispose (i : Item) (p : Pool) : (i.dispose p).1.dispose (i.dispose p).2 = i.dispose p := by
  cases i with
  | lease l => rfl
  | memory k m => simp only [dispose, Memory.dispose_dispose]
  | privateKey k => simp only [dispose, PrivateKey.dispose, Memory.dispose_dispose]
  | publicKey k => simp only [dispose, PublicKey.dispose, Memory.dispose_dispose]

end Item

namespace Session

variable {s : Session} {name : String} {i : Item}

theorem find?_set_of_find? {j : Item} (hf : s.find? name = some j) (i : Item) :
    (s.set name i).find? name = some i := by
  unfold find? at hf ⊢
  obtain ⟨e, he, rfl⟩ := Option.map_eq_some_iff.mp hf
  have hname : e.1 = name := by simpa using List.find?_some he
  rw [set, List.find?_map]
  have hp : ((fun e : String × Item => decide (e.1 = name)) ∘
      fun x : String × Item => if x.1 = name then (x.1, i) else (x.1, x.2)) =
      fun e => decide (e.1 = name) := by
    funext x
    by_cases hx : x.1 = name <;> simp [hx]
  rw [hp, he]
  simp [hname]

/-- Setting the object under a name a second time changes nothing. -/
theorem set_set (s : Session) (name : String) (i : Item) (q : Pool) :
    ({ s.set name i with pool := q } : Session).set name i = { s.set name i with pool := q } := by
  simp only [set, List.map_map]
  congr 1
  apply List.map_congr_left
  intro x _
  by_cases hx : x.1 = name <;> simp [hx]

/-- Disposing memory or a key stores it disposed, over the pool its buffers went back to. -/
theorem step_dispose_of_ne_lease (hf : s.find? name = some i) (hi : ∀ l, i ≠ .lease l) :
    (s.step (.dispose name)).2 = { s.set name (i.dispose s.pool).1 with pool := (i.dispose s.pool).2 } := by
  delta Session.step
  dsimp only
  rw [hf]
  cases i with
  | lease l => exact absurd rfl (hi l)
  | memory k m => rfl
  | privateKey k => rfl
  | publicKey k => rfl

/-- Disposing a name that holds a lease, or nothing, leaves the session as it is. -/
theorem step_dispose_of_lease (h : ∀ i, s.find? name = some i → ∃ l, i = .lease l) :
    (s.step (.dispose name)).2 = s := by
  delta Session.step
  dsimp only
  cases hf : s.find? name with
  | none => simp only [missing_session]
  | some i =>
    obtain ⟨l, rfl⟩ := h i hf
    simp only [missing_session]

theorem step_drop_of_find? (hf : s.find? name = some i) :
    (s.step (.drop name)).2 = { s.remove name with pool := i.drop s.pool } := by
  delta Session.step
  dsimp only
  rw [hf]

/-- Disposing the same name twice is disposing it once. -/
theorem step_dispose_twice (s : Session) (name : String) :
    ((s.step (.dispose name)).2.step (.dispose name)).2 = (s.step (.dispose name)).2 := by
  by_cases hd : ∃ i, s.find? name = some i ∧ ∀ l, i ≠ .lease l
  · obtain ⟨i, hf, hi⟩ := hd
    obtain ⟨-, -, hi'⟩ := Item.dispose_of_ne_lease hi s.pool
    have hf' : (s.step (.dispose name)).2.find? name = some (i.dispose s.pool).1 := by
      rw [step_dispose_of_ne_lease hf hi]
      exact find?_set_of_find? hf _
    rw [step_dispose_of_ne_lease hf' hi', step_dispose_of_ne_lease hf hi]
    simp only [Item.dispose_dispose, set_set]
  · -- a lease, or nothing, under the name: neither dispose changes the session
    have h : ∀ i, s.find? name = some i → ∃ l, i = .lease l := by
      intro i hf
      by_contra hne
      exact hd ⟨i, hf, fun l he => hne ⟨l, he⟩⟩
    rw [step_dispose_of_lease h, step_dispose_of_lease h]

/-- With distinct names, setting an object to what it already is changes nothing. -/
theorem set_of_find? (hd : s.NamesDistinct) (hf : s.find? name = some i) :
    { s.set name i with pool := s.pool } = s := by
  obtain ⟨pre, post, hsplit, hpre, hpost⟩ := find?_split hd hf
  have hitems : (s.set name i).items = s.items := by
    rw [set_items_of_split hsplit hpre hpost i, hsplit]
  show { s with items := (s.set name i).items } = s
  rw [hitems]

/-- What a session promises about the buffers its objects hold. The pool counts out exactly the
buffers the objects hold, each held by one object, once, and on a live pool every rented segment
is held: no step, failed or not, loses a buffer. Disposing memory or a
key gives back what it holds and leaves it holding nothing, and disposing it again changes
nothing; dropping an object gives back what it holds. The empty value is never given back and
stays readable. Memory refuses reads and writes exactly when disposed. With no buffer held on a
live pool, none counts as rented and every rent has come back. -/
structure ReleasesOnce (s : Session) : Prop where
  held : s.pool.statistics.activeRentals = s.leases.length
  held_once : s.leases.Nodup
  held_all : s.pool.disposed = false → ∀ slab ∈ s.pool.slabs, ∀ i < slab.segmentCount,
    i ∉ slab.free → ∃ l ∈ s.leases, l.slab = slab.id ∧ l.index = i
  dispose : ∀ name i, s.find? name = some i → (∀ l, i ≠ .lease l) →
    s.pool.GaveBack (s.step (.dispose name)).2.pool i.leases ∧
    s.leases.Perm (i.leases ++ (s.step (.dispose name)).2.leases) ∧
    ∃ i', (s.step (.dispose name)).2.find? name = some i' ∧ i'.leases = []
  dispose_twice : ∀ name,
    ((s.step (.dispose name)).2.step (.dispose name)).2 = (s.step (.dispose name)).2
  drop : ∀ name i, s.find? name = some i →
    s.pool.GaveBack (s.step (.drop name)).2.pool i.leases ∧
    s.leases.Perm (i.leases ++ (s.step (.drop name)).2.leases) ∧
    (s.step (.drop name)).2.find? name = none
  empty_kept : ∀ name k t, s.find? name = some (.memory k (Memory.empty t)) →
    (s.step (.dispose name)).2 = s ∧ (Memory.empty t).bytes? s.pool = .ok []
  refused : ∀ name k m, s.find? name = some (.memory k m) →
    (∀ e, m.bytes? s.pool = .error e ↔ m.isDisposed = true ∧ e = .disposed .memory) ∧
    ∀ data offset e,
      m.write data offset s.pool = .error e ↔ m.isDisposed = true ∧ e = .disposed .memory
  all_returned : s.pool.disposed = false → s.leases = [] →
    s.pool.statistics.activeRentals = 0 ∧ s.pool.statistics.rents = s.pool.statistics.returns

/-- Taking an object out of a session in order leaves its leases and the others' out of the pool. -/
theorem Sound.pool_take (h : s.Sound) (hf : s.find? name = some i) :
    s.pool.Sound (i.leases ++ (s.remove name).leases) ∧
      s.leases.Perm (i.leases ++ (s.remove name).leases) := by
  have ht := (h.take hf).pool
  rw [List.append_nil] at ht
  obtain ⟨pre, post, hsplit, hpre, hpost⟩ := find?_split h.distinct hf
  exact ⟨ht, leases_perm_of_split hsplit hpre hpost⟩

theorem Sound.releasesOnce (h : s.Sound) : s.ReleasesOnce := by
  have hp : s.pool.Sound s.leases := h.pool
  refine ⟨hp.counted.active, hp.nodup, ?_, ?_, step_dispose_twice s, ?_, ?_, ?_, ?_⟩
  · intro hlive slab hs i hi hfree
    obtain ⟨l, hl, hlent, hidx⟩ := hp.outstanding.to_lease hlive slab hs i hi hfree
    exact ⟨l, hl, hlent.id_eq.symm, hidx⟩
  · -- the disposed object is stored back holding nothing, over the pool it gave back to
    intro name i hf hi
    obtain ⟨hdrop, hnil, -⟩ := Item.dispose_of_ne_lease hi s.pool
    obtain ⟨ht, hperm⟩ := h.pool_take hf
    obtain ⟨pre, post, hsplit, hpre, hpost⟩ := find?_split h.distinct hf
    have hset := set_leases_perm_of_split hsplit hpre hpost (i.dispose s.pool).1
    rw [hnil, List.nil_append] at hset
    rw [step_dispose_of_ne_lease hf hi]
    refine ⟨hdrop ▸ ht.gaveBack_dropItem, hperm.trans (hset.symm.append_left _),
      _, find?_set_of_find? hf _, hnil⟩
  · intro name i hf
    obtain ⟨ht, hperm⟩ := h.pool_take hf
    obtain ⟨pre, post, hsplit, hpre, hpost⟩ := find?_split h.distinct hf
    rw [step_drop_of_find? hf]
    exact ⟨ht.gaveBack_dropItem, hperm, find?_remove_self hsplit hpre hpost⟩
  · intro name k t hf
    refine ⟨?_, rfl⟩
    rw [step_dispose_of_ne_lease hf (fun _ => Item.noConfusion)]
    exact set_of_find? h.distinct hf
  · intro name k m _
    exact ⟨Memory.bytes?_eq_error_iff m s.pool, fun data offset =>
      Memory.write_eq_error_iff m data offset s.pool⟩
  · intro hlive hnil
    have hc := hp.counted
    rw [hnil] at hc
    have hfail := hc.failures hlive
    refine ⟨hc.active, ?_⟩
    show s.pool.metrics.rents = s.pool.metrics.returns
    have hbal := hc.balance
    rw [List.length_nil] at hbal
    omega

/-- In every session reached through the public steps, every buffer is given back once: on the
first dispose of its holder, or else when the holder is dropped. -/
theorem Reachable.releases_once (h : s.Reachable) : s.ReleasesOnce :=
  h.sound.releasesOnce

theorem releases_once_after_rent :
    ((Session.ofPool (Pool.withStrategy PoolConfig.default (Strategy.constant 4).segments)).step
      (.rent 16 "a")).2.Reachable ∧
    ((Session.ofPool (Pool.withStrategy PoolConfig.default (Strategy.constant 4).segments)).step
      (.rent 16 "a")).2.ReleasesOnce :=
  ⟨reachable_rent_after_start, Reachable.releases_once reachable_rent_after_start⟩

end Session

end KeyCustody
