import KeyCustody.Proofs.SessionInvariant

/-!
# Leases are isolated

The leases a session holds behave as separate byte strings. Any two of them share no byte, each
lies at the offset of its index inside its arena, and every byte of every arena outside them is
zero.

Seen by name, the lease objects of a session are buffers (`Session.buffers`), and every step on
the pool changes them as `Step.buffersAfter` says: a rent that succeeds stores a buffer of zeros of
the size asked, a write that succeeds overwrites its target, a release or a drop removes its
object, and nothing else changes any buffer — not a write through another lease, not a return,
not trimming, disposing or reading the statistics. So a live lease reads what was last written
through it, or zeros.
-/

namespace KeyCustody

open Pool

namespace Item

/-- What an object reads as a lease: a lease object its segment's bytes, any other object
nothing. -/
def leaseBytes? : Item → Pool → Option (List UInt8)
  | lease l, p => some (p.read l)
  | _, _ => none

theorem leaseBytes?_congr {i : Item} {p p' : Pool} (h : ∀ l ∈ i.leases, p'.read l = p.read l) :
    i.leaseBytes? p' = i.leaseBytes? p := by
  cases i with
  | lease l => simp [leaseBytes?, h l (by simp)]
  | memory _ _ => rfl
  | privateKey _ => rfl
  | publicKey _ => rfl

end Item

/-- A write into memory leaves the bytes of every other lease out as they were. -/
theorem Pool.read_writeMemory {p p' : Pool} {ls : List Lease} {m m' : Memory} {data : List UInt8}
    {offset : Nat} (h : p.Sound (m.leases ++ ls)) (hw : m.write data offset p = .ok (some (m', p')))
    {l : Lease} (hl : l ∈ ls) : p'.read l = p.read l := by
  unfold Memory.write at hw
  cases hb : m.backing with
  | owned o =>
    rw [hb] at hw
    rw [Memory.leases, hb] at h
    cases o with
    | segment l' =>
      simp only [Owner.write] at hw
      split at hw
      · rename_i hfit
        cases hw
        have hap : l.Apart l' := ((List.pairwise_cons.mp h.outstanding.apart).1 l hl).symm
        exact read_writeLease_of_apart hap hfit
      · cases hw
    | heap b =>
      simp only [Owner.write] at hw
      cases hov : overwrite b data offset with
      | none => simp [hov] at hw
      | some b' =>
        simp only [hov, Option.map_some, Except.ok.injEq, Option.some.injEq, Prod.mk.injEq] at hw
        obtain ⟨-, rfl⟩ := hw
        rfl
    | plain b =>
      simp only [Owner.write] at hw
      cases hov : overwrite b data offset with
      | none => simp [hov] at hw
      | some b' =>
        simp only [hov, Option.map_some, Except.ok.injEq, Option.some.injEq, Prod.mk.injEq] at hw
        obtain ⟨-, rfl⟩ := hw
        rfl
  | empty =>
    rw [hb] at hw
    obtain ⟨b', -, hw⟩ := Option.map_eq_some_iff.mp (Except.ok.inj hw)
    cases hw
    rfl
  | disposed =>
    rw [hb] at hw
    cases hw

namespace Step

/-- The steps on the pool and its leases alone. -/
inductive OnPool : Step → Prop
  | rent (size : Nat) (name : String) : OnPool (rent size name)
  | write (target : String) (data : List UInt8) (offset : Nat) : OnPool (write target data offset)
  | release (name : String) : OnPool (release name)
  | drop (name : String) : OnPool (drop name)
  | trim : OnPool trim
  | disposePool : OnPool disposePool
  | isPoolDisposed : OnPool isPoolDisposed
  | statistics : OnPool statistics
  | metrics : OnPool metrics
  | describePool : OnPool describePool

/-- What a step on the pool does to the lease buffers by name, given how it ended: a rent that
succeeds makes a zeroed buffer of the size asked, a write that succeeds overwrites its target, a
release or a drop removes its object, and nothing else changes them. -/
def buffersAfter (st : Step) (r : Except StepError Reply) (b : String → Option (List UInt8)) :
    String → Option (List UInt8) :=
  match st, r with
  | rent size name, .ok _ => Function.update b name (some (List.replicate size 0))
  | write target data offset, .ok _ =>
    Function.update b target ((b target).bind fun old => overwrite old data offset)
  | release name, _ => Function.update b name none
  | drop name, _ => Function.update b name none
  | _, _ => b

end Step

namespace Session

variable {s : Session} {name : String} {i : Item}

/-- What the lease under each name reads; nothing for a name without a lease. -/
def buffers (s : Session) (name : String) : Option (List UInt8) :=
  (s.find? name).bind fun i => i.leaseBytes? s.pool

@[simp] theorem find?_withPool (s : Session) (p : Pool) (name : String) :
    ({ s with pool := p } : Session).find? name = s.find? name := rfl

/-- The buffers depend on the objects and on what their leases read. -/
theorem buffers_congr {t : Session} (hitems : t.items = s.items)
    (hread : ∀ l ∈ s.leases, t.pool.read l = s.pool.read l) : t.buffers = s.buffers := by
  funext name
  have hf : t.find? name = s.find? name := by
    unfold find?
    rw [hitems]
  unfold buffers
  rw [hf]
  cases hs : s.find? name with
  | none => rfl
  | some i => exact Item.leaseBytes?_congr fun l hl => hread l (mem_leases_of_find? hs hl)

/-- Removing an object and dropping it removes its buffer and changes no other. -/
theorem buffers_remove_drop (h : s.Sound) (hf : s.find? name = some i) :
    ({ s.remove name with pool := i.drop s.pool } : Session).buffers =
      Function.update s.buffers name none := by
  obtain ⟨pre, post, hsplit, hpre, hpost⟩ := find?_split h.distinct hf
  have hp := (h.take hf).pool
  rw [List.append_nil] at hp
  funext name'
  by_cases hn : name' = name
  · subst hn
    simp [buffers, find?_remove_self hsplit hpre hpost]
  · rw [Function.update_of_ne hn]
    simp only [buffers, find?_withPool, find?_remove_ne hsplit hpre hpost hn]
    cases hs : s.find? name' with
    | none => rfl
    | some j =>
      -- the object under another name holds leases of the rest of the session
      have hj : (s.remove name).find? name' = some j := by
        rw [find?_remove_ne hsplit hpre hpost hn, hs]
      exact Item.leaseBytes?_congr fun l hl => read_dropItem hp (mem_leases_of_find? hj hl)

/-- Storing an object held outside sets its buffer and changes no other, also when it replaces an
object under its name. -/
theorem buffers_put (h : s.Holding i.leases) :
    (s.put name i).buffers = Function.update s.buffers name (i.leaseBytes? s.pool) := by
  unfold Session.put
  cases hf : s.find? name with
  | none =>
    have hnone : s.items.find? (fun e => decide (e.1 = name)) = none :=
      Option.map_eq_none_iff.mp hf
    funext name'
    by_cases hn : name' = name
    · subst hn
      simp [buffers, find?, List.find?_append, hnone]
    · rw [Function.update_of_ne hn]
      simp [buffers, find?, List.find?_append, Ne.symm hn]
  | some old =>
    obtain ⟨pre, post, hsplit, hpre, hpost⟩ := find?_split h.distinct hf
    have hperm := leases_perm_of_split hsplit hpre hpost
    -- the object under the name is dropped while the new one is held outside
    have hp : s.pool.Sound (old.leases ++ (i.leases ++ (s.remove name).leases)) :=
      h.pool.perm (List.perm_iff_count.mpr fun a => by
        have := hperm.count_eq a
        simp only [List.count_append] at this ⊢
        omega)
    funext name'
    by_cases hn : name' = name
    · subst hn
      simp only [buffers, find?_withPool, find?_set_self hsplit hpre hpost, Option.bind_some,
        Function.update_self]
      exact Item.leaseBytes?_congr fun l hl => read_dropItem hp (List.mem_append_left _ hl)
    · rw [Function.update_of_ne hn]
      simp only [buffers, find?_withPool, find?_set_ne hsplit hpre hpost i hn]
      cases hs : s.find? name' with
      | none => rfl
      | some j =>
        have hj : (s.remove name).find? name' = some j := by
          rw [find?_remove_ne hsplit hpre hpost hn, hs]
        exact Item.leaseBytes?_congr fun l hl =>
          read_dropItem hp (List.mem_append_right _ (mem_leases_of_find? hj hl))

/-- A pool change that leaves every lease of the session reading as before changes no buffer. -/
theorem buffers_withPool {p : Pool} (hread : ∀ l ∈ s.leases, p.read l = s.pool.read l) :
    ({ s with pool := p } : Session).buffers = s.buffers :=
  buffers_congr rfl hread

theorem Sound.buffers_rent (h : s.Sound) (size : Nat) (name : String) :
    (s.step (.rent size name)).2.buffers =
      Step.buffersAfter (.rent size name) (s.step (.rent size name)).1 s.buffers := by
  delta Session.step
  simp only [keep]
  cases hr : s.pool.rent size with
  | mk r p =>
    have hframe : ({ s with pool := p } : Session).buffers = s.buffers :=
      buffers_withPool fun l hl => by
        have := read_rent h.pool size hl
        rwa [hr] at this
    cases r with
    | ok l =>
      -- the new lease reads as zeros and is stored under the name
      obtain ⟨hsound, -, hzero⟩ := Sound.rent_ok h.pool hr
      have hh : ({ s with pool := p } : Session).Holding (Item.lease l).leases :=
        ⟨h.distinct, hsound, h.registry, h.objects⟩
      simp only [Except.map, Step.buffersAfter]
      rw [buffers_put hh, hframe]
      simp [Item.leaseBytes?, hzero]
    | error e =>
      simp only [Except.map, Step.buffersAfter]
      exact hframe

theorem Sound.buffers_write (h : s.Sound) (target : String) (data : List UInt8) (offset : Nat) :
    (s.step (.write target data offset)).2.buffers =
      Step.buffersAfter (.write target data offset) (s.step (.write target data offset)).1
        s.buffers := by
  delta Session.step
  dsimp only
  cases hf : s.find? target with
  | none => rfl
  | some i =>
    have ht := h.take hf
    rw [List.append_nil] at ht
    -- every other lease of the session is apart from the target's
    have hother : ∀ l' ∈ (s.remove target).leases, ∀ l ∈ i.leases, l'.Apart l := by
      intro l' hl' l hl
      have hpair := ht.pool.outstanding.apart
      exact (List.pairwise_append.mp hpair).2.2 l hl l' hl' |>.symm
    cases i with
    | lease l =>
      dsimp only
      split
      · rename_i hfit
        simp only [Step.buffersAfter]
        obtain ⟨pre, post, hsplit, hpre, hpost⟩ := find?_split h.distinct hf
        funext name'
        by_cases hn : name' = target
        · subst hn
          simp only [buffers, find?_withPool, hf, Option.bind_some, Item.leaseBytes?,
            Function.update_self]
          exact (overwrite_read_writeLease h.pool (mem_leases_of_find? hf List.mem_cons_self)
            hfit).symm
        · rw [Function.update_of_ne hn]
          simp only [buffers, find?_withPool]
          cases hs : s.find? name' with
          | none => rfl
          | some j =>
            have hj : (s.remove target).find? name' = some j := by
              rw [find?_remove_ne hsplit hpre hpost hn, hs]
            exact Item.leaseBytes?_congr fun l' hl' => read_writeLease_of_apart
              (hother l' (mem_leases_of_find? hj hl') l List.mem_cons_self) hfit
      · rfl
    | memory k m =>
      cases k with
      | sensitive =>
        dsimp only
        split
        · rfl
        · rename_i m' p hw
          obtain ⟨pre, post, hsplit, hpre, hpost⟩ := find?_split h.distinct hf
          -- sensitive memory has no buffer, before the write or after it
          have hnone : s.buffers target = none := by simp [buffers, hf, Item.leaseBytes?]
          have hupd : Function.update s.buffers target none = s.buffers := by
            rw [← hnone]
            exact Function.update_eq_self target s.buffers
          simp only [Step.buffersAfter, hnone, Option.bind_none, hupd]
          funext name'
          by_cases hn : name' = target
          · subst hn
            rw [hnone]
            simp [buffers, find?_set_self hsplit hpre hpost, Item.leaseBytes?]
          · simp only [buffers, find?_withPool, find?_set_ne hsplit hpre hpost _ hn]
            cases hs : s.find? name' with
            | none => rfl
            | some j =>
              have hj : (s.remove target).find? name' = some j := by
                rw [find?_remove_ne hsplit hpre hpost hn, hs]
              exact Item.leaseBytes?_congr fun l' hl' =>
                read_writeMemory ht.pool hw (mem_leases_of_find? hj hl')
        · rfl
      | publicKey => rfl
      | privateKey => rfl
      | signature => rfl
    | privateKey _ => rfl
    | publicKey _ => rfl

/-- Releasing removes the object under the name, whatever it is and however the return ends. -/
theorem Sound.buffers_release (h : s.Sound) (name : String) :
    (s.step (.release name)).2.buffers =
      Step.buffersAfter (.release name) (s.step (.release name)).1 s.buffers := by
  simp only [Step.buffersAfter, Session.step, take?]
  cases hf : s.find? name with
  | none =>
    have hnone : s.buffers name = none := by simp [buffers, hf]
    rw [← hnone, Function.update_eq_self]
    rfl
  | some i =>
    simp only [Option.map_some]
    cases i with
    | lease l => exact buffers_remove_drop h hf
    | memory k m => exact buffers_remove_drop h hf
    | privateKey k => exact buffers_remove_drop h hf
    | publicKey k => exact buffers_remove_drop h hf

theorem Sound.buffers_drop (h : s.Sound) (name : String) :
    (s.step (.drop name)).2.buffers =
      Step.buffersAfter (.drop name) (s.step (.drop name)).1 s.buffers := by
  simp only [Step.buffersAfter, Session.step]
  cases hf : s.find? name with
  | none =>
    have hnone : s.buffers name = none := by simp [buffers, hf]
    rw [← hnone, Function.update_eq_self]
  | some i => exact buffers_remove_drop h hf

/-- Every step on the pool changes the lease buffers as `Step.buffersAfter` says. -/
theorem Sound.buffers_step (h : s.Sound) {st : Step} (hst : st.OnPool) :
    (s.step st).2.buffers = st.buffersAfter (s.step st).1 s.buffers := by
  cases hst with
  | rent size name => exact h.buffers_rent size name
  | write target data offset => exact h.buffers_write target data offset
  | release name => exact h.buffers_release name
  | drop name => exact h.buffers_drop name
  | trim =>
    delta Session.step
    simp only [Step.buffersAfter]
    cases hr : s.pool.trim with
    | mk r p =>
      exact buffers_withPool fun l hl => by
        have := read_trim h.pool hl
        rwa [hr] at this
  | disposePool => exact buffers_withPool fun l hl => read_dispose h.pool hl
  | isPoolDisposed => rfl
  | statistics => rfl
  | metrics => rfl
  | describePool => rfl

/-- The leases of a session are isolated: they share no byte, lie at the offsets of their indices
inside their arenas, leave every other byte of every arena zero, and every step on the pool changes
them only as `Step.buffersAfter` says. -/
structure Isolated (s : Session) : Prop where
  apart : s.leases.Pairwise Lease.Apart
  placed : ∀ l ∈ s.leases, l.offset = l.index * l.segmentSize ∧
    l.offset + l.segmentSize ≤ (s.pool.arenas l.arena).length
  residue : s.pool.Residue s.leases
  buffers_step : ∀ st, st.OnPool → (s.step st).2.buffers = st.buffersAfter (s.step st).1 s.buffers

theorem Sound.isolated (h : s.Sound) : s.Isolated where
  apart := h.pool.outstanding.apart
  placed l hl := ⟨h.pool.outstanding.offset_eq l hl, h.pool.outstanding.in_arena l hl⟩
  residue := h.pool.residue
  buffers_step _ hst := h.buffers_step hst

/-- In every session reached through the public steps, the leases held are isolated. -/
theorem Reachable.leases_isolated (hs : s.Reachable) : s.Isolated :=
  hs.sound.isolated

/-- A session that rented one lease from a pool of four-segment slabs is reachable, and its leases
are isolated. -/
theorem leases_isolated_after_rent :
    ((Session.ofPool (Pool.withStrategy PoolConfig.default (Strategy.constant 4).segments)).step
      (.rent 16 "a")).2.Reachable ∧
    ((Session.ofPool (Pool.withStrategy PoolConfig.default (Strategy.constant 4).segments)).step
      (.rent 16 "a")).2.Isolated :=
  ⟨reachable_rent_after_start, Reachable.leases_isolated reachable_rent_after_start⟩

end Session

end KeyCustody
