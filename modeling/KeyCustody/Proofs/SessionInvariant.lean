import KeyCustody.Proofs.SessionCustody

/-!
# Every step keeps the session in order

Each step keeps `Session.Sound`, one lemma per step: a step that makes an object stores what an
operation transferred to it, a step that consumes an object takes it out and hands it to an
operation that transfers it or drops it, and the remaining steps change the pool only through
writes within a lease, trimming and disposing. Installing a function table is the one step that
needs a premise: its signers must conform. So every session reached from a started one by such
steps is in order (`Session.Reachable.sound`).

The step lemmas open `Session.step` with `delta` rather than its equation lemmas: they are
elaborated side by side, and would otherwise all wait on one generation of those lemmas.
-/

namespace KeyCustody

open Pool

/-- A step whose function table, if it gives one, has conforming signers. -/
def Step.Conforming : Step → Prop
  | .install t => t.Conforming
  | _ => True

namespace Session

variable {s : Session}

theorem Sound.step_rent (h : s.Sound) (size : Nat) (name : String) :
    (s.step (.rent size name)).2.Sound := by
  delta Session.step
  dsimp only
  cases hr : s.pool.rent size with
  | mk r p =>
    exact Holding.keepMap .memory Item.lease h (transfers_rent size) (fun _ => rfl) hr
      fun _ _ => trivial

theorem Sound.step_write (h : s.Sound) (target : String) (data : List UInt8) (offset : Nat) :
    (s.step (.write target data offset)).2.Sound := by
  delta Session.step
  dsimp only
  cases hf : s.find? target with
  | none => exact h
  | some i =>
    cases i with
    | lease l =>
      dsimp only
      split
      · -- the write stays inside the lease's segment
        rename_i hfit
        exact ⟨h.distinct, h.pool.writeLease (mem_leases_of_find? hf List.mem_cons_self) hfit,
          h.registry, h.objects⟩
      · exact h
    | memory k m =>
      cases k with
      | sensitive =>
        dsimp only
        split
        · exact h
        · rename_i m' p hw
          have ht := h.take hf
          rw [List.append_nil] at ht
          obtain ⟨-, hp⟩ := Sound.writeMemory ht.pool hw
          exact h.set hf (by trivial) hp
        · exact h
      | publicKey => exact h
      | privateKey => exact h
      | signature => exact h
    | privateKey _ => exact h
    | publicKey _ => exact h

theorem Sound.step_release (h : s.Sound) (name : String) : (s.step (.release name)).2.Sound := by
  delta Session.step
  simp only [take?]
  cases hf : s.find? name with
  | none => exact h
  | some i =>
    have ht := h.take hf
    rw [List.append_nil] at ht
    simp only [Option.map_some]
    cases i with
    | lease l =>
      dsimp only
      exact ⟨ht.distinct, ht.pool.giveBack, ht.registry, ht.objects⟩
    | memory k m => exact ht.refuse _
    | privateKey k => exact ht.refuse _
    | publicKey k => exact ht.refuse _

theorem Sound.step_drop (h : s.Sound) (name : String) : (s.step (.drop name)).2.Sound := by
  delta Session.step
  dsimp only
  cases hf : s.find? name with
  | none => exact h
  | some i =>
    have ht := h.take hf
    rw [List.append_nil] at ht
    exact ⟨ht.distinct, ht.pool.dropItem, ht.registry, ht.objects⟩

theorem Sound.step_trim (h : s.Sound) : (s.step .trim).2.Sound := by
  delta Session.step
  dsimp only
  exact ⟨h.distinct, h.pool.trim, h.registry, h.objects⟩

theorem Sound.step_disposePool (h : s.Sound) : (s.step .disposePool).2.Sound :=
  ⟨h.distinct, h.pool.dispose, h.registry, h.objects⟩

theorem Sound.step_copy (h : s.Sound) (k : MemoryKind) (bytes : List UInt8) (t : Tag)
    (a : Allocator) (name : String) : (s.step (.copy k bytes t a name)).2.Sound := by
  delta Session.step
  simp only [asMemory]
  cases hr : k.copy a bytes t s.pool with
  | mk r p =>
    exact Holding.keepMap .memory (Item.memory k) h (k.transfers_copy a bytes t) (fun _ => rfl) hr
      fun _ _ => trivial

theorem Sound.step_own (h : s.Sound) (k : MemoryKind) (bytes : List UInt8) (t : Tag)
    (name : String) : (s.step (.own k bytes t name)).2.Sound := by
  delta Session.step
  simp only [asMemory]
  cases hr : k.own (.plain bytes) t s.pool with
  | mk r p =>
    exact Holding.keepMap .memory (Item.memory k) h (k.transfers_own (.plain bytes) t)
      (fun _ => rfl) hr fun _ _ => trivial

theorem Sound.step_ownLease (h : s.Sound) (kind lease : String) (t : Tag) (name : String) :
    (s.step (.ownLease kind lease t name)).2.Sound := by
  delta Session.step
  simp only [take?]
  cases hf : s.find? lease with
  | none => exact h
  | some i =>
    have ht := h.take hf
    rw [List.append_nil] at ht
    simp only [Option.map_some]
    cases i with
    | lease l =>
      dsimp only
      split
      · rename_i k _
        simp only [asMemory]
        cases hr : k.own (.segment l) t (s.remove lease).pool with
        | mk r p =>
          exact Holding.keepMap .memory (Item.memory k) ht (k.transfers_own (.segment l) t)
            (fun _ => rfl) hr fun _ _ => trivial
      · exact ht.refuse _
    | memory k m => exact ht.refuse _
    | privateKey k => exact ht.refuse _
    | publicKey k => exact ht.refuse _

theorem Sound.step_empty (h : s.Sound) (k : MemoryKind) (t : Tag) (name : String) :
    (s.step (.empty k t name)).2.Sound :=
  Holding.put_nil (i := .memory k (Memory.empty t)) h trivial

theorem Sound.step_wrap (h : s.Sound) (kind source name : String) :
    (s.step (.wrap kind source name)).2.Sound := by
  delta Session.step
  simp only [take?]
  cases hf : s.find? source with
  | none => exact h
  | some i =>
    have ht := h.take hf
    rw [List.append_nil] at ht
    simp only [Option.map_some]
    cases i with
    | memory k m =>
      cases k with
      | sensitive =>
        dsimp only
        split
        · rename_i k _
          simp only [asMemory]
          cases hr : k.wrap m (s.remove source).pool with
          | mk r p =>
            exact Holding.keepMap .memory (Item.memory k) ht (k.transfers_wrap m) (fun _ => rfl) hr
              fun _ _ => trivial
        · exact ht.refuse _
      | publicKey => exact ht.refuse _
      | privateKey => exact ht.refuse _
      | signature => exact ht.refuse _
    | lease l => exact ht.refuse _
    | privateKey k => exact ht.refuse _
    | publicKey k => exact ht.refuse _

theorem Sound.step_dispose (h : s.Sound) (name : String) : (s.step (.dispose name)).2.Sound := by
  delta Session.step
  dsimp only
  cases hf : s.find? name with
  | none => simp only [missing_session]; exact h
  | some i =>
    have ht := h.take hf
    rw [List.append_nil] at ht
    cases i with
    | memory k m =>
      dsimp only
      exact h.set hf (by trivial) (by simpa using ht.pool.dispose_memory)
    | privateKey key =>
      dsimp only
      have hc : key.signer.Conforming := h.conforming hf
      exact h.set hf (by simpa using hc) (by simpa using PrivateKey.Sound.dispose ht.pool)
    | publicKey key =>
      dsimp only
      exact h.set hf (by trivial) (by simpa using PublicKey.Sound.dispose ht.pool)
    | lease l => simp only [missing_session]; exact h

theorem Sound.step_install (h : s.Sound) {t : FunctionTable} (ht : t.Conforming) :
    (s.step (.install t)).2.Sound := by
  delta Session.step
  dsimp only
  split
  · rename_i r hr
    exact ⟨h.distinct, h.pool, Registry.conforming_install ht hr, h.objects⟩
  · exact h

theorem Sound.step_bind (h : s.Sound) (source id : String) (o : Option BindOptions)
    (name : String) : (s.step (.bind source id o name)).2.Sound := by
  delta Session.step
  simp only [take?]
  cases hf : s.find? source with
  | none => exact h
  | some i =>
    have ht := h.take hf
    rw [List.append_nil] at ht
    simp only [Option.map_some]
    cases i with
    | memory k m =>
      cases k with
      | privateKey =>
        dsimp only
        cases hb : bindPrivate (s.remove source).registry id ⟨m⟩ (o.getD {}) (s.remove source).pool with
        | mk r p =>
          have hh := ht.transfer (transfers_bindPrivate _ id ⟨m⟩ (o.getD {})) hb
          cases r with
          | ok key =>
            have hc := ht.registry.bindPrivate (by rw [hb])
            exact Holding.put_nil (i := .privateKey key) hh hc
          | error e => exact hh
      | publicKey =>
        dsimp only
        cases hb : bindPublic (s.remove source).registry id ⟨m⟩ (o.getD {}) (s.remove source).pool with
        | mk r p =>
          have hh := ht.transfer (transfers_bindPublic _ id ⟨m⟩ (o.getD {})) hb
          cases r with
          | ok key => exact Holding.put_nil (i := .publicKey key) hh trivial
          | error e => exact hh
      | sensitive => exact ht.refuse _
      | signature => exact ht.refuse _
    | lease l => exact ht.refuse _
    | privateKey k => exact ht.refuse _
    | publicKey k => exact ht.refuse _

theorem Sound.step_sign (h : s.Sound) (key : String) (data : List UInt8) (a : Allocator)
    (name : String) : (s.step (.sign key data a name)).2.Sound := by
  delta Session.step
  dsimp only
  cases hf : s.find? key with
  | none => simp only [missing_session]; exact h
  | some i =>
    cases i with
    | privateKey k =>
      dsimp only
      -- the key stays in the session; its signer conforms
      have hc : k.signer.Conforming := h.conforming hf
      cases hr : k.sign data a s.pool with
      | mk r p =>
        exact Holding.keepMap .key (fun sig => .memory .signature sig.memory) h
          (transfers_sign k hc data a) (fun _ => rfl) hr fun _ _ => trivial
    | lease l => simp only [missing_session]; exact h
    | memory k m => simp only [missing_session]; exact h
    | publicKey k => simp only [missing_session]; exact h

theorem Sound.step_load (h : s.Sound) (side : KeySide) (id : String) (a : Allocator)
    (name : String) : (s.step (.load side id a name)).2.Sound := by
  cases side with
  | privateKey =>
    delta Session.step
    dsimp only
    cases hr : s.loader.loadPrivate id a s.pool with
    | mk r p =>
      exact Holding.keepMap .key (fun m => .memory .privateKey m.memory) h
        (s.loader.transfers_loadPrivate id a) (fun _ => rfl) hr fun _ _ => trivial
  | publicKey =>
    delta Session.step
    dsimp only
    cases hr : s.loader.loadPublic id a s.pool with
    | mk r p =>
      exact Holding.keepMap .key (fun m => .memory .publicKey m.memory) h
        (s.loader.transfers_loadPublic id a) (fun _ => rfl) hr fun _ _ => trivial

theorem Sound.step_resolveKey (h : s.Sound) (side : KeySide) (reference : String) (a : Allocator)
    (name : String) : (s.step (.resolveKey side reference a name)).2.Sound := by
  cases side with
  | privateKey =>
    delta Session.step
    dsimp only
    cases hr : resolvePrivateKey s.registry s.loader reference a s.pool with
    | mk r p =>
      exact Holding.keepMap .key Item.privateKey h
        (transfers_resolvePrivateKey s.registry s.loader reference a) (fun _ => rfl) hr
        fun key hk => h.registry.resolvePrivateKey (by rw [hr, hk])
  | publicKey =>
    delta Session.step
    dsimp only
    cases hr : resolvePublicKey s.registry s.loader reference a s.pool with
    | mk r p =>
      exact Holding.keepMap .key Item.publicKey h
        (transfers_resolvePublicKey s.registry s.loader reference a) (fun _ => rfl) hr
        fun _ _ => trivial

theorem Sound.step_generate (h : s.Sound) (seed : List UInt8) (a : Allocator)
    (privateName publicName : String) :
    (s.step (.generate seed a privateName publicName)).2.Sound := by
  delta Session.step
  dsimp only
  cases hg : Schemes.generateEd25519 seed a s.pool with
  | mk r p =>
    have hh := Holding.transfer h (Schemes.transfers_generateEd25519 seed a) hg
    cases r with
    | ok pair =>
      obtain ⟨secret, shared⟩ := pair
      -- the public half is held outside while the private half is stored
      have h1 : (({ s with pool := p } : Session).put privateName
          (.memory .privateKey secret.memory)).Holding shared.memory.leases :=
        Holding.put hh trivial
      exact Holding.put_nil (i := .memory .publicKey shared.memory) h1 trivial
    | error e => exact hh

/-- The steps that only look at the session leave it as it is. -/
theorem step_info (name : String) : (s.step (.info name)).2 = s := by
  delta Session.step
  dsimp only
  split <;> rfl

theorem step_compare (a b : String) : (s.step (.compare a b)).2 = s := by
  delta Session.step
  dsimp only
  split <;> rfl

theorem step_keyBytes (name : String) : (s.step (.keyBytes name)).2 = s := by
  delta Session.step
  dsimp only
  split
  · split
    · split <;> rfl
    · exact missing_session s _ _ _
  · exact missing_session s _ _ _

theorem step_verify (key sig : String) (data : List UInt8) (ctx : Option (Option Context)) :
    (s.step (.verify key sig data ctx)).2 = s := by
  delta Session.step
  dsimp only
  split
  · rfl
  · exact missing_session s _ _ _
  · exact missing_session s _ _ _

theorem step_resolve (side : KeySide) (key : FunctionKey) : (s.step (.resolve side key)).2 = s := by
  cases side <;> rfl

/-- Every step keeps the session in order, a table installed having conforming signers. -/
theorem Sound.step (h : s.Sound) {st : Step} (hst : st.Conforming) : (s.step st).2.Sound := by
  cases st with
  | rent size name => exact h.step_rent size name
  | write target data offset => exact h.step_write target data offset
  | release name => exact h.step_release name
  | drop name => exact h.step_drop name
  | trim => exact h.step_trim
  | disposePool => exact h.step_disposePool
  | isPoolDisposed => exact h
  | statistics => exact h
  | metrics => exact h
  | describePool => exact h
  | copy k bytes t a name => exact h.step_copy k bytes t a name
  | own k bytes t name => exact h.step_own k bytes t name
  | ownLease kind lease t name => exact h.step_ownLease kind lease t name
  | empty k t name => exact h.step_empty k t name
  | wrap kind source name => exact h.step_wrap kind source name
  | info name => rw [step_info]; exact h
  | dispose name => exact h.step_dispose name
  | compare a b => rw [step_compare]; exact h
  | keyBytes name => rw [step_keyBytes]; exact h
  | install t => exact h.step_install hst
  | isInstalled => exact h
  | resolve side key => rw [step_resolve]; exact h
  | bind source id o name => exact h.step_bind source id o name
  | sign key data a name => exact h.step_sign key data a name
  | verify key sig data ctx => rw [step_verify]; exact h
  | store side id bytes t =>
    cases side with
    | privateKey => exact ⟨h.distinct, h.pool, h.registry, h.objects⟩
    | publicKey => exact ⟨h.distinct, h.pool, h.registry, h.objects⟩
  | load side id a name => exact h.step_load side id a name
  | resolveKey side reference a name => exact h.step_resolveKey side reference a name
  | generate seed a privateName publicName => exact h.step_generate seed a privateName publicName

/-- The sessions reached from a started session by steps that conform. -/
inductive Reachable : Session → Prop
  | start {config : PoolConfig} {strategy : Option Strategy} {s : Session} :
      Session.start config strategy = .ok s → Reachable s
  | step {s : Session} {st : Step} : Reachable s → st.Conforming → Reachable (s.step st).2

end Session

/-- A new pool has no slab, no lease out and every counter at zero. -/
theorem Pool.sound_withStrategy (config : PoolConfig) (capacity : Nat → Nat) :
    (Pool.withStrategy config capacity).Sound [] := by
  refine ⟨⟨?_, ?_, ?_, ?_, ?_⟩, ⟨?_, ?_, ?_, ?_, ?_, ?_, ?_⟩, ?_, ⟨?_, ?_, ?_, ?_, ?_, ?_, ?_⟩⟩ <;>
    simp [Pool.withStrategy, Pool.Residue]

namespace Session

variable {s : Session}

/-- A started session is in order. -/
theorem sound_start {config : PoolConfig} {strategy : Option Strategy}
    (h : Session.start config strategy = .ok s) : s.Sound := by
  have hpool : ∀ p : Pool, p.Sound [] → (ofPool p).Sound := fun p hp =>
    ⟨List.nodup_nil, hp, Registry.conforming_empty, fun _ he => absurd he List.not_mem_nil⟩
  unfold Session.start at h
  split at h
  · cases h
    exact hpool _ (Pool.sound_withStrategy config _)
  · unfold Pool.ofConfig at h
    split at h
    · cases h
      exact hpool _ (Pool.sound_withStrategy config _)
    · cases h

/-- Every session reached from a started one by conforming steps is in order. -/
theorem Reachable.sound (h : s.Reachable) : s.Sound := by
  induction h with
  | start hs => exact sound_start hs
  | step _ hst ih => exact ih.step hst

/-- A first rent on a pool of four-segment slabs is reachable. -/
theorem reachable_rent_after_start :
    ((Session.ofPool (Pool.withStrategy PoolConfig.default (Strategy.constant 4).segments)).step
      (.rent 16 "a")).2.Reachable :=
  have h0 : Session.start PoolConfig.default (some (.constant 4)) =
      .ok (Session.ofPool (Pool.withStrategy PoolConfig.default (Strategy.constant 4).segments)) :=
    rfl
  .step (.start h0) trivial

end Session

end KeyCustody
