import KeyCustody.Proofs.PoolGrowth
import KeyCustody.Proofs.StandardSchemes

/-!
# Exact-size allocation and copying

Both allocators rent buffers of exactly the size asked, zeroed, and refuse a size of zero. The
heap always can; a pool can while it is live, as long as a slab it has to make for the size fits
a 64-bit word. Copying a value into sensitive memory rents a buffer of the value's length and
writes the value over it, so the write always fits, and the memory then reads as the value. The
typed copies check the tag's buffer kind first and otherwise copy the same way; an empty value
and a tag of another kind are refused before anything is rented.

Main statement: `copies_read_back_exactly`.
-/

namespace KeyCustody

/-- The allocator can rent `n` bytes from the pool `p`: the heap always, the pool while it is
live and, should every slab of the size be full, when the new slab's bytes fit a word. -/
def Allocator.CanRent : Allocator → Pool → Nat → Prop
  | .heap, _, _ => True
  | .pool, p, n => p.disposed = false ∧
      ((∀ s ∈ p.slabs, s.segmentSize = n → s.free = []) → n * max (p.capacity n) 1 ≤ wordLimit)

variable {p : Pool} {ls : List Lease} {n : Nat}

/-- A live pool with a sound directory hands out a lease for every positive size, unless it has
to make a slab that does not fit a word. -/
theorem Pool.Directory.exists_rent_ok (hd : p.Directory) (hn : 0 < n) (hlive : p.disposed = false)
    (hfit : (∀ s ∈ p.slabs, s.segmentSize = n → s.free = []) →
      n * max (p.capacity n) 1 ≤ wordLimit) :
    ∃ l p', p.rent n = (.ok l, p') := by
  rcases hd.rent_eq (Nat.pos_iff_ne_zero.mp hn) hlive with
    ⟨_, _, _, _, _, -, -, -, -, heq⟩ | ⟨_, _, _, -, -, -, heq⟩ | ⟨e, hfull, hc, -⟩
  · exact ⟨_, _, heq⟩
  · exact ⟨_, _, heq⟩
  · -- the slab that would be made fits, so making it does not fail
    rw [Slab.create_of_fits hn (by omega) (hfit hfull)] at hc
    cases hc

namespace Allocator

variable {a : Allocator}

/-- Both allocators refuse a size of zero, and change nothing. -/
theorem rent_zero (a : Allocator) (p : Pool) : a.rent 0 p = (.error (.invalid .zeroSize), p) := by
  cases a with
  | pool => simp [rent, Pool.rent_of_refused (.inl rfl)]
  | heap => simp [rent]

/-- From a sound pool, an allocator that can rent `n > 0` bytes rents a buffer of exactly `n`
bytes that reads as zeros, and the pool stays sound with the buffer's leases out. -/
theorem rent_exact (h : p.Sound ls) (hn : 0 < n) (ha : a.CanRent p n) :
    ∃ o p', a.rent n p = (.ok o, p') ∧ o.length = n ∧ o.bytes p' = List.replicate n 0 ∧
      p'.Sound (o.leases ++ ls) := by
  cases a with
  | heap =>
    refine ⟨.heap (List.replicate n 0), p, ?_, by simp [Owner.length], rfl, h⟩
    simp [rent, Nat.pos_iff_ne_zero.mp hn]
  | pool =>
    obtain ⟨hlive, hfit⟩ := ha
    obtain ⟨l, p', hr⟩ := h.directory.exists_rent_ok hn hlive hfit
    obtain ⟨hsound, hsize, hzero⟩ := h.rent_ok hr
    exact ⟨.segment l, p', by simp [rent, hr], hsize, hzero, hsound⟩

end Allocator

namespace Memory

variable {a : Allocator} {bytes : List UInt8} {t : Tag}

/-- An empty value is refused before anything is rented. -/
theorem copyFrom_nil (a : Allocator) (t : Tag) (p : Pool) :
    copyFrom a [] t p = (.error (.invalid .emptyCopy), p) := rfl

/-- Copying a value that is not empty, with an allocator that can rent its length, makes memory
under the tag that reads as the value, and keeps the pool sound with the memory's leases out. -/
theorem copyFrom_reads_back (h : p.Sound ls) (hb : bytes ≠ []) (ha : a.CanRent p bytes.length) :
    ∃ m p', copyFrom a bytes t p = (.ok m, p') ∧ m.bytes? p' = .ok bytes ∧ m.tag = t ∧
      p'.Sound (m.leases ++ ls) := by
  have hlen : 0 < bytes.length := List.length_pos_iff.mpr hb
  obtain ⟨o, p₁, hr, -, -, -⟩ := Allocator.rent_exact h hlen ha
  -- the rented buffer has the value's length, so the value fills it exactly
  obtain ⟨hread, hsize, -, hsound⟩ := Allocator.fill_rented h hr rfl
  have hkept : (o.withBytes bytes p₁).1.length ≠ 0 := by omega
  refine ⟨⟨.owned (o.withBytes bytes p₁).1, t⟩, (o.withBytes bytes p₁).2, ?_, ?_, rfl, hsound⟩
  · simp [copyFrom, List.isEmpty_iff, hb, hr, ofOwner, hkept]
  · simp [bytes?, hread]

/-- A typed copy whose tag names its buffer kind, or none, is the untyped copy. -/
theorem copyAs_of_kind {k : BufferKind} (hk : t.kind? = none ∨ t.kind? = some k) (a : Allocator)
    (bytes : List UInt8) (p : Pool) : copyAs k a bytes t p = copyFrom a bytes t p := by
  rcases hk with hk | hk <;> simp [copyAs, checkKind, hk]

/-- A typed copy whose tag names another buffer kind is refused before anything is rented. -/
theorem copyAs_of_other_kind {k k' : BufferKind} (hk : t.kind? = some k') (hne : k' ≠ k)
    (a : Allocator) (bytes : List UInt8) (p : Pool) :
    copyAs k a bytes t p = (.error (.invalid (.kindMismatch k' k)), p) := by
  simp [copyAs, checkKind, hk, hne]

end Memory

/-- From a sound pool, both allocators refuse a size of zero and change nothing, and rent a
buffer of exactly `n` zero bytes for every positive `n` they can rent. So copying a value that
is not empty rents a buffer of its length, which the value fills exactly, and the new memory
reads back as the value under the given tag. The typed copies do the same when the tag's buffer
kind is theirs or absent. An empty value, or a tag of another buffer kind, is refused with an
invalid argument before anything is rented. -/
theorem copies_read_back_exactly (h : p.Sound ls) :
    (∀ a : Allocator, a.rent 0 p = (.error (.invalid .zeroSize), p)) ∧
    (∀ (a : Allocator) n, 0 < n → a.CanRent p n →
      ∃ o p', a.rent n p = (.ok o, p') ∧ o.length = n ∧ o.bytes p' = List.replicate n 0) ∧
    (∀ (a : Allocator) bytes t, bytes ≠ [] → a.CanRent p bytes.length →
      ∃ m p', Memory.copyFrom a bytes t p = (.ok m, p') ∧ m.bytes? p' = .ok bytes ∧ m.tag = t) ∧
    (∀ k (a : Allocator) bytes t, (t.kind? = none ∨ t.kind? = some k) →
      Memory.copyAs k a bytes t p = Memory.copyFrom a bytes t p) ∧
    (∀ (a : Allocator) t, Memory.copyFrom a [] t p = (.error (.invalid .emptyCopy), p)) ∧
    (∀ k k' (a : Allocator) bytes t, t.kind? = some k' → k' ≠ k →
      Memory.copyAs k a bytes t p = (.error (.invalid (.kindMismatch k' k)), p)) := by
  refine ⟨fun a => a.rent_zero p, ?_, ?_, fun k a bytes t hk => Memory.copyAs_of_kind hk a bytes p,
    fun a t => Memory.copyFrom_nil a t p,
    fun k k' a bytes t hk hne => Memory.copyAs_of_other_kind hk hne a bytes p⟩
  · intro a n hn ha
    obtain ⟨o, p', hr, hlen, hzero, -⟩ := Allocator.rent_exact h hn ha
    exact ⟨o, p', hr, hlen, hzero⟩
  · intro a bytes t hb ha
    obtain ⟨m, p', hc, hread, htag, -⟩ := Memory.copyFrom_reads_back (t := t) h hb ha
    exact ⟨m, p', hc, hread, htag⟩

/-- After one 16-byte rent from a new pool of four-segment slabs, the pool is sound with that
lease out and its one slab has three segments free, so both allocators rent and copy exactly from
it, a pool rent of 16 bytes taking the slab's next segment. -/
theorem copies_read_back_exactly_after_one_rent :
    ((Pool.withStrategy PoolConfig.default fun _ => 4).rent 16).2.Sound [⟨16, 0, 0, 0, 0⟩] ∧
    (∀ a : Allocator, a.rent 0 ((Pool.withStrategy PoolConfig.default fun _ => 4).rent 16).2 =
      (.error (.invalid .zeroSize), ((Pool.withStrategy PoolConfig.default fun _ => 4).rent 16).2)) ∧
    (∀ (a : Allocator) n, 0 < n → a.CanRent ((Pool.withStrategy PoolConfig.default fun _ => 4).rent 16).2 n →
      ∃ o p', a.rent n ((Pool.withStrategy PoolConfig.default fun _ => 4).rent 16).2 = (.ok o, p') ∧
        o.length = n ∧ o.bytes p' = List.replicate n 0) ∧
    (∀ (a : Allocator) bytes t, bytes ≠ [] →
      a.CanRent ((Pool.withStrategy PoolConfig.default fun _ => 4).rent 16).2 bytes.length →
      ∃ m p', Memory.copyFrom a bytes t ((Pool.withStrategy PoolConfig.default fun _ => 4).rent 16).2 =
        (.ok m, p') ∧ m.bytes? p' = .ok bytes ∧ m.tag = t) ∧
    (∀ k (a : Allocator) bytes t, (t.kind? = none ∨ t.kind? = some k) →
      Memory.copyAs k a bytes t ((Pool.withStrategy PoolConfig.default fun _ => 4).rent 16).2 =
        Memory.copyFrom a bytes t ((Pool.withStrategy PoolConfig.default fun _ => 4).rent 16).2) ∧
    (∀ (a : Allocator) t, Memory.copyFrom a [] t ((Pool.withStrategy PoolConfig.default fun _ => 4).rent 16).2 =
      (.error (.invalid .emptyCopy), ((Pool.withStrategy PoolConfig.default fun _ => 4).rent 16).2)) ∧
    (∀ k k' (a : Allocator) bytes t, t.kind? = some k' → k' ≠ k →
      Memory.copyAs k a bytes t ((Pool.withStrategy PoolConfig.default fun _ => 4).rent 16).2 =
        (.error (.invalid (.kindMismatch k' k)), ((Pool.withStrategy PoolConfig.default fun _ => 4).rent 16).2)) := by
  -- the rent makes slab `0` and hands out its segment `0`
  have hrent :
      ((Pool.withStrategy PoolConfig.default fun _ => 4).rent 16).1 = .ok ⟨16, 0, 0, 0, 0⟩ :=
    Pool.rent_withStrategy _ _ (by decide) (by decide)
  have hsound : ((Pool.withStrategy PoolConfig.default fun _ => 4).rent 16).2.Sound [⟨16, 0, 0, 0, 0⟩] :=
    ((Pool.sound_withStrategy _ _).rent_ok (Prod.ext hrent rfl)).1
  exact ⟨hsound, copies_read_back_exactly hsound⟩

end KeyCustody
