import KeyCustody.Proofs.PoolRent
import KeyCustody.Memory

/-!
# Custody of leases

Every buffer holds the leases behind it: a segment holds its own lease, heap and plain bytes hold
none. Sensitive memory holds its buffer's leases until it is disposed, and the empty value holds
none.

An operation on the pool *transfers* leases (`Pool.Transfers ins holds op`) when, started from a
sound pool with the leases `ins` in hand and any others out, it ends in a sound pool whose leases
out are the others and those its result holds: the value's, or none when it fails. So an
operation that fails has released everything it was handed, and one that succeeds has put
everything it rented into its result. Renting, copying bytes into new memory, taking a buffer
over as memory and the typed variants all transfer leases this way; disposing memory releases
what it holds and leaves it holding nothing.
-/

namespace KeyCustody

namespace Owner

/-- The leases a buffer holds: its segment's, if it is one. -/
def leases : Owner → List Lease
  | segment l => [l]
  | heap _ => []
  | plain _ => []

@[simp] theorem leases_withBytes (o : Owner) (b : List UInt8) (p : Pool) :
    (o.withBytes b p).1.leases = o.leases := by
  cases o <;> rfl

end Owner

namespace Memory

/-- The leases behind sensitive memory: its buffer's, until it is disposed. -/
def leases (m : Memory) : List Lease :=
  match m.backing with
  | .owned o => o.leases
  | _ => []

@[simp] theorem leases_empty (t : Tag) : (empty t).leases = [] := rfl

/-- Disposed memory holds no lease, whatever it held. -/
@[simp] theorem leases_dispose (m : Memory) (p : Pool) : (m.dispose p).1.leases = [] := by
  cases hb : m.backing <;> simp [dispose, leases, hb]

end Memory

namespace Pool

variable {p : Pool} {ls : List Lease}

/-- The leases held by the result of an operation: the value's, or none after a failure. -/
def resultLeases {ε α : Type} (holds : α → List Lease) : Except ε α → List Lease
  | .ok a => holds a
  | .error _ => []

@[simp] theorem resultLeases_ok {ε α : Type} (holds : α → List Lease) (a : α) :
    resultLeases (ε := ε) holds (.ok a) = holds a := rfl

@[simp] theorem resultLeases_error {ε α : Type} (holds : α → List Lease) (e : ε) :
    resultLeases (α := α) holds (.error e) = [] := rfl

/-- An operation that consumes the leases `ins` and yields a result holding `holds` of its value,
keeping the pool invariant whatever other leases are out. -/
def Transfers {ε α : Type} (ins : List Lease) (holds : α → List Lease)
    (op : Pool → Except ε α × Pool) : Prop :=
  ∀ p ls, p.Sound (ins ++ ls) → (op p).2.Sound (resultLeases holds (op p).1 ++ ls)

/-- Reading off a transfer at an outcome. -/
theorem Transfers.apply {ε α : Type} {ins : List Lease} {holds : α → List Lease}
    {op : Pool → Except ε α × Pool} (ht : Transfers ins holds op) (h : p.Sound (ins ++ ls))
    {r : Except ε α} {p' : Pool} (hr : op p = (r, p')) : p'.Sound (resultLeases holds r ++ ls) := by
  have := ht p ls h
  rwa [hr] at this

theorem transfers_rent (size : Nat) : Transfers [] (fun l => [l]) (fun p => p.rent size) := by
  intro p ls h
  show (p.rent size).2.Sound (resultLeases (fun l => [l]) (p.rent size).1 ++ ls)
  cases hr : p.rent size with
  | mk r p' =>
    cases r with
    | ok l => exact (Sound.rent_ok h hr).1
    | error e => exact (Sound.rent_error h hr).1

/-- Releasing a buffer gives its leases back. -/
theorem Sound.drop_owner {o : Owner} (h : p.Sound (o.leases ++ ls)) : (o.drop p).Sound ls := by
  cases o with
  | segment l => exact h.giveBack
  | heap _ => exact h
  | plain _ => exact h

/-- Releasing a buffer leaves the bytes of every other lease out as they were. -/
theorem read_drop_owner {o : Owner} (h : p.Sound (o.leases ++ ls)) {l : Lease} (hl : l ∈ ls) :
    (o.drop p).read l = p.read l := by
  cases o with
  | segment l' => exact read_giveBack h hl
  | heap _ => rfl
  | plain _ => rfl

/-- Copying bytes that fit over a buffer keeps the invariant. -/
theorem Sound.withBytes {o : Owner} (h : p.Sound (o.leases ++ ls)) {b : List UInt8}
    (hfit : b.length ≤ o.length) : (o.withBytes b p).2.Sound (o.leases ++ ls) := by
  cases o with
  | segment l => exact h.writeLease List.mem_cons_self (by simpa [Owner.length] using hfit)
  | heap _ => exact h
  | plain _ => exact h

/-- Disposing memory gives its leases back. -/
theorem Sound.dispose_memory {m : Memory} (h : p.Sound (m.leases ++ ls)) : (m.dispose p).2.Sound ls := by
  unfold Memory.dispose
  cases hb : m.backing with
  | owned o =>
    rw [Memory.leases, hb] at h
    exact h.drop_owner
  | empty =>
    rw [Memory.leases, hb] at h
    exact h
  | disposed =>
    rw [Memory.leases, hb] at h
    exact h

/-- A write into memory keeps the leases it holds and the invariant. -/
theorem Sound.writeMemory {m m' : Memory} {data : List UInt8} {offset : Nat} {p p' : Pool}
    {ls : List Lease} (h : p.Sound (m.leases ++ ls)) (hw : m.write data offset p = .ok (some (m', p'))) :
    m'.leases = m.leases ∧ p'.Sound (m'.leases ++ ls) := by
  unfold Memory.write at hw
  cases hb : m.backing with
  | owned o =>
    rw [hb] at hw
    rw [Memory.leases, hb] at h
    cases o with
    | segment l =>
      simp only [Owner.write] at hw
      split at hw
      · rename_i hfit
        cases hw
        exact ⟨by simp [Memory.leases, hb], h.writeLease List.mem_cons_self hfit⟩
      · cases hw
    | heap b =>
      simp only [Owner.write] at hw
      cases hov : overwrite b data offset with
      | none => simp [hov] at hw
      | some b' =>
        simp only [hov, Option.map_some, Except.ok.injEq, Option.some.injEq, Prod.mk.injEq] at hw
        obtain ⟨rfl, rfl⟩ := hw
        exact ⟨by simp [Memory.leases, Owner.leases, hb], h⟩
    | plain b =>
      simp only [Owner.write] at hw
      cases hov : overwrite b data offset with
      | none => simp [hov] at hw
      | some b' =>
        simp only [hov, Option.map_some, Except.ok.injEq, Option.some.injEq, Prod.mk.injEq] at hw
        obtain ⟨rfl, rfl⟩ := hw
        exact ⟨by simp [Memory.leases, Owner.leases, hb], h⟩
  | empty =>
    rw [hb] at hw
    obtain ⟨b', -, hw⟩ := Option.map_eq_some_iff.mp (Except.ok.inj hw)
    cases hw
    exact ⟨rfl, h⟩
  | disposed =>
    rw [hb] at hw
    cases hw

end Pool

open Pool

namespace Allocator

theorem transfers_rent (a : Allocator) (size : Nat) : Transfers [] Owner.leases (a.rent size) := by
  intro p ls h
  cases a with
  | pool =>
    simp only [Allocator.rent]
    cases hr : p.rent size with
    | mk r p' =>
      have hp := (Pool.transfers_rent size).apply h hr
      cases r with
      | ok l => exact hp
      | error e => exact hp
  | heap =>
    simp only [Allocator.rent]
    split
    · exact h
    · exact h

/-- A buffer rented from a sound pool, or from the heap, has the size asked. -/
theorem length_of_rent {a : Allocator} {size : Nat} {p : Pool} {ls : List Lease} (h : p.Sound ls)
    {o : Owner} (hr : (a.rent size p).1 = .ok o) : o.length = size := by
  cases a with
  | pool =>
    simp only [Allocator.rent] at hr
    cases hrent : p.rent size with
    | mk r p' =>
      rw [hrent] at hr
      cases r with
      | ok l =>
        cases hr
        exact (h.rent_ok hrent).2.1
      | error e => cases hr
  | heap =>
    simp only [Allocator.rent] at hr
    split at hr
    · cases hr
    · cases hr
      simp [Owner.length]

end Allocator

namespace Memory

theorem transfers_ofOwner (o : Owner) (t : Tag) : Transfers o.leases leases (ofOwner o t) := by
  intro p ls h
  unfold ofOwner
  split
  · exact h.drop_owner
  · exact h

theorem transfers_copyFrom (a : Allocator) (bytes : List UInt8) (t : Tag) :
    Transfers [] leases (copyFrom a bytes t) := by
  intro p ls h
  unfold copyFrom
  split
  · exact h
  · cases hres : a.rent bytes.length p with
    | mk r p1 =>
      have hr := (a.transfers_rent bytes.length).apply h hres
      cases r with
      | error e => exact hr
      | ok o =>
        -- the rented buffer has exactly the length of the bytes copied into it
        have hlen := Allocator.length_of_rent h (by rw [hres])
        have hw := Sound.withBytes hr (b := bytes) (Nat.le_of_eq hlen.symm)
        dsimp only
        cases hwb : o.withBytes bytes p1 with
        | mk o' p2 =>
          have ho : o'.leases = o.leases := by
            rw [← Owner.leases_withBytes o bytes p1, hwb]
          rw [hwb, ← ho] at hw
          exact transfers_ofOwner o' t p2 ls hw

theorem transfers_copyAs (k : BufferKind) (a : Allocator) (bytes : List UInt8) (t : Tag) :
    Transfers [] leases (copyAs k a bytes t) := by
  intro p ls h
  unfold copyAs
  split
  · exact h
  · exact transfers_copyFrom a bytes t p ls h

theorem transfers_ownAs (k : BufferKind) (o : Owner) (t : Tag) :
    Transfers o.leases leases (ownAs k o t) := by
  intro p ls h
  unfold ownAs
  split
  · exact h.drop_owner
  · exact transfers_ofOwner o t p ls h

theorem transfers_wrapAs (k : BufferKind) (m : Memory) : Transfers m.leases leases (wrapAs k m) := by
  intro p ls h
  unfold wrapAs
  split
  · exact h.dispose_memory
  · exact h

end Memory

end KeyCustody
