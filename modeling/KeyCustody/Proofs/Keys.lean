import KeyCustody.Proofs.Custody
import KeyCustody.Resolution
import KeyCustody.Schemes

/-!
# Keys in custody

A key holds the leases of its key memory. Binding hands the memory's leases to the key, or
disposes the memory when it fails; loading copies stored bytes into new key memory; resolving a
reference loads and binds, and making a key pair copies the seed and the public key into two new
buffers, releasing the first when the second cannot be made. Each of these transfers leases in
the sense of `Pool.Transfers`.

Signing runs a signer, which is any function the registry was given. A signer *conforms* when it
transfers leases itself: it returns a buffer holding what it rented and leaves every other lease
alone. With a conforming signer, a signature holds exactly what was rented for it. The library's
Ed25519 signer conforms.
-/

namespace KeyCustody

open Pool

namespace PrivateKey

/-- The leases of the key memory. -/
def leases (k : PrivateKey) : List Lease := k.memory.memory.leases

/-- A disposed key holds no lease. -/
@[simp] theorem leases_dispose (k : PrivateKey) (p : Pool) : (k.dispose p).1.leases = [] :=
  Memory.leases_dispose k.memory.memory p

theorem Sound.dispose {k : PrivateKey} {p : Pool} {ls : List Lease} (h : p.Sound (k.leases ++ ls)) :
    (k.dispose p).2.Sound ls :=
  Pool.Sound.dispose_memory h

end PrivateKey

namespace PublicKey

/-- The leases of the key memory. -/
def leases (k : PublicKey) : List Lease := k.memory.memory.leases

@[simp] theorem leases_dispose (k : PublicKey) (p : Pool) : (k.dispose p).1.leases = [] :=
  Memory.leases_dispose k.memory.memory p

theorem Sound.dispose {k : PublicKey} {p : Pool} {ls : List Lease} (h : p.Sound (k.leases ++ ls)) :
    (k.dispose p).2.Sound ls :=
  Pool.Sound.dispose_memory h

end PublicKey

/-- A signer conforms when it returns a buffer holding every lease it rented and leaves every
other lease out alone. -/
def Signer.Conforming (s : Signer) : Prop :=
  ∀ key data a ctx, Transfers [] Owner.leases (s.run key data a ctx)

/-- Every signer of the table conforms. -/
def FunctionTable.Conforming (t : FunctionTable) : Prop := ∀ e ∈ t.signers, e.2.Conforming

/-- Every signer of the installed table, if any, conforms. -/
def Registry.Conforming (r : Registry) : Prop := ∀ t, r.table = some t → t.Conforming

theorem Registry.conforming_empty : ({} : Registry).Conforming := by
  intro t ht
  cases ht

/-- A registry given a conforming table conforms. -/
theorem Registry.conforming_install {r r' : Registry} {t : FunctionTable} (ht : t.Conforming)
    (hi : r.install t = .ok r') : r'.Conforming := by
  unfold Registry.install at hi
  split at hi
  · cases hi
  · cases hi
    intro t' ht'
    cases ht'
    exact ht

/-- The signer a conforming registry resolves conforms. -/
theorem Registry.Conforming.resolveSigner {r : Registry} {k : FunctionKey} {s : Signer}
    (hr : r.Conforming) (hs : r.resolveSigner k = .ok s) : s.Conforming := by
  unfold Registry.resolveSigner at hs
  split at hs
  · cases hs
  · rename_i t ht
    split at hs
    · rename_i s' hfind
      cases hs
      obtain ⟨e, he, rfl⟩ := Option.map_eq_some_iff.mp hfind
      exact hr t ht e (List.mem_of_find?_eq_some he)
    · cases hs

/-- Binding private key memory hands its leases to the key, or disposes it. -/
theorem transfers_bindPrivate (r : Registry) (id : String) (m : PrivateKeyMemory) (o : BindOptions) :
    Transfers m.memory.leases PrivateKey.leases (bindPrivate r id m o) := by
  intro p ls h
  dsimp only [bindPrivate]
  split
  · rename_i key hkey
    -- the key is built around the memory it was given
    have hm : key.memory = m := by
      simp only [bind, Except.bind, pure, Except.pure] at hkey
      split at hkey
      · cases hkey
      · split at hkey
        · cases hkey
        · split at hkey
          · cases hkey
          · cases hkey
            rfl
    simp only [resultLeases_ok, PrivateKey.leases, hm]
    exact h
  · exact h.dispose_memory

/-- Binding public key memory hands its leases to the key, or disposes it. -/
theorem transfers_bindPublic (r : Registry) (id : String) (m : PublicKeyMemory) (o : BindOptions) :
    Transfers m.memory.leases PublicKey.leases (bindPublic r id m o) := by
  intro p ls h
  dsimp only [bindPublic]
  split
  · rename_i key hkey
    have hm : key.memory = m := by
      simp only [bind, Except.bind, pure, Except.pure] at hkey
      split at hkey
      · cases hkey
      · split at hkey
        · cases hkey
        · split at hkey
          · cases hkey
          · cases hkey
            rfl
    simp only [resultLeases_ok, PublicKey.leases, hm]
    exact h
  · exact h.dispose_memory

/-- A key bound through a conforming registry has a conforming signer. -/
theorem Registry.Conforming.bindPrivate {r : Registry} (hr : r.Conforming) {id : String}
    {m : PrivateKeyMemory} {o : BindOptions} {p : Pool} {key : PrivateKey}
    (hb : (bindPrivate r id m o p).1 = .ok key) : key.signer.Conforming := by
  simp only [KeyCustody.bindPrivate] at hb
  split at hb
  · rename_i key' hkey
    cases hb
    simp only [bind, Except.bind, pure, Except.pure] at hkey
    split at hkey
    · cases hkey
    · split at hkey
      · cases hkey
      · split at hkey
        · cases hkey
        · rename_i s hs
          cases hkey
          exact hr.resolveSigner hs
  · cases hb

/-- A key resolved through a conforming registry has a conforming signer. -/
theorem Registry.Conforming.resolvePrivateKey {r : Registry} (hr : r.Conforming) {l : Loader}
    {reference : String} {a : Allocator} {p : Pool} {key : PrivateKey}
    (hk : (KeyCustody.resolvePrivateKey r l reference a p).1 = .ok key) : key.signer.Conforming := by
  simp only [KeyCustody.resolvePrivateKey] at hk
  split at hk
  · cases hk
  · split at hk
    · cases hk
    · exact hr.bindPrivate hk

/-- Signing with a key whose signer conforms makes a signature holding what was rented for it. -/
theorem transfers_sign (k : PrivateKey) (hk : k.signer.Conforming) (data : List UInt8)
    (a : Allocator) : Transfers [] (fun sig : Signature => sig.memory.leases) (k.sign data a) := by
  intro p ls h
  unfold PrivateKey.sign
  split
  · exact h
  · rename_i secret _
    cases hrun : k.signer.run secret data a k.context p with
    | mk r p1 =>
      have h1 := (hk secret data a k.context).apply h hrun
      cases r with
      | error e => exact h1
      | ok owner =>
        dsimp only
        cases hown : Memory.ownAs .signature owner k.signatureTag p1 with
        | mk r' p2 =>
          have h2 := (Memory.transfers_ownAs .signature owner k.signatureTag).apply h1 hown
          cases r' with
          | error e => exact h2
          | ok m => exact h2

namespace Loader

theorem transfers_loadPrivate (l : Loader) (name : String) (a : Allocator) :
    Transfers [] (fun m : PrivateKeyMemory => m.memory.leases) (l.loadPrivate name a) := by
  intro p ls h
  unfold loadPrivate
  split
  · exact h
  · rename_i k _
    cases hc : Memory.copyAs .privateKey a k.bytes k.tag p with
    | mk r p1 =>
      have h1 := (Memory.transfers_copyAs .privateKey a k.bytes k.tag).apply h hc
      cases r with
      | ok m => exact h1
      | error e => exact h1

theorem transfers_loadPublic (l : Loader) (name : String) (a : Allocator) :
    Transfers [] (fun m : PublicKeyMemory => m.memory.leases) (l.loadPublic name a) := by
  intro p ls h
  unfold loadPublic
  split
  · exact h
  · rename_i k _
    cases hc : Memory.copyAs .publicKey a k.bytes k.tag p with
    | mk r p1 =>
      have h1 := (Memory.transfers_copyAs .publicKey a k.bytes k.tag).apply h hc
      cases r with
      | ok m => exact h1
      | error e => exact h1

end Loader

theorem transfers_resolvePrivateKey (r : Registry) (l : Loader) (reference : String)
    (a : Allocator) : Transfers [] PrivateKey.leases (resolvePrivateKey r l reference a) := by
  intro p ls h
  unfold resolvePrivateKey
  split
  · exact h
  · rename_i name _
    cases hl : l.loadPrivate name a p with
    | mk res p1 =>
      have h1 := (l.transfers_loadPrivate name a).apply h hl
      cases res with
      | error e => exact h1
      | ok m => exact transfers_bindPrivate r name m {} p1 ls h1

theorem transfers_resolvePublicKey (r : Registry) (l : Loader) (reference : String)
    (a : Allocator) : Transfers [] PublicKey.leases (resolvePublicKey r l reference a) := by
  intro p ls h
  unfold resolvePublicKey
  split
  · exact h
  · rename_i name _
    cases hl : l.loadPublic name a p with
    | mk res p1 =>
      have h1 := (l.transfers_loadPublic name a).apply h hl
      cases res with
      | error e => exact h1
      | ok m => exact transfers_bindPublic r name m {} p1 ls h1

theorem Arith.length_toLittleEndian (n len : Nat) : (Arith.toLittleEndian n len).length = len := by
  simp [Arith.toLittleEndian]

namespace Schemes

/-- An Ed25519 signature has 64 bytes. -/
theorem length_sign (seed msg : List UInt8) : (Ed25519.sign seed msg).length = 64 := by
  simp [Ed25519.sign, Ed25519.Point.encode, Arith.length_toLittleEndian]

/-- The Ed25519 signer rents a 64-byte buffer, fills it with the signature and hands it back, over
any implementation whose signatures have 64 bytes. -/
theorem ed25519SignerWith_conforming (E : Ed25519Backend)
    (hlen : ∀ seed data, seed.length = 32 → (E.sign seed data).length = 64) :
    (ed25519SignerWith E).Conforming := by
  intro key data a ctx p ls h
  simp only [ed25519SignerWith]
  split
  · exact h
  · rename_i hcheck
    have hkey : key.length = 32 := by
      unfold checkLength at hcheck
      split at hcheck
      · assumption
      · cases hcheck
    cases hr : a.rent 64 p with
    | mk r p1 =>
      have h1 := (a.transfers_rent 64).apply h hr
      cases r with
      | error e => exact h1
      | ok o =>
        have hlen' := Allocator.length_of_rent h (by rw [hr])
        have hw := Sound.withBytes h1 (b := E.sign key data)
          (Nat.le_of_eq (by rw [hlen', hlen key data hkey]))
        dsimp only
        rw [← Owner.leases_withBytes o (E.sign key data) p1] at hw
        exact hw

/-- The library's Ed25519 signer conforms. -/
theorem ed25519Signer_conforming : (ed25519SignerWith .standard).Conforming :=
  ed25519SignerWith_conforming _ fun seed data _ => length_sign seed data

/-- Making a key pair transfers leases to the two halves. -/
theorem transfers_generateEd25519 (seed : List UInt8) (a : Allocator) :
    Transfers [] (fun pair : PrivateKeyMemory × PublicKeyMemory =>
      pair.1.memory.leases ++ pair.2.memory.leases) (generateEd25519 seed a) := by
  intro p ls h
  unfold generateEd25519
  cases h1 : Memory.copyAs .privateKey a seed Tag.ed25519PrivateKey p with
  | mk r p1 =>
    have hp1 := (Memory.transfers_copyAs .privateKey a seed Tag.ed25519PrivateKey).apply h h1
    cases r with
    | error e => exact hp1
    | ok priv =>
      dsimp only
      cases h2 : Memory.copyAs .publicKey a (Ed25519.publicKey seed) Tag.ed25519PublicKey p1 with
      | mk r' p2 =>
        -- the private half is held while the public half is made
        have hp2 : p2.Sound (resultLeases Memory.leases r' ++ (priv.leases ++ ls)) :=
          (Memory.transfers_copyAs .publicKey a (Ed25519.publicKey seed)
            Tag.ed25519PublicKey).apply hp1 h2
        cases r' with
        | error e => exact hp2.dispose_memory
        | ok pub =>
          have := hp2.perm (List.perm_append_comm_assoc _ _ _)
          simpa [List.append_assoc] using this

end Schemes

end KeyCustody
