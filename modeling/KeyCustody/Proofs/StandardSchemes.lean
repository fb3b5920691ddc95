import KeyCustody.Proofs.Binding
import KeyCustody.Proofs.Signing
import KeyCustody.Proofs.Keys
import KeyCustody.Proofs.RegistryResolution

/-!
# The standard functions sign and verify

A registry initialized with the standard functions has one signer, Ed25519 under
(Ed25519, signing), and three verifiers: Ed25519 under (Ed25519, verification) and P-256 under
(P-256, verification), without a qualifier and with the DER qualifier. The curve arithmetic is a
parameter `E`; all that is assumed of it is what Ed25519 promises (`Ed25519Backend.Correct`):
32-byte public keys and 64-byte signatures from 32-byte seeds, and that a signature verifies under
the public key of the seed that made it.

Under that assumption the whole stack round-trips: memory holding a seed under the Ed25519
private key tag and memory holding its public key under the Ed25519 public key tag bind with the
default options; signing with any allocator that can rent 64 bytes gives a 64-byte signature
tagged with Ed25519 and the signature kind, holding exactly what `E` signed; and the public key
verifies it. Writing the signature into its buffer leaves every other buffer in order as it was,
which is why the public key still reads as the public key afterwards. A key of the wrong length
is refused with the length it has; every other verification is a yes or a no.

Main statement: `ed25519_keys_round_trip`.
-/

namespace KeyCustody

namespace Memory

/-- Memory reads the same in two pools that agree on its leases. -/
theorem bytes?_congr {m : Memory} {p p' : Pool} (h : ∀ l ∈ m.leases, p'.read l = p.read l) :
    m.bytes? p' = m.bytes? p := by
  unfold bytes?
  cases hb : m.backing with
  | owned o =>
    cases o with
    | segment l => simp [Owner.bytes, h l (by simp [leases, Owner.leases, hb])]
    | heap b => rfl
    | plain b => rfl
  | empty => rfl
  | disposed => rfl

end Memory

namespace Allocator

variable {a : Allocator} {n : Nat} {p p₁ : Pool} {ls : List Lease} {o : Owner} {b : List UInt8}

/-- A buffer just rented and filled with as many bytes as it has reads as those bytes; every
lease held before reads as it did, and the pool stays in order with the new buffer's leases. -/
theorem fill_rented (h : p.Sound ls) (hr : a.rent n p = (.ok o, p₁)) (hb : b.length = n) :
    (o.withBytes b p₁).1.bytes (o.withBytes b p₁).2 = b ∧ (o.withBytes b p₁).1.length = n ∧
      (∀ l ∈ ls, (o.withBytes b p₁).2.read l = p.read l) ∧
      (o.withBytes b p₁).2.Sound ((o.withBytes b p₁).1.leases ++ ls) := by
  cases a with
  | heap =>
    simp only [rent] at hr
    split at hr
    · cases hr
    · cases hr
      exact ⟨rfl, hb, fun _ _ => rfl, by simpa [Owner.withBytes, Owner.leases] using h⟩
  | pool =>
    simp only [rent] at hr
    cases hrent : p.rent n with
    | mk r p' =>
      cases r with
      | error e => simp [hrent] at hr
      | ok l =>
        simp only [hrent, Prod.mk.injEq, Except.ok.injEq] at hr
        obtain ⟨rfl, rfl⟩ := hr
        obtain ⟨hs, hsize, hzero⟩ := h.rent_ok hrent
        have hfit : 0 + b.length ≤ l.segmentSize := by omega
        -- the new lease is apart from every lease held before
        have hapart : ∀ l' ∈ ls, l'.Apart l := fun l' hl' =>
          ((List.pairwise_cons.mp hs.outstanding.apart).1 l' hl').symm
        have hread := Pool.overwrite_read_writeLease hs List.mem_cons_self hfit
        rw [hzero, ← hb] at hread
        simp only [overwrite, List.length_replicate, Nat.zero_add, le_refl, if_true,
          List.take_zero, List.nil_append, List.drop_replicate, Nat.sub_self,
          List.replicate_zero, List.append_nil, Option.some.injEq] at hread
        refine ⟨hread.symm, hsize, fun l' hl' => ?_, ?_⟩
        · have hkept := Pool.read_rent h n hl'
          rw [hrent] at hkept
          rw [Owner.withBytes, Pool.read_writeLease_of_apart (hapart l' hl') hfit]
          exact hkept
        · exact hs.writeLease List.mem_cons_self hfit

end Allocator

namespace Schemes

/-- What the library relies on from an implementation of Ed25519, as the algorithm promises:
a 32-byte seed gives a 32-byte public key and 64-byte signatures, and a signature made under a
seed verifies under that seed's public key. -/
structure Ed25519Backend.Correct (E : Ed25519Backend) : Prop where
  publicKey_length : ∀ seed, seed.length = 32 → (E.publicKey seed).length = 32
  sign_length : ∀ seed msg, seed.length = 32 → (E.sign seed msg).length = 64
  verify_sign : ∀ seed msg, seed.length = 32 →
    E.verify (E.publicKey seed) msg (E.sign seed msg) = true

section Table

variable (E : Ed25519Backend)

theorem signers_registerWith :
    (registerWith E {}).signers = [(⟨.ed25519, .signing, none⟩, ed25519SignerWith E)] := rfl

theorem verifiers_registerWith :
    (registerWith E {}).verifiers =
      [(⟨.ed25519, .verification, none⟩, ed25519VerifierWith E),
        (⟨.p256, .verification, none⟩, p256Verifier P256.fixedPair),
        (⟨.p256, .verification, some derQualifier⟩, p256Verifier Der.pair)] := rfl

theorem length_publicKey (seed : List UInt8) : (Ed25519.publicKey seed).length = 32 := by
  simp [Ed25519.publicKey, Ed25519.Point.encode, Arith.length_toLittleEndian]

end Table

section Lookup

variable {E : Ed25519Backend} {r : Registry} (hr : r.table = some (registerWith E {}))
include hr

/-- The only signer is Ed25519's, under (Ed25519, signing) without a qualifier. -/
theorem resolveSigner_eq_ok_iff {k : FunctionKey} {f : Signer} :
    r.resolveSigner k = .ok f ↔ k = ⟨.ed25519, .signing, none⟩ ∧ f = ed25519SignerWith E := by
  rw [Registry.resolveSigner_of_table hr, signers_registerWith]
  by_cases hk : k = ⟨.ed25519, .signing, none⟩
  · subst hk
    simp [lookupKey, eq_comm]
  · simp [lookupKey, hk, Ne.symm hk]

/-- The verifiers are Ed25519's under (Ed25519, verification) and P-256's under
(P-256, verification), reading plain and DER signatures. -/
theorem resolveVerifier_eq_ok_iff {k : FunctionKey} {f : Verifier} :
    r.resolveVerifier k = .ok f ↔
      (k = ⟨.ed25519, .verification, none⟩ ∧ f = ed25519VerifierWith E) ∨
      (k = ⟨.p256, .verification, none⟩ ∧ f = p256Verifier P256.fixedPair) ∨
      (k = ⟨.p256, .verification, some derQualifier⟩ ∧ f = p256Verifier Der.pair) := by
  rw [Registry.resolveVerifier_of_table hr, verifiers_registerWith]
  -- the three keys differ, so each case finds at most one entry
  by_cases h₁ : k = ⟨.ed25519, .verification, none⟩
  · subst h₁
    simp [lookupKey, eq_comm]
  by_cases h₂ : k = ⟨.p256, .verification, none⟩
  · subst h₂
    simp [lookupKey, eq_comm]
  by_cases h₃ : k = ⟨.p256, .verification, some derQualifier⟩
  · subst h₃
    simp [lookupKey, eq_comm]
  · simp [lookupKey, h₁, h₂, h₃, Ne.symm h₁, Ne.symm h₂, Ne.symm h₃]

end Lookup

section Runs

variable {E : Ed25519Backend}

/-- A verifier that checks the key's length first answers its verdict or the length it found. -/
theorem checkLength_then (what : String) (bytes : List UInt8) (n : Nat) (v : Bool) :
    (do checkLength what bytes n; return v : Except KeyError Bool) =
      if bytes.length = n then .ok v else .error (.wrongLength what n bytes.length) := by
  unfold checkLength
  split <;> rfl

theorem run_ed25519VerifierWith (key data sig : List UInt8) (ctx : Option Context) :
    (ed25519VerifierWith E).run key data sig ctx =
      if key.length = 32 then .ok (E.verify key data sig)
      else .error (.wrongLength "Ed25519 public key" 32 key.length) :=
  checkLength_then _ _ _ _

theorem run_p256Verifier (pair : List UInt8 → Option (List UInt8 × List UInt8))
    (key data sig : List UInt8) (ctx : Option Context) :
    (p256Verifier pair).run key data sig ctx =
      if key.length = 65 then .ok (P256.verifyWith pair key data sig)
      else .error (.wrongLength "P-256 public key" 65 key.length) :=
  checkLength_then _ _ _ _

variable {seed data : List UInt8} {a : Allocator} {ctx : Option Context} {p : Pool}

/-- A seed of the wrong length is refused before anything is rented. -/
theorem run_ed25519SignerWith_of_length_ne (h : seed.length ≠ 32) :
    (ed25519SignerWith E).run seed data a ctx p =
      (.error (.wrongLength "Ed25519 seed" 32 seed.length), p) := by
  simp only [ed25519SignerWith, checkLength, h, if_false]

/-- A 32-byte seed's signature is copied into the 64-byte buffer rented for it. -/
theorem run_ed25519SignerWith_of_rent (h : seed.length = 32) {o : Owner} {p₁ : Pool}
    (hr : a.rent 64 p = (.ok o, p₁)) :
    (ed25519SignerWith E).run seed data a ctx p =
      (.ok (o.withBytes (E.sign seed data) p₁).1, (o.withBytes (E.sign seed data) p₁).2) := by
  simp only [ed25519SignerWith, checkLength, h, if_true, hr]

end Runs

/-- What a registry of the standard functions over `E` does with Ed25519 and P-256 keys. -/
structure StandardFunctions (E : Ed25519Backend) (r : Registry) : Prop where
  /-- A seed and its public key, held in memory under the preset tags, bind with the default
  options; the private key signs into any allocator that can rent 64 bytes, giving a 64-byte
  Ed25519 signature of exactly what `E` signs, in a pool still in order; and the public key
  accepts it. -/
  roundTrip : ∀ (seed msg : List UInt8) (idPriv idPub : String) (priv : PrivateKeyMemory)
    (pub : PublicKeyMemory) (a : Allocator) (p : Pool) (ls : List Lease),
    seed.length = 32 → priv.memory.tag = Tag.ed25519PrivateKey →
    pub.memory.tag = Tag.ed25519PublicKey → priv.memory.bytes? p = .ok seed →
    pub.memory.bytes? p = .ok (E.publicKey seed) →
    p.Sound (priv.memory.leases ++ pub.memory.leases ++ ls) →
    (∃ o p₁, a.rent 64 p = (.ok o, p₁)) →
    ∃ (kPriv : PrivateKey) (kPub : PublicKey) (sig : Signature) (p' : Pool),
      bindPrivate r idPriv priv {} p = (.ok kPriv, p) ∧
      bindPublic r idPub pub {} p = (.ok kPub, p) ∧
      kPriv.sign msg a p = (.ok sig, p') ∧
      sig.memory.tag = Tag.signature .ed25519 ∧ sig.memory.length = 64 ∧
      sig.memory.bytes? p' = .ok (E.sign seed msg) ∧
      p'.Sound (sig.memory.leases ++ priv.memory.leases ++ pub.memory.leases ++ ls) ∧
      kPub.verify msg sig p' = .ok true
  /-- A bound private key whose bytes are not a 32-byte seed refuses to sign, naming their
  length, and rents nothing. -/
  refusesSeed : ∀ (id : String) (m : PrivateKeyMemory) (o : BindOptions) (p p' : Pool)
    (key : PrivateKey), bindPrivate r id m o p = (.ok key, p') →
    ∀ (data : List UInt8) (a : Allocator) (q : Pool) (secret : List UInt8),
    key.memory.memory.bytes? q = .ok secret → secret.length ≠ 32 →
    key.sign data a q = (.error (.wrongLength "Ed25519 seed" 32 secret.length), q)
  /-- Past the algorithm and disposal checks, a bound public key refuses a key of the wrong
  length, naming it, and otherwise answers yes or no: Ed25519 keys as `E` verifies, P-256 keys
  as P-256 verifies with one of its signature readers. -/
  verifies : ∀ (id : String) (m : PublicKeyMemory) (o : BindOptions) (p p' : Pool)
    (key : PublicKey), bindPublic r id m o p = (.ok key, p') →
    ∀ (data : List UInt8) (sig : Signature) (ctx : Option Context) (q : Pool)
      (sb kb : List UInt8),
    sig.algorithm? = none ∨ sig.algorithm? = some key.algorithm →
    sig.memory.bytes? q = .ok sb → key.memory.memory.bytes? q = .ok kb →
    (key.algorithm = .ed25519 ∧ key.verifyWith data sig ctx q =
        if kb.length = 32 then .ok (E.verify kb data sb)
        else .error (.wrongLength "Ed25519 public key" 32 kb.length)) ∨
    (key.algorithm = .p256 ∧ ∃ pair, key.verifyWith data sig ctx q =
        if kb.length = 65 then .ok (P256.verifyWith pair kb data sb)
        else .error (.wrongLength "P-256 public key" 65 kb.length))

/-- Live memory under a preset key tag binds, with the default options, to what the lookup has
under the tag's algorithm and purpose and no qualifier. -/
theorem bindingOutcome_keyTag {φ : Type} {resolve : FunctionKey → Except KeyError φ} {m : Memory}
    {a : Algorithm} {pu : Purpose} {k : BufferKind} {e : Encoding} {f : φ}
    (hd : m.isDisposed = false) (ht : m.tag = Tag.keyTag a pu k e)
    (hr : resolve ⟨a, pu, none⟩ = .ok f) :
    bindingOutcome resolve m {} = .ok (⟨a, pu, none⟩, f) := by
  have hq : m.tag.qualifier? = none := by rw [ht]; rfl
  have h : bindingOutcome resolve m {} =
      .ok (⟨a, pu, ({} : BindOptions).qualifier.or m.tag.qualifier?⟩, f) :=
    bindingOutcome_eq_ok hd (by rw [ht]; rfl) (by rw [ht]; rfl) (by rw [hq]; exact hr)
  rw [hq] at h
  exact h

section Standard

variable {E : Ed25519Backend} {r : Registry} (hr : r.table = some (registerWith E {}))
include hr

/-- Memory under the Ed25519 private key tag binds to the Ed25519 signer. -/
theorem bindPrivate_ed25519 {priv : PrivateKeyMemory} {p : Pool} {seed : List UInt8} (id : String)
    (ht : priv.memory.tag = Tag.ed25519PrivateKey) (hb : priv.memory.bytes? p = .ok seed) :
    bindPrivate r id priv {} p =
      (.ok ⟨id, .ed25519, none, priv, ed25519SignerWith E, none⟩, p) := by
  rw [bindPrivate_eq, bindingOutcome_keyTag (Memory.isDisposed_eq_false_of_bytes? hb) ht
    ((resolveSigner_eq_ok_iff hr).mpr ⟨rfl, rfl⟩)]

/-- Memory under the Ed25519 public key tag binds to the Ed25519 verifier. -/
theorem bindPublic_ed25519 {pub : PublicKeyMemory} {p : Pool} {kb : List UInt8} (id : String)
    (ht : pub.memory.tag = Tag.ed25519PublicKey) (hb : pub.memory.bytes? p = .ok kb) :
    bindPublic r id pub {} p = (.ok ⟨id, .ed25519, pub, ed25519VerifierWith E, none⟩, p) := by
  rw [bindPublic_eq, bindingOutcome_keyTag (Memory.isDisposed_eq_false_of_bytes? hb) ht
    ((resolveVerifier_eq_ok_iff hr).mpr (.inl ⟨rfl, rfl⟩))]

/-- The round trip, once the 64-byte buffer is rented. -/
theorem sign_verify_round_trip (hE : E.Correct) {seed msg : List UInt8} {idPriv idPub : String}
    {priv : PrivateKeyMemory} {pub : PublicKeyMemory} {a : Allocator} {p p₁ : Pool}
    {ls : List Lease} {o : Owner} (hseed : seed.length = 32)
    (htPriv : priv.memory.tag = Tag.ed25519PrivateKey)
    (htPub : pub.memory.tag = Tag.ed25519PublicKey) (hbPriv : priv.memory.bytes? p = .ok seed)
    (hbPub : pub.memory.bytes? p = .ok (E.publicKey seed))
    (hsound : p.Sound (priv.memory.leases ++ pub.memory.leases ++ ls))
    (hrent : a.rent 64 p = (.ok o, p₁)) :
    ∃ (kPriv : PrivateKey) (kPub : PublicKey) (sig : Signature) (p' : Pool),
      bindPrivate r idPriv priv {} p = (.ok kPriv, p) ∧
      bindPublic r idPub pub {} p = (.ok kPub, p) ∧
      kPriv.sign msg a p = (.ok sig, p') ∧
      sig.memory.tag = Tag.signature .ed25519 ∧ sig.memory.length = 64 ∧
      sig.memory.bytes? p' = .ok (E.sign seed msg) ∧
      p'.Sound (sig.memory.leases ++ priv.memory.leases ++ pub.memory.leases ++ ls) ∧
      kPub.verify msg sig p' = .ok true := by
  let kPriv : PrivateKey := ⟨idPriv, .ed25519, none, priv, ed25519SignerWith E, none⟩
  let kPub : PublicKey := ⟨idPub, .ed25519, pub, ed25519VerifierWith E, none⟩
  let filled := o.withBytes (E.sign seed msg) p₁
  let sig : Signature := ⟨⟨.owned filled.1, Tag.signature .ed25519⟩⟩
  obtain ⟨hbytes, hlen, hframe, hsound'⟩ :=
    Allocator.fill_rented hsound hrent (hE.sign_length seed msg hseed)
  have hsign : kPriv.sign msg a p = (.ok sig, filled.2) := by
    rw [PrivateKey.sign_of_bytes? hbPriv, run_ed25519SignerWith_of_rent hseed hrent]
    exact if_neg (by rw [hlen]; decide)
  -- writing the signature leaves the public key's buffer as it was
  have hbPub' : pub.memory.bytes? filled.2 = .ok (E.publicKey seed) := by
    rw [Memory.bytes?_congr fun l hl => hframe l (by simp [hl])]
    exact hbPub
  have hbSig : sig.memory.bytes? filled.2 = .ok (E.sign seed msg) := congrArg Except.ok hbytes
  have hverify : kPub.verify msg sig filled.2 = .ok true := by
    -- the signature names Ed25519, so it reaches the verifier
    have hfit := PrivateKey.algorithm?_of_sign hsign
    rw [PublicKey.verify, PublicKey.verifyWith_of_bytes? (.inr hfit) hbSig hbPub',
      run_ed25519VerifierWith, if_pos (hE.publicKey_length seed hseed),
      hE.verify_sign seed msg hseed]
  refine ⟨kPriv, kPub, sig, filled.2, bindPrivate_ed25519 hr idPriv htPriv hbPriv,
    bindPublic_ed25519 hr idPub htPub hbPub, hsign, rfl, hlen, hbSig, ?_, hverify⟩
  simp only [List.append_assoc] at hsound' ⊢
  exact hsound'

/-- A bound key whose bytes are not a 32-byte seed is refused by the Ed25519 signer. -/
theorem sign_of_seed_length_ne {id : String} {m : PrivateKeyMemory} {o : BindOptions}
    {p p' : Pool} {key : PrivateKey} (hb : bindPrivate r id m o p = (.ok key, p'))
    (data : List UInt8) (a : Allocator) {q : Pool} {secret : List UInt8}
    (hs : key.memory.memory.bytes? q = .ok secret) (hlen : secret.length ≠ 32) :
    key.sign data a q = (.error (.wrongLength "Ed25519 seed" 32 secret.length), q) := by
  obtain ⟨k, hres, -⟩ := bindPrivate_eq_ok hb
  obtain ⟨-, hf⟩ := (resolveSigner_eq_ok_iff hr).mp hres
  rw [PrivateKey.sign_of_bytes? hs, hf, run_ed25519SignerWith_of_length_ne hlen]

/-- What a bound public key answers once the algorithm and disposal checks pass. -/
theorem verifyWith_of_bound {id : String} {m : PublicKeyMemory} {o : BindOptions} {p p' : Pool}
    {key : PublicKey} (hb : bindPublic r id m o p = (.ok key, p')) (data : List UInt8)
    {sig : Signature} (ctx : Option Context) {q : Pool} {sb kb : List UInt8}
    (hfit : sig.algorithm? = none ∨ sig.algorithm? = some key.algorithm)
    (hs : sig.memory.bytes? q = .ok sb) (hk : key.memory.memory.bytes? q = .ok kb) :
    (key.algorithm = .ed25519 ∧ key.verifyWith data sig ctx q =
        if kb.length = 32 then .ok (E.verify kb data sb)
        else .error (.wrongLength "Ed25519 public key" 32 kb.length)) ∨
    (key.algorithm = .p256 ∧ ∃ pair, key.verifyWith data sig ctx q =
        if kb.length = 65 then .ok (P256.verifyWith pair kb data sb)
        else .error (.wrongLength "P-256 public key" 65 kb.length)) := by
  obtain ⟨k, hres, halg, -⟩ := bindPublic_eq_ok hb
  rw [PublicKey.verifyWith_of_bytes? hfit hs hk]
  -- one case per verifier the registry holds
  rcases (resolveVerifier_eq_ok_iff hr).mp hres with ⟨rfl, hv⟩ | ⟨rfl, hv⟩ | ⟨rfl, hv⟩
  · exact .inl ⟨halg, by rw [hv, run_ed25519VerifierWith]⟩
  · exact .inr ⟨halg, _, by rw [hv, run_p256Verifier]⟩
  · exact .inr ⟨halg, _, by rw [hv, run_p256Verifier]⟩

end Standard

/-- Over an implementation of Ed25519 that keeps its promises, a registry initialized with the
standard functions round-trips Ed25519 keys through binding, signing and verification, refuses
seeds of the wrong length, and otherwise answers every verification with a yes or a no. -/
theorem ed25519_keys_round_trip {E : Ed25519Backend} {r : Registry} (hE : E.Correct)
    (hr : r.table = some (registerWith E {})) : StandardFunctions E r where
  roundTrip _ _ _ _ _ _ _ _ _ hseed htPriv htPub hbPriv hbPub hsound hrent := by
    obtain ⟨_, _, hrent⟩ := hrent
    exact sign_verify_round_trip hr hE hseed htPriv htPub hbPriv hbPub hsound hrent
  refusesSeed _ _ _ _ _ _ hb data a _ _ hs hlen := sign_of_seed_length_ne hr hb data a hs hlen
  verifies _ _ _ _ _ _ hb data _ ctx _ _ _ hfit hs hk :=
    verifyWith_of_bound hr hb data ctx hfit hs hk

/-- Ed25519 key derivation and signing, with a verifier that checks only the lengths of the key
and the signature. -/
def Ed25519Backend.lengthChecking : Ed25519Backend :=
  ⟨Ed25519.publicKey, Ed25519.sign, fun key _ sig => key.length == 32 && sig.length == 64⟩

theorem Ed25519Backend.lengthChecking_correct : Ed25519Backend.lengthChecking.Correct where
  publicKey_length seed _ := length_publicKey seed
  sign_length seed msg _ := length_sign seed msg
  verify_sign seed msg _ := by simp [lengthChecking, length_publicKey, length_sign]

theorem ed25519_keys_round_trip_of_lengthChecking :
    Ed25519Backend.lengthChecking.Correct ∧
      ({ table := some (registerWith .lengthChecking {}) } : Registry).table =
        some (registerWith .lengthChecking {}) ∧
      StandardFunctions .lengthChecking { table := some (registerWith .lengthChecking {}) } :=
  ⟨Ed25519Backend.lengthChecking_correct, rfl,
    ed25519_keys_round_trip Ed25519Backend.lengthChecking_correct rfl⟩

end Schemes

end KeyCustody
