import KeyCustody.Key

/-!
# Signing and verification dispatch

A private key signs by handing exactly its own bytes, the message, the allocator and its context
to its signer, and wraps the buffer it gets back, untouched, as a signature tagged with the key's
algorithm, the signature kind and, when the key was bound with one, its qualifier. A disposed key
refuses before its signer is ever called; the signer's own errors come back unchanged; an empty
buffer is refused, and released.

A public key verifies with its own context unless given another. It first refuses a signature that
names another algorithm, whatever has been disposed; then a disposed signature; then its own
disposed memory; and otherwise answers what its verifier answers on the key bytes, the message,
the signature bytes and the context, in that order. So a signature is refused by every public key
of another algorithm than the key that made it.

Main statement: `signing_and_verification_dispatch`.
-/

namespace KeyCustody

namespace Memory

/-- Memory of kind `k` owning a buffer, under a tag that declares kind `k`, is the buffer itself,
unless the buffer is empty. -/
theorem ownAs_of_kind {t : Tag} {k : BufferKind} (h : t.kind? = some k) (o : Owner) (p : Pool) :
    ownAs k o t p =
      if o.length = 0 then (.error (.invalid .emptyOwner), o.drop p) else (.ok ⟨.owned o, t⟩, p) := by
  simp only [ownAs, checkKind, h, if_true]
  rfl

end Memory

namespace PrivateKey

/-- A signature's tag lists the key's algorithm, the signature kind and the key's qualifier, if
it has one, in that order. -/
theorem signatureTag_entries (k : PrivateKey) :
    k.signatureTag.entries =
      [.algorithm k.algorithm, .kind .signature] ++ (k.qualifier.map Facet.qualifier).toList := by
  unfold signatureTag
  cases k.qualifier <;> rfl

theorem algorithm?_signatureTag (k : PrivateKey) : k.signatureTag.algorithm? = some k.algorithm := by
  simp only [Tag.algorithm?, signatureTag_entries]
  rfl

theorem kind?_signatureTag (k : PrivateKey) : k.signatureTag.kind? = some .signature := by
  simp only [Tag.kind?, signatureTag_entries]
  rfl

/-- A disposed key refuses to sign, and its signer is not called. -/
theorem sign_of_isDisposed {k : PrivateKey} (h : k.isDisposed = true) (data : List UInt8)
    (a : Allocator) (p : Pool) : k.sign data a p = (.error (.memory (.disposed .memory)), p) := by
  simp only [sign, Memory.bytes?_of_isDisposed h]

/-- A live key hands its bytes, the message, the allocator and its context to its signer, and
makes the buffer it gets back a signature under the key's signature tag. -/
theorem sign_of_bytes? {k : PrivateKey} {p : Pool} {secret : List UInt8}
    (h : k.memory.memory.bytes? p = .ok secret) (data : List UInt8) (a : Allocator) :
    k.sign data a p =
      match k.signer.run secret data a k.context p with
      | (.error e, p') => (.error e, p')
      | (.ok o, p') =>
        if o.length = 0 then (.error (.memory (.invalid .emptyOwner)), o.drop p')
        else (.ok ⟨⟨.owned o, k.signatureTag⟩⟩, p') := by
  simp only [sign, h]
  cases k.signer.run secret data a k.context p with
  | mk r p' =>
    cases r with
    | error e => rfl
    | ok o =>
      -- the signature tag declares the signature kind, so only an empty buffer is refused
      dsimp only
      rw [Memory.ownAs_of_kind k.kind?_signatureTag]
      by_cases hz : o.length = 0
      · simp only [hz, if_true]
      · simp only [hz, if_false]

/-- A signature made by a key names the key's algorithm. -/
theorem algorithm?_of_sign {k : PrivateKey} {data : List UInt8} {a : Allocator} {p p' : Pool}
    {sig : Signature} (h : k.sign data a p = (.ok sig, p')) : sig.algorithm? = some k.algorithm := by
  cases hb : k.memory.memory.bytes? p with
  | error e =>
    simp only [sign, hb] at h
    cases h
  | ok secret =>
    rw [sign_of_bytes? hb] at h
    split at h
    · cases h
    · split at h
      · cases h
      · cases h
        exact k.algorithm?_signatureTag

end PrivateKey

namespace PublicKey

variable (k : PublicKey) (data : List UInt8) {s : Signature} (ctx : Option Context) (p : Pool)

/-- A signature naming another algorithm is refused first, whatever has been disposed. -/
theorem verifyWith_of_mismatch {a : Algorithm} (h : s.algorithm? = some a) (hne : a ≠ k.algorithm) :
    k.verifyWith data s ctx p = .error (.algorithmMismatch a k.algorithm) := by
  simp only [verifyWith, h, ne_eq, hne, not_false_eq_true, if_true]
  rfl

variable {k data ctx p}

/-- The algorithm check passes a signature that names no algorithm or the key's. -/
theorem verifyWith_of_fits (h : s.algorithm? = none ∨ s.algorithm? = some k.algorithm) :
    k.verifyWith data s ctx p =
      match s.memory.bytes? p, k.memory.memory.bytes? p with
      | .error e, _ => .error (.memory e)
      | .ok _, .error e => .error (.memory e)
      | .ok sb, .ok kb => k.verifier.run kb data sb ctx := by
  unfold verifyWith
  rcases h with h | h <;> simp only [h, ne_eq, not_true_eq_false, if_false] <;>
    cases s.memory.bytes? p <;> cases k.memory.memory.bytes? p <;> rfl

theorem verifyWith_of_signature_disposed (h : s.algorithm? = none ∨ s.algorithm? = some k.algorithm)
    (hs : s.memory.isDisposed = true) :
    k.verifyWith data s ctx p = .error (.memory (.disposed .memory)) := by
  rw [verifyWith_of_fits h, Memory.bytes?_of_isDisposed hs]

theorem verifyWith_of_key_disposed (h : s.algorithm? = none ∨ s.algorithm? = some k.algorithm)
    {sb : List UInt8} (hs : s.memory.bytes? p = .ok sb) (hk : k.isDisposed = true) :
    k.verifyWith data s ctx p = .error (.memory (.disposed .memory)) := by
  rw [verifyWith_of_fits h, hs, Memory.bytes?_of_isDisposed hk]

/-- Past the checks, the verifier decides on the key bytes, the message, the signature bytes and
the context. -/
theorem verifyWith_of_bytes? (h : s.algorithm? = none ∨ s.algorithm? = some k.algorithm)
    {sb kb : List UInt8} (hs : s.memory.bytes? p = .ok sb) (hk : k.memory.memory.bytes? p = .ok kb) :
    k.verifyWith data s ctx p = k.verifier.run kb data sb ctx := by
  rw [verifyWith_of_fits h, hs, hk]

end PublicKey

/-- Signing hands a live key's bytes, the message, the allocator and the key's context to its
signer and returns its error unchanged, or the buffer it made, unless empty, as a signature
tagged with the key's algorithm, the signature kind and its qualifier if any; a disposed key
refuses without calling it. Verifying uses the key's context unless given one, refuses a
signature of another algorithm first, then a disposed signature, then a disposed key, and
otherwise answers what the verifier answers on the key bytes, the message, the signature bytes
and the context. So a key's signatures are refused by public keys of any other algorithm. -/
theorem signing_and_verification_dispatch :
    (∀ (k : PrivateKey) (data : List UInt8) (a : Allocator) (p : Pool), k.isDisposed = true →
      k.sign data a p = (.error (.memory (.disposed .memory)), p)) ∧
    (∀ (k : PrivateKey) (data : List UInt8) (a : Allocator) (p : Pool) (secret : List UInt8),
      k.memory.memory.bytes? p = .ok secret →
      k.sign data a p =
        match k.signer.run secret data a k.context p with
        | (.error e, p') => (.error e, p')
        | (.ok o, p') =>
          if o.length = 0 then (.error (.memory (.invalid .emptyOwner)), o.drop p')
          else (.ok ⟨⟨.owned o, k.signatureTag⟩⟩, p')) ∧
    (∀ k : PrivateKey, k.signatureTag.entries =
      [.algorithm k.algorithm, .kind .signature] ++ (k.qualifier.map Facet.qualifier).toList) ∧
    (∀ (k : PublicKey) (data : List UInt8) (s : Signature) (p : Pool),
      k.verify data s p = k.verifyWith data s k.context p) ∧
    (∀ (k : PublicKey) (data : List UInt8) (s : Signature) (ctx : Option Context) (p : Pool)
      (a : Algorithm), s.algorithm? = some a → a ≠ k.algorithm →
      k.verifyWith data s ctx p = .error (.algorithmMismatch a k.algorithm)) ∧
    (∀ (k : PublicKey) (data : List UInt8) (s : Signature) (ctx : Option Context) (p : Pool),
      s.algorithm? = none ∨ s.algorithm? = some k.algorithm → s.memory.isDisposed = true →
      k.verifyWith data s ctx p = .error (.memory (.disposed .memory))) ∧
    (∀ (k : PublicKey) (data : List UInt8) (s : Signature) (ctx : Option Context) (p : Pool)
      (sb : List UInt8), s.algorithm? = none ∨ s.algorithm? = some k.algorithm →
      s.memory.bytes? p = .ok sb → k.isDisposed = true →
      k.verifyWith data s ctx p = .error (.memory (.disposed .memory))) ∧
    (∀ (k : PublicKey) (data : List UInt8) (s : Signature) (ctx : Option Context) (p : Pool)
      (sb kb : List UInt8), s.algorithm? = none ∨ s.algorithm? = some k.algorithm →
      s.memory.bytes? p = .ok sb → k.memory.memory.bytes? p = .ok kb →
      k.verifyWith data s ctx p = k.verifier.run kb data sb ctx) ∧
    (∀ (k : PrivateKey) (data : List UInt8) (a : Allocator) (p p' : Pool) (sig : Signature),
      k.sign data a p = (.ok sig, p') → ∀ (P : PublicKey) (data' : List UInt8)
      (ctx : Option Context) (q : Pool), P.algorithm ≠ k.algorithm →
      P.verifyWith data' sig ctx q = .error (.algorithmMismatch k.algorithm P.algorithm)) := by
  refine ⟨fun k data a p h => k.sign_of_isDisposed h data a p,
    fun _ data a _ _ h => PrivateKey.sign_of_bytes? h data a, PrivateKey.signatureTag_entries,
    fun _ _ _ _ => rfl, fun k data _ ctx p _ h hne => k.verifyWith_of_mismatch data ctx p h hne,
    fun _ _ _ _ _ h hs => PublicKey.verifyWith_of_signature_disposed h hs,
    fun _ _ _ _ _ _ h hs hk => PublicKey.verifyWith_of_key_disposed h hs hk,
    fun _ _ _ _ _ _ _ h hs hk => PublicKey.verifyWith_of_bytes? h hs hk, ?_⟩
  intro k data a p p' sig hsign P data' ctx q hne
  -- the signature names the algorithm of the key that made it
  exact P.verifyWith_of_mismatch data' ctx q (PrivateKey.algorithm?_of_sign hsign) (Ne.symm hne)

end KeyCustody
