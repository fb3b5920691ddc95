import KeyCustody.Memory
import KeyCustody.Registry
import KeyCustody.Tag.Presets

/-!
# Keys

A key is sensitive key memory bound to an id, an algorithm and the function that uses it. A
private key signs: it hands its bytes, the message, an allocator and its context to its signer,
and wraps the buffer it gets back as a signature tagged with the key's algorithm and, when the key
was bound with one, its qualifier. A public key verifies: a signature that names another
algorithm is refused first, then a disposed signature, then a disposed key; otherwise the
verifier decides.
-/

namespace KeyCustody

/-- Private key memory bound to a signer. -/
structure PrivateKey where
  id : String
  algorithm : Algorithm
  qualifier : Option Qualifier
  memory : PrivateKeyMemory
  signer : Signer
  context : Option Context

/-- Public key memory bound to a verifier. -/
structure PublicKey where
  id : String
  algorithm : Algorithm
  memory : PublicKeyMemory
  verifier : Verifier
  context : Option Context

namespace PrivateKey

/-- The tag of the signatures this key makes. -/
def signatureTag (k : PrivateKey) : Tag :=
  match k.qualifier with
  | some q => (Tag.signature k.algorithm).add (.qualifier q)
  | none => Tag.signature k.algorithm

/-- Signs `data`, renting the signature's buffer from `a`. -/
def sign (k : PrivateKey) (data : List UInt8) (a : Allocator) (p : Pool) :
    Except KeyError Signature × Pool :=
  match k.memory.memory.bytes? p with
  | .error e => (.error (.memory e), p)
  | .ok secret =>
    match k.signer.run secret data a k.context p with
    | (.error e, p) => (.error e, p)
    | (.ok owner, p) =>
      match Memory.ownAs .signature owner k.signatureTag p with
      | (.error e, p) => (.error (.memory e), p)
      | (.ok m, p) => (.ok ⟨m⟩, p)

/-- Disposes the key memory. -/
def dispose (k : PrivateKey) (p : Pool) : PrivateKey × Pool :=
  let (m, p) := k.memory.memory.dispose p
  ({ k with memory := ⟨m⟩ }, p)

/-- Whether the key memory has been disposed. -/
def isDisposed (k : PrivateKey) : Bool := k.memory.memory.isDisposed

/-- Shows the id and algorithm; the memory shows nothing. -/
def describe (k : PrivateKey) : String :=
  "PrivateKey \x7b id: " ++ Text.quote k.id ++ ", algorithm: " ++ k.algorithm.name ++ ", memory: " ++
    k.memory.describe ++ ", .. \x7d"

end PrivateKey

namespace PublicKey

/-- Verifies `sig` over `data` with an explicit context. -/
def verifyWith (k : PublicKey) (data : List UInt8) (sig : Signature) (ctx : Option Context)
    (p : Pool) : Except KeyError Bool := do
  if let some a := sig.algorithm? then
    if a ≠ k.algorithm then throw (.algorithmMismatch a k.algorithm)
  let sigBytes ← (sig.memory.bytes? p).mapError KeyError.memory
  let keyBytes ← (k.memory.memory.bytes? p).mapError KeyError.memory
  k.verifier.run keyBytes data sigBytes ctx

/-- Verifies `sig` over `data` with the context given at binding. -/
def verify (k : PublicKey) (data : List UInt8) (sig : Signature) (p : Pool) :
    Except KeyError Bool :=
  k.verifyWith data sig k.context p

/-- Disposes the key memory. -/
def dispose (k : PublicKey) (p : Pool) : PublicKey × Pool :=
  let (m, p) := k.memory.memory.dispose p
  ({ k with memory := ⟨m⟩ }, p)

/-- Whether the key memory has been disposed. -/
def isDisposed (k : PublicKey) : Bool := k.memory.memory.isDisposed

/-- Shows the id, the algorithm and the key memory. -/
def describe (k : PublicKey) : String :=
  "PublicKey \x7b id: " ++ Text.quote k.id ++ ", algorithm: " ++ k.algorithm.name ++ ", memory: " ++
    k.memory.describe ++ ", .. \x7d"

end PublicKey

end KeyCustody
