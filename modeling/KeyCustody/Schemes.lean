import KeyCustody.Registry
import KeyCustody.Memory
import KeyCustody.Tag.Presets
import KeyCustody.Curve.Ed25519
import KeyCustody.Curve.P256
import KeyCustody.Curve.Der

/-!
# Standard signature schemes

The library's own functions: Ed25519 signing and verification, over an implementation of Ed25519
that is by default the library's own curve, and ECDSA P-256 / SHA-256 verification over
uncompressed public keys, with fixed-form signatures by default and DER ones under the qualifier
`asn1`. Only a key or seed of the wrong length is an error; any other fault
of a key or a signature is a failed verification. Key pairs are made from a 32-byte seed: the
seed is copied into private key memory first, then the public key into public key memory.
-/

namespace KeyCustody.Schemes

/-- The qualifier that selects DER-encoded ECDSA signatures. -/
def derQualifier : Qualifier := ⟨"asn1"⟩

/-- Refuses bytes whose length is not `expected`. -/
def checkLength (what : String) (bytes : List UInt8) (expected : Nat) : Except KeyError Unit :=
  if bytes.length = expected then .ok () else .error (.wrongLength what expected bytes.length)

/-- An implementation of Ed25519: the public key of a seed, the signature of a message under a
seed, and whether a signature of a message is valid under a public key. -/
structure Ed25519Backend where
  publicKey : List UInt8 → List UInt8
  sign : List UInt8 → List UInt8 → List UInt8
  verify : List UInt8 → List UInt8 → List UInt8 → Bool

/-- Ed25519 on the curve of `KeyCustody.Ed25519`. -/
def Ed25519Backend.standard : Ed25519Backend := ⟨Ed25519.publicKey, Ed25519.sign, Ed25519.verify⟩

/-- Ed25519 signing from a 32-byte seed, into a 64-byte buffer. -/
def ed25519SignerWith (E : Ed25519Backend) : Signer where
  label := "ed25519"
  standard := true
  run seed data a _ p :=
    match checkLength "Ed25519 seed" seed 32 with
    | .error e => (.error e, p)
    | .ok () =>
      let sig := E.sign seed data
      match a.rent 64 p with
      | (.error e, p) => (.error (.memory e), p)
      | (.ok o, p) =>
        let (o, p) := o.withBytes sig p
        (.ok o, p)

/-- Ed25519 verification under a 32-byte public key. -/
def ed25519VerifierWith (E : Ed25519Backend) : Verifier where
  label := "ed25519"
  standard := true
  run key data sig _ := do
    checkLength "Ed25519 public key" key 32
    return E.verify key data sig

/-- ECDSA P-256 verification under a 65-byte public key, with a reader of the signature. -/
def p256Verifier (pair : List UInt8 → Option (List UInt8 × List UInt8)) : Verifier where
  label := "p256"
  standard := true
  run key data sig _ := do
    checkLength "P-256 public key" key 65
    return P256.verifyWith pair key data sig

/-- The standard functions over an Ed25519 implementation, in the order they are registered. -/
def registrationsWith (E : Ed25519Backend) : List Registration :=
  [.signer ⟨.ed25519, .signing, none⟩ (ed25519SignerWith E),
   .verifier ⟨.ed25519, .verification, none⟩ (ed25519VerifierWith E),
   .verifier ⟨.p256, .verification, none⟩ (p256Verifier P256.fixedPair),
   .verifier ⟨.p256, .verification, some derQualifier⟩ (p256Verifier Der.pair)]

/-- Registers every standard function over an Ed25519 implementation. -/
def registerWith (E : Ed25519Backend) (t : FunctionTable) : FunctionTable :=
  (registrationsWith E).foldl FunctionTable.apply t

/-- The library's standard functions, in the order they are registered. -/
def registrations : List Registration := registrationsWith .standard

/-- Registers every standard function. -/
def register (t : FunctionTable) : FunctionTable := registerWith .standard t

/-- An Ed25519 key pair from a 32-byte seed, in buffers rented from `a`; when the public half
cannot be made, the private half is released. -/
def generateEd25519 (seed : List UInt8) (a : Allocator) (p : Pool) :
    Except KeyError (PrivateKeyMemory × PublicKeyMemory) × Pool :=
  match Memory.copyAs .privateKey a seed Tag.ed25519PrivateKey p with
  | (.error e, p) => (.error (.memory e), p)
  | (.ok priv, p) =>
    match Memory.copyAs .publicKey a (Ed25519.publicKey seed) Tag.ed25519PublicKey p with
    | (.error e, p) => (.error (.memory e), (priv.dispose p).2)
    | (.ok pub, p) => (.ok (⟨priv⟩, ⟨pub⟩), p)

end KeyCustody.Schemes
