import KeyCustody.Tag

/-!
# Preset tags

The tags of the common key buffers. Each lists the algorithm, the purpose, the buffer kind, the
encoding and then `direct` semantics; a signature tag lists only the algorithm and the kind.
-/

namespace KeyCustody.Tag

/-- A key tag from its algorithm, purpose, kind and encoding. -/
def keyTag (a : Algorithm) (p : Purpose) (k : BufferKind) (e : Encoding) : Tag :=
  ofFacets [.algorithm a, .purpose p, .kind k, .encoding e, .semantics .direct]

/-- An Ed25519 public key: 32 raw bytes for verification. -/
def ed25519PublicKey : Tag := keyTag .ed25519 .verification .publicKey .raw

/-- An Ed25519 private key: the 32-byte seed, for signing. -/
def ed25519PrivateKey : Tag := keyTag .ed25519 .signing .privateKey .raw

/-- A P-256 public key as an uncompressed point. -/
def p256PublicKey : Tag := keyTag .p256 .verification .publicKey .ecUncompressed

/-- A P-256 private scalar. -/
def p256PrivateKey : Tag := keyTag .p256 .signing .privateKey .raw

/-- A secp256k1 public key as a compressed point. -/
def secp256k1PublicKey : Tag := keyTag .secp256k1 .verification .publicKey .ecCompressed

/-- A secp256k1 private scalar. -/
def secp256k1PrivateKey : Tag := keyTag .secp256k1 .signing .privateKey .raw

/-- An X25519 public key. -/
def x25519PublicKey : Tag := keyTag .x25519 .exchange .publicKey .raw

/-- An X25519 private key. -/
def x25519PrivateKey : Tag := keyTag .x25519 .exchange .privateKey .raw

/-- The tag of a signature made with algorithm `a`. -/
def signature (a : Algorithm) : Tag := ofFacets [.algorithm a, .kind .signature]

end KeyCustody.Tag
