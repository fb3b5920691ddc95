import KeyCustody.Text.Quoted

/-!
# Facets

A facet is one fact about a buffer of key material: the algorithm it belongs to, the purpose it
serves, how it is encoded, what the bytes stand for, what kind of buffer it is, a free-form
qualifier that selects among functions, and where the key came from. A tag holds at most one
facet of each type.

Each closed facet type has its variant names, which are how it is shown and how it is written in
configuration text, and the algorithms and purposes have short lowercase labels as well.
-/

namespace KeyCustody

/-- The cryptographic algorithm of a key or signature. -/
inductive Algorithm where
  | ed25519 | x25519 | p256 | p384 | p521 | secp256k1 | rsa2048 | rsa4096 | bls12381g1 | bls12381g2
  deriving DecidableEq, Repr

/-- What a key is used for. -/
inductive Purpose where
  | signing | verification | encryption | exchange | derivation | wrapping
  deriving DecidableEq, Repr

/-- How the bytes of a key are laid out. -/
inductive Encoding where
  | raw | ecCompressed | ecUncompressed | der | pkcs8
  deriving DecidableEq, Repr

/-- What the bytes of a buffer stand for. -/
inductive Semantics where
  | direct | hardwareHandle | remoteReference
  deriving DecidableEq, Repr

/-- What kind of buffer the bytes make up. -/
inductive BufferKind where
  | publicKey | privateKey | signature | digest | nonce
  deriving DecidableEq, Repr

/-- A free-form name that selects one of several functions for the same algorithm and purpose. -/
structure Qualifier where
  text : String
  deriving DecidableEq, Repr

namespace Algorithm

/-- Every algorithm, in declaration order. -/
def all : List Algorithm :=
  [ed25519, x25519, p256, p384, p521, secp256k1, rsa2048, rsa4096, bls12381g1, bls12381g2]

/-- The variant name. -/
def name : Algorithm → String
  | ed25519 => "Ed25519" | x25519 => "X25519" | p256 => "P256" | p384 => "P384"
  | p521 => "P521" | secp256k1 => "Secp256k1" | rsa2048 => "Rsa2048" | rsa4096 => "Rsa4096"
  | bls12381g1 => "Bls12381G1" | bls12381g2 => "Bls12381G2"

/-- The lowercase label. -/
def label : Algorithm → String
  | ed25519 => "ed25519" | x25519 => "x25519" | p256 => "p256" | p384 => "p384"
  | p521 => "p521" | secp256k1 => "secp256k1" | rsa2048 => "rsa2048" | rsa4096 => "rsa4096"
  | bls12381g1 => "bls12381g1" | bls12381g2 => "bls12381g2"

end Algorithm

namespace Purpose

/-- Every purpose, in declaration order. -/
def all : List Purpose := [signing, verification, encryption, exchange, derivation, wrapping]

/-- The variant name. -/
def name : Purpose → String
  | signing => "Signing" | verification => "Verification" | encryption => "Encryption"
  | exchange => "Exchange" | derivation => "Derivation" | wrapping => "Wrapping"

/-- The lowercase label. -/
def label : Purpose → String
  | signing => "signing" | verification => "verification" | encryption => "encryption"
  | exchange => "exchange" | derivation => "derivation" | wrapping => "wrapping"

end Purpose

namespace Encoding

/-- Every encoding, in declaration order. -/
def all : List Encoding := [raw, ecCompressed, ecUncompressed, der, pkcs8]

/-- The variant name. -/
def name : Encoding → String
  | raw => "Raw" | ecCompressed => "EcCompressed" | ecUncompressed => "EcUncompressed"
  | der => "Der" | pkcs8 => "Pkcs8"

end Encoding

namespace Semantics

/-- Every meaning, in declaration order. -/
def all : List Semantics := [direct, hardwareHandle, remoteReference]

/-- The variant name. -/
def name : Semantics → String
  | direct => "Direct" | hardwareHandle => "HardwareHandle" | remoteReference => "RemoteReference"

end Semantics

namespace BufferKind

/-- Every buffer kind, in declaration order. -/
def all : List BufferKind := [publicKey, privateKey, signature, digest, nonce]

/-- The variant name. -/
def name : BufferKind → String
  | publicKey => "PublicKey" | privateKey => "PrivateKey" | signature => "Signature"
  | digest => "Digest" | nonce => "Nonce"

end BufferKind

/-- How a qualifier is shown: its text quoted, inside `Qualifier(…)`. -/
def Qualifier.describe (q : Qualifier) : String :=
  "Qualifier(" ++ Text.quote q.text ++ ")"

/-- One fact about a buffer. -/
inductive Facet where
  | algorithm (a : Algorithm)
  | purpose (p : Purpose)
  | encoding (e : Encoding)
  | semantics (s : Semantics)
  | kind (k : BufferKind)
  | qualifier (q : Qualifier)
  /-- Where the key material came from, in free text. -/
  | origin (text : String)
  deriving DecidableEq, Repr

/-- The types of facet; a tag holds at most one facet of each. -/
inductive FacetType where
  | algorithm | purpose | encoding | semantics | kind | qualifier | origin
  deriving DecidableEq, Repr

namespace Facet

/-- The type of a facet. -/
def type : Facet → FacetType
  | algorithm _ => .algorithm
  | purpose _ => .purpose
  | encoding _ => .encoding
  | semantics _ => .semantics
  | kind _ => .kind
  | qualifier _ => .qualifier
  | origin _ => .origin

/-- How a facet is shown: closed facets by their variant name, texts quoted inside the type's name. -/
def describe : Facet → String
  | algorithm a => a.name
  | purpose p => p.name
  | encoding e => e.name
  | semantics s => s.name
  | kind k => k.name
  | qualifier q => q.describe
  | origin text => "KeyOrigin(" ++ Text.quote text ++ ")"

end Facet

end KeyCustody
