import KeyCustody.Binding

/-!
# Resolving keys

A key reference names a key by the text after its last `#`, or by the whole reference when it
has none; an empty name is refused. A loader keeps key bytes with their tags under names, public
and private keys apart, a later entry under a name replacing the earlier one; loading copies the
stored bytes into fresh key memory. Resolving a reference identifies the name, loads the memory
and binds it, and stops at the first failure.
-/

namespace KeyCustody

/-- The key name in a reference: the text after the last `#`. -/
def fragment (reference : String) : String :=
  String.ofList (reference.toList.reverse.takeWhile (· ≠ '#')).reverse

/-- The key name in a reference, unless it is empty. -/
def identify (reference : String) : Except KeyError String :=
  let id := fragment reference
  if id.isEmpty then .error (.emptyKeyId reference) else .ok id

/-- Key bytes kept with their tag. -/
structure StoredKey where
  bytes : List UInt8
  tag : Tag

/-- Public and private key bytes by name. -/
structure Loader where
  publicKeys : List (String × StoredKey) := []
  privateKeys : List (String × StoredKey) := []

/-- Puts an entry under a name, in place of the one there, or last. -/
def store (name : String) (k : StoredKey) : List (String × StoredKey) → List (String × StoredKey)
  | [] => [(name, k)]
  | (n, k') :: rest => if n = name then (name, k) :: rest else (n, k') :: store name k rest

namespace Loader

/-- Keeps public key bytes under a name. -/
def insertPublic (l : Loader) (name : String) (bytes : List UInt8) (t : Tag) : Loader :=
  { l with publicKeys := store name ⟨bytes, t⟩ l.publicKeys }

/-- Keeps private key bytes under a name. -/
def insertPrivate (l : Loader) (name : String) (bytes : List UInt8) (t : Tag) : Loader :=
  { l with privateKeys := store name ⟨bytes, t⟩ l.privateKeys }

/-- The entry under a name. -/
def find? (entries : List (String × StoredKey)) (name : String) : Option StoredKey :=
  (entries.find? (·.1 = name)).map (·.2)

/-- Copies the public key stored under a name into memory rented from `a`. -/
def loadPublic (l : Loader) (name : String) (a : Allocator) (p : Pool) :
    Except KeyError PublicKeyMemory × Pool :=
  match find? l.publicKeys name with
  | none => (.error (.unknownKey name), p)
  | some k =>
    match Memory.copyAs .publicKey a k.bytes k.tag p with
    | (.ok m, p) => (.ok ⟨m⟩, p)
    | (.error e, p) => (.error (.memory e), p)

/-- Copies the private key stored under a name into memory rented from `a`. -/
def loadPrivate (l : Loader) (name : String) (a : Allocator) (p : Pool) :
    Except KeyError PrivateKeyMemory × Pool :=
  match find? l.privateKeys name with
  | none => (.error (.unknownKey name), p)
  | some k =>
    match Memory.copyAs .privateKey a k.bytes k.tag p with
    | (.ok m, p) => (.ok ⟨m⟩, p)
    | (.error e, p) => (.error (.memory e), p)

end Loader

/-- Identifies, loads and binds a public key. -/
def resolvePublicKey (r : Registry) (l : Loader) (reference : String) (a : Allocator) (p : Pool) :
    Except KeyError PublicKey × Pool :=
  match identify reference with
  | .error e => (.error e, p)
  | .ok name =>
    match l.loadPublic name a p with
    | (.error e, p) => (.error e, p)
    | (.ok m, p) => bindPublic r name m {} p

/-- Identifies, loads and binds a private key. -/
def resolvePrivateKey (r : Registry) (l : Loader) (reference : String) (a : Allocator) (p : Pool) :
    Except KeyError PrivateKey × Pool :=
  match identify reference with
  | .error e => (.error e, p)
  | .ok name =>
    match l.loadPrivate name a p with
    | (.error e, p) => (.error e, p)
    | (.ok m, p) => bindPrivate r name m {} p

end KeyCustody
