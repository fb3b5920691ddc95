import KeyCustody.Resolution
import KeyCustody.Schemes

/-!
# Sessions

A session is a pool, a registry, a key loader and objects kept by name: leases, sensitive memory
of the four kinds, and keys. Storing an object under a name drops the object that was there;
taking an object removes it. Dropping an object gives its buffer back: a lease returns its
segment, memory and keys are disposed.
-/

namespace KeyCustody

/-- The kinds of sensitive memory: untyped, or typed as a public key, a private key or a
signature. -/
inductive MemoryKind where
  | sensitive
  | publicKey
  | privateKey
  | signature
  deriving DecidableEq, Repr

namespace MemoryKind

/-- The name a session gives the kind. -/
def name : MemoryKind → String
  | sensitive => "sensitive"
  | publicKey => "public"
  | privateKey => "private"
  | signature => "signature"

/-- The kind with a given name. -/
def ofName? : String → Option MemoryKind
  | "sensitive" => some sensitive
  | "public" => some publicKey
  | "private" => some privateKey
  | "signature" => some signature
  | _ => none

/-- The buffer kind a typed kind checks tags against. -/
def checked? : MemoryKind → Option BufferKind
  | sensitive => none
  | publicKey => some .publicKey
  | privateKey => some .privateKey
  | signature => some .signature

/-- Copies bytes into memory of this kind. -/
def copy (k : MemoryKind) (a : Allocator) (bytes : List UInt8) (t : Tag) (p : Pool) :
    Except MemoryError Memory × Pool :=
  match k.checked? with
  | some b => Memory.copyAs b a bytes t p
  | none => Memory.copyFrom a bytes t p

/-- Memory of this kind owning a buffer. -/
def own (k : MemoryKind) (o : Owner) (t : Tag) (p : Pool) : Except MemoryError Memory × Pool :=
  match k.checked? with
  | some b => Memory.ownAs b o t p
  | none => Memory.ofOwner o t p

/-- Sensitive memory taken over as this kind. -/
def wrap (k : MemoryKind) (m : Memory) (p : Pool) : Except MemoryError Memory × Pool :=
  match k.checked? with
  | some b => Memory.wrapAs b m p
  | none => (.ok m, p)

/-- How memory of this kind is shown. -/
def describe (k : MemoryKind) (m : Memory) (p : Pool) : String :=
  match k with
  | sensitive => m.describe
  | publicKey => PublicKeyMemory.describe ⟨m⟩
  | privateKey => PrivateKeyMemory.describe ⟨m⟩
  | signature => Signature.describe ⟨m⟩ p

/-- Equality of two values of this kind: a signature also compares algorithms. -/
def same (k : MemoryKind) (a b : Memory) (p : Pool) : Bool :=
  match k with
  | signature => Signature.same ⟨a⟩ ⟨b⟩ p
  | _ => a.same b p

end MemoryKind

/-- An object kept in a session. -/
inductive Item where
  | lease (l : Lease)
  | memory (k : MemoryKind) (m : Memory)
  | privateKey (k : PrivateKey)
  | publicKey (k : PublicKey)

/-- Drops an object, giving its buffer back; a failed return is only counted. -/
def Item.drop (i : Item) (p : Pool) : Pool :=
  match i with
  | .lease l => (p.giveBack l).2
  | .memory _ m => (m.dispose p).2
  | .privateKey k => (k.dispose p).2
  | .publicKey k => (k.dispose p).2

/-- How an object is shown in debug output. -/
def Item.describe (i : Item) (p : Pool) : String :=
  match i with
  | .lease l => l.describe
  | .memory k m => k.describe m p
  | .privateKey k => k.describe
  | .publicKey k => k.describe

/-- How many segments new slabs get, given as data: one count for every segment size, or counts
for some sizes and a default for the others, where a later entry for a size wins. -/
inductive Strategy where
  | constant (count : Nat)
  | table (entries : List (Nat × Nat)) (default : Nat)

/-- The count a strategy gives for a segment size. -/
def Strategy.segments : Strategy → Nat → Nat
  | .constant n, _ => n
  | .table entries d, size => ((entries.reverse.find? (·.1 = size)).map (·.2)).getD d

/-- The state of a session. -/
structure Session where
  pool : Pool
  registry : Registry := {}
  loader : Loader := {}
  items : List (String × Item) := []

namespace Session

/-- A session over a pool, with nothing else yet. -/
def ofPool (p : Pool) : Session := { pool := p }

/-- A session whose pool follows a configuration: by its tiers when no strategy is given, and
then only if the configuration is valid; by the strategy otherwise. -/
def start (config : PoolConfig) (strategy : Option Strategy) : Except MemoryError Session :=
  match strategy with
  | some f => .ok (ofPool (Pool.withStrategy config f.segments))
  | none => (Pool.ofConfig config).map ofPool

/-- The object under a name. -/
def find? (s : Session) (name : String) : Option Item :=
  (s.items.find? (·.1 = name)).map (·.2)

/-- Sets the object under a name without dropping the one there. -/
def set (s : Session) (name : String) (i : Item) : Session :=
  { s with items := s.items.map fun (n, j) => if n = name then (n, i) else (n, j) }

/-- Stores an object under a name, dropping the one that was there. -/
def put (s : Session) (name : String) (i : Item) : Session :=
  match s.find? name with
  | some old => { s.set name i with pool := old.drop s.pool }
  | none => { s with items := s.items ++ [(name, i)] }

/-- Removes the object under a name, without dropping it. -/
def remove (s : Session) (name : String) : Session :=
  { s with items := s.items.filter (·.1 ≠ name) }

/-- Takes the object under a name out of the session, without dropping it. -/
def take? (s : Session) (name : String) : Option (Item × Session) :=
  (s.find? name).map fun i => (i, s.remove name)

/-- Runs a pool operation in the session. -/
def usePool {ε α : Type} (s : Session) (r : Except ε α × Pool) : Except ε α × Session :=
  (r.1, { s with pool := r.2 })

end Session

end KeyCustody
