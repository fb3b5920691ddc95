import KeyCustody.Session

/-!
# Session steps

The steps a session runs and what each answers. A step that makes an object stores it under the
name it is given, after making it; a step that consumes an object removes it from the session
before the operation, whether or not the operation succeeds, and a consumed object the operation
refuses is dropped by it: an object of the wrong sort, or a memory kind with no name, is refused
only after the object is taken. Writing into a lease or into sensitive memory must stay within
its bytes.
-/

namespace KeyCustody

/-- Which half of a key pair a step is about. -/
inductive KeySide where
  | privateKey
  | publicKey
  deriving DecidableEq, Repr

/-- What a session step asks for. -/
inductive Step where
  | rent (size : Nat) (name : String)
  | write (target : String) (data : List UInt8) (offset : Nat)
  | release (lease : String)
  | drop (name : String)
  | trim
  | disposePool
  | isPoolDisposed
  | statistics
  | metrics
  | describePool
  | copy (kind : MemoryKind) (bytes : List UInt8) (tag : Tag) (a : Allocator) (name : String)
  | own (kind : MemoryKind) (bytes : List UInt8) (tag : Tag) (name : String)
  /-- A lease taken over as memory of the kind named. -/
  | ownLease (kind : String) (lease : String) (tag : Tag) (name : String)
  | empty (kind : MemoryKind) (tag : Tag) (name : String)
  /-- Sensitive memory taken over as the typed kind named. -/
  | wrap (kind : String) (source name : String)
  | info (name : String)
  | dispose (name : String)
  | compare (a b : String)
  | keyBytes (name : String)
  | install (table : FunctionTable)
  | isInstalled
  | resolve (side : KeySide) (key : FunctionKey)
  | bind (source id : String) (options : Option BindOptions) (name : String)
  | sign (key : String) (data : List UInt8) (a : Allocator) (name : String)
  /-- Verification with the key's own context, or with the one given. -/
  | verify (key signature : String) (data : List UInt8) (context : Option (Option Context))
  | store (side : KeySide) (id : String) (bytes : List UInt8) (tag : Tag)
  | load (side : KeySide) (id : String) (a : Allocator) (name : String)
  | resolveKey (side : KeySide) (reference : String) (a : Allocator) (name : String)
  /-- An Ed25519 key pair from the given seed. -/
  | generate (seed : List UInt8) (a : Allocator) (privateName publicName : String)

/-- What a step answers. -/
inductive Reply where
  | done
  /-- An object just made. -/
  | item (i : Item)
  /-- An object looked up by name. -/
  | info (i : Item)
  | bound (i : Item) (options : Option BindOptions)
  | pair (first second : Item)
  | reclaimed (count : Nat)
  | poolDisposed (disposed : Bool)
  | statistics (s : Statistics)
  | metrics (m : Metrics)
  | text (s : String)
  /-- Equality as the kind defines it, as sensitive memory, and of hashes. -/
  | equality (typed memory hashes : Bool)
  | keyBytes (kind : MemoryKind) (bytes : List UInt8) (tag : Tag)
  | installed (table : FunctionTable) (outcome : Except KeyError Unit)
  | initialized (installed : Bool)
  | function (label : String) (standard : Bool)
  | verdict (valid : Bool)

/-- Why a step fails. -/
inductive StepError where
  | memory (e : MemoryError)
  | key (e : KeyError)
  | noObject (name : String)
  /-- A step given an object of the wrong sort. -/
  | wrongObject (step expected : String)
  /-- A write into an object that is neither a lease nor sensitive memory. -/
  | notWritable
  | unknownKind (name : String)
  | outOfRange (count offset length : Nat)

/-- The message of a step's own errors. -/
def StepError.message : StepError → String
  | memory e => e.message
  | key e => e.message
  | noObject name => "no object named " ++ name
  | wrongObject step expected => step ++ " needs " ++ expected
  | notWritable => "write target must be a lease or sensitive memory"
  | unknownKind name => "unknown memory kind " ++ name
  | outOfRange count offset length =>
    "write of " ++ toString count ++ " bytes at " ++ toString offset ++ " exceeds length " ++
      toString length

namespace Session

/-- The outcome of a step. -/
abbrev Outcome := Except StepError Reply × Session

/-- Answers with a new object and stores it under a name. -/
def keep {ε : Type} (s : Session) (name : String) (fail : ε → StepError)
    (r : Except ε Item × Pool) : Outcome :=
  match r with
  | (.ok i, p) => (.ok (.item i), { s with pool := p }.put name i)
  | (.error e, p) => (.error (fail e), { s with pool := p })

/-- Memory made by an operation, as an object. -/
def asMemory {ε : Type} (k : MemoryKind) (r : Except ε Memory × Pool) : Except ε Item × Pool :=
  (r.1.map (Item.memory k), r.2)

/-- Fails for a name with no object, or one of the wrong sort for a step. -/
def missing (s : Session) (name step expected : String) : Outcome :=
  match s.find? name with
  | none => (.error (.noObject name), s)
  | some _ => (.error (.wrongObject step expected), s)

/-- Fails a step that has taken an object, dropping the object. -/
def refuse (s : Session) (i : Item) (e : StepError) : Outcome :=
  (.error e, { s with pool := i.drop s.pool })

/-- The typed kind with a given name: sensitive memory is no target of a wrap. -/
def typedKind? (kind : String) : Option MemoryKind :=
  (MemoryKind.ofName? kind).filter (·.checked?.isSome)

/-- Runs one step. -/
def step (s : Session) : Step → Outcome
  | .rent size name => s.keep name .memory (let (r, p) := s.pool.rent size; (r.map .lease, p))
  | .write target data offset =>
    match s.find? target with
    | some (.lease l) =>
      if offset + data.length ≤ l.segmentSize then
        (.ok .done, { s with pool := s.pool.writeLease l offset data })
      else (.error (.outOfRange data.length offset l.segmentSize), s)
    | some (.memory .sensitive m) =>
      match m.write data offset s.pool with
      | .error e => (.error (.memory e), s)
      | .ok (some (m, p)) => (.ok .done, { s.set target (.memory .sensitive m) with pool := p })
      | .ok none => (.error (.outOfRange data.length offset m.length), s)
    | some _ => (.error .notWritable, s)
    | none => (.error (.noObject target), s)
  | .release name =>
    match s.take? name with
    | some (.lease l, s) =>
      let (r, p) := s.pool.giveBack l
      ((r.map fun _ => .done).mapError .memory, { s with pool := p })
    | some (i, s) => s.refuse i (.wrongObject "release" "a lease")
    | none => (.error (.noObject name), s)
  | .drop name =>
    match s.find? name with
    | some i => (.ok .done, { s.remove name with pool := i.drop s.pool })
    | none => (.error (.noObject name), s)
  | .trim =>
    let (r, p) := s.pool.trim
    ((r.map .reclaimed).mapError .memory, { s with pool := p })
  | .disposePool => (.ok .done, { s with pool := s.pool.dispose })
  | .isPoolDisposed => (.ok (.poolDisposed s.pool.disposed), s)
  | .statistics => (.ok (.statistics s.pool.statistics), s)
  | .metrics => (.ok (.metrics s.pool.metrics), s)
  | .describePool => (.ok (.text s.pool.describe), s)
  | .copy k bytes t a name => s.keep name .memory (asMemory k (k.copy a bytes t s.pool))
  | .own k bytes t name => s.keep name .memory (asMemory k (k.own (.plain bytes) t s.pool))
  | .ownLease kind lease t name =>
    match s.take? lease with
    | some (.lease l, s) =>
      match MemoryKind.ofName? kind with
      | some k => s.keep name .memory (asMemory k (k.own (.segment l) t s.pool))
      | none => s.refuse (.lease l) (.unknownKind kind)
    | some (i, s) => s.refuse i (.wrongObject "mem_lease" "a lease")
    | none => (.error (.noObject lease), s)
  | .empty k t name =>
    let i := Item.memory k (Memory.empty t)
    (.ok (.item i), s.put name i)
  | .wrap kind source name =>
    match s.take? source with
    | some (.memory .sensitive m, s) =>
      match typedKind? kind with
      | some k => s.keep name .memory (asMemory k (k.wrap m s.pool))
      | none => s.refuse (.memory .sensitive m) (.unknownKind kind)
    | some (i, s) => s.refuse i (.wrongObject "wrap" "sensitive memory")
    | none => (.error (.noObject source), s)
  | .info name =>
    match s.find? name with
    | some i => (.ok (.info i), s)
    | none => (.error (.noObject name), s)
  | .dispose name =>
    match s.find? name with
    | some (.memory k m) =>
      let (m, p) := m.dispose s.pool
      let i := Item.memory k m
      (.ok (.item i), { s.set name i with pool := p })
    | some (.privateKey key) =>
      let (key, p) := key.dispose s.pool
      let i := Item.privateKey key
      (.ok (.item i), { s.set name i with pool := p })
    | some (.publicKey key) =>
      let (key, p) := key.dispose s.pool
      let i := Item.publicKey key
      (.ok (.item i), { s.set name i with pool := p })
    | _ => s.missing name "dispose" "memory or a key"
  | .compare a b =>
    match s.find? a, s.find? b with
    | some (.memory ka ma), some (.memory kb mb) =>
      let typed := if ka = kb then ka.same ma mb s.pool else ma.same mb s.pool
      (.ok (.equality typed (ma.same mb s.pool) (ma.hashInput s.pool == mb.hashInput s.pool)), s)
    | none, _ => (.error (.noObject a), s)
    | _, none => (.error (.noObject b), s)
    | _, _ => (.error (.wrongObject "eq" "memory objects"), s)
  | .keyBytes name =>
    match s.find? name with
    | some (.memory k m) =>
      if k = .publicKey ∨ k = .privateKey then
        match m.bytes? s.pool with
        | .ok b => (.ok (.keyBytes k b m.tag), s)
        | .error e => (.error (.memory e), s)
      else s.missing name "with_key_bytes" "public or private key memory"
    | _ => s.missing name "with_key_bytes" "public or private key memory"
  | .install t =>
    match s.registry.install t with
    | .ok r => (.ok (.installed t (.ok ())), { s with registry := r })
    | .error e => (.ok (.installed t (.error e)), s)
  | .isInstalled => (.ok (.initialized s.registry.isInstalled), s)
  | .resolve .privateKey k =>
    ((s.registry.resolveSigner k).map (fun f => .function f.label f.standard) |>.mapError .key, s)
  | .resolve .publicKey k =>
    ((s.registry.resolveVerifier k).map (fun f => .function f.label f.standard) |>.mapError .key, s)
  | .bind source id o name =>
    match s.take? source with
    | some (.memory .privateKey m, s) =>
      match bindPrivate s.registry id ⟨m⟩ (o.getD {}) s.pool with
      | (.ok key, p) => (.ok (.bound (.privateKey key) o), { s with pool := p }.put name (.privateKey key))
      | (.error e, p) => (.error (.key e), { s with pool := p })
    | some (.memory .publicKey m, s) =>
      match bindPublic s.registry id ⟨m⟩ (o.getD {}) s.pool with
      | (.ok key, p) => (.ok (.bound (.publicKey key) o), { s with pool := p }.put name (.publicKey key))
      | (.error e, p) => (.error (.key e), { s with pool := p })
    | some (i, s) => s.refuse i (.wrongObject "bind" "public or private key memory")
    | none => (.error (.noObject source), s)
  | .sign key data a name =>
    match s.find? key with
    | some (.privateKey k) =>
      let (r, p) := k.sign data a s.pool
      s.keep name .key (r.map (fun sig => .memory .signature sig.memory), p)
    | _ => s.missing key "sign" "a private key"
  | .verify key sig data ctx =>
    match s.find? key, s.find? sig with
    | some (.publicKey k), some (.memory .signature m) =>
      let r := match ctx with
        | some c => k.verifyWith data ⟨m⟩ c s.pool
        | none => k.verify data ⟨m⟩ s.pool
      ((r.map .verdict).mapError .key, s)
    | some (.publicKey _), _ => s.missing sig "verify" "a signature"
    | _, _ => s.missing key "verify" "a public key"
  | .store .privateKey id bytes t => (.ok .done, { s with loader := s.loader.insertPrivate id bytes t })
  | .store .publicKey id bytes t => (.ok .done, { s with loader := s.loader.insertPublic id bytes t })
  | .load .privateKey id a name =>
    let (r, p) := s.loader.loadPrivate id a s.pool
    s.keep name .key (r.map (fun m => .memory .privateKey m.memory), p)
  | .load .publicKey id a name =>
    let (r, p) := s.loader.loadPublic id a s.pool
    s.keep name .key (r.map (fun m => .memory .publicKey m.memory), p)
  | .resolveKey .privateKey reference a name =>
    let (r, p) := resolvePrivateKey s.registry s.loader reference a s.pool
    s.keep name .key (r.map .privateKey, p)
  | .resolveKey .publicKey reference a name =>
    let (r, p) := resolvePublicKey s.registry s.loader reference a s.pool
    s.keep name .key (r.map .publicKey, p)
  | .generate seed a privateName publicName =>
    match Schemes.generateEd25519 seed a s.pool with
    | (.ok (secret, shared), p) =>
      let i := Item.memory .privateKey secret.memory
      let j := Item.memory .publicKey shared.memory
      (.ok (.pair i j), ({ s with pool := p }.put privateName i).put publicName j)
    | (.error e, p) => (.error (.key e), { s with pool := p })

end Session

end KeyCustody
