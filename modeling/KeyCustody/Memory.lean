import KeyCustody.Buffer
import KeyCustody.Text.Hex

/-!
# Sensitive memory

Sensitive memory is a tagged buffer of secret or key bytes that is zeroed and released exactly
once, when it is disposed. It is backed by a buffer it owns, by nothing at all (the *empty*
value, which stays readable and is never released), or by nothing any more once disposed; a
disposed value refuses to be read and has length zero.

Two values are equal when both can be read and hold the same bytes, compared by accumulating the
exclusive-or of the bytes; the tag plays no part, and a disposed value equals nothing, not even
itself. The typed kinds (public key, private key, signature) check the tag's buffer kind, when it
has one, before anything is made, and a signature is equal to another only if their algorithms
agree as well. None of them ever shows its bytes, except a signature, which shows at most its
first four.
-/

namespace KeyCustody

/-- What backs sensitive memory. -/
inductive Backing where
  | owned (o : Owner)
  | empty
  | disposed

/-- A tagged buffer of sensitive bytes. -/
structure Memory where
  backing : Backing
  tag : Tag

/-- Equality of byte strings by accumulating the exclusive-or of corresponding bytes. -/
def constantTimeEq (a b : List UInt8) : Bool :=
  a.length == b.length && (List.zipWith (· ^^^ ·) a b).foldl (· ||| ·) 0 == 0

namespace Memory

/-- Sensitive memory owning `o`; an empty buffer is refused, and released. -/
def ofOwner (o : Owner) (t : Tag) (p : Pool) : Except MemoryError Memory × Pool :=
  if o.length = 0 then (.error (.invalid .emptyOwner), o.drop p)
  else (.ok ⟨.owned o, t⟩, p)

/-- Copies `bytes` into a buffer rented from `a`; an empty value is refused before renting. -/
def copyFrom (a : Allocator) (bytes : List UInt8) (t : Tag) (p : Pool) :
    Except MemoryError Memory × Pool :=
  if bytes.isEmpty then (.error (.invalid .emptyCopy), p)
  else
    match a.rent bytes.length p with
    | (.error e, p) => (.error e, p)
    | (.ok o, p) =>
      let (o, p) := o.withBytes bytes p
      ofOwner o t p

/-- The empty value. -/
def empty (t : Tag) : Memory := ⟨.empty, t⟩

/-- The bytes, unless disposed. -/
def bytes? (m : Memory) (p : Pool) : Except MemoryError (List UInt8) :=
  match m.backing with
  | .owned o => .ok (o.bytes p)
  | .empty => .ok []
  | .disposed => .error (.disposed .memory)

/-- The number of bytes; zero once disposed. -/
def length (m : Memory) : Nat :=
  match m.backing with
  | .owned o => o.length
  | _ => 0

/-- Whether there are no bytes to read. -/
def isEmpty (m : Memory) : Bool := m.length == 0

/-- Whether the memory has been disposed. -/
def isDisposed (m : Memory) : Bool :=
  match m.backing with
  | .disposed => true
  | _ => false

/-- Whether this is the empty value. -/
def isEmptyValue (m : Memory) : Bool :=
  match m.backing with
  | .empty => true
  | _ => false

theorem bytes?_of_isDisposed {m : Memory} (h : m.isDisposed = true) (p : Pool) :
    m.bytes? p = .error (.disposed .memory) := by
  cases hb : m.backing <;> simp [isDisposed, hb] at h
  simp [bytes?, hb]

theorem isDisposed_eq_false_of_bytes? {m : Memory} {p : Pool} {b : List UInt8}
    (h : m.bytes? p = .ok b) : m.isDisposed = false := by
  cases hd : m.isDisposed
  · rfl
  · rw [bytes?_of_isDisposed hd] at h
    cases h

theorem exists_bytes?_of_not_isDisposed {m : Memory} (h : m.isDisposed = false) (p : Pool) :
    ∃ b, m.bytes? p = .ok b := by
  cases hb : m.backing <;> simp [isDisposed, hb] at h <;> simp [bytes?, hb]

/-- Zeroes and releases the buffer; a second dispose, or one of the empty value, does nothing. -/
def dispose (m : Memory) (p : Pool) : Memory × Pool :=
  match m.backing with
  | .owned o => ({ m with backing := .disposed }, o.drop p)
  | _ => (m, p)

/-- Writes `data` at `offset`: refused once disposed, `none` when it does not fit. -/
def write (m : Memory) (data : List UInt8) (offset : Nat) (p : Pool) :
    Except MemoryError (Option (Memory × Pool)) :=
  match m.backing with
  | .owned o => .ok ((o.write offset data p).map fun (o, p) => ({ m with backing := .owned o }, p))
  | .empty => .ok ((overwrite [] data offset).map fun _ => (m, p))
  | .disposed => .error (.disposed .memory)

/-- Content equality: both readable, same bytes. -/
def same (a b : Memory) (p : Pool) : Bool :=
  match a.bytes? p, b.bytes? p with
  | .ok x, .ok y => constantTimeEq x y
  | _, _ => false

/-- What the hash of the memory is computed from: its bytes, or nothing once disposed. -/
def hashInput (m : Memory) (p : Pool) : Option (List UInt8) :=
  match m.bytes? p with
  | .ok b => some b
  | .error _ => none

/-- How sensitive memory is shown. -/
def describe (m : Memory) : String :=
  if m.isDisposed then "SensitiveMemory(disposed)" else "SensitiveMemory(***)"

/-- Checks the tag's buffer kind against the kind being made. -/
def checkKind (t : Tag) (k : BufferKind) : Except MemoryError Unit :=
  match t.kind? with
  | some declared => if declared = k then .ok () else .error (.invalid (.kindMismatch declared k))
  | none => .ok ()

/-- Copies bytes into memory of kind `k`. -/
def copyAs (k : BufferKind) (a : Allocator) (bytes : List UInt8) (t : Tag) (p : Pool) :
    Except MemoryError Memory × Pool :=
  match checkKind t k with
  | .error e => (.error e, p)
  | .ok () => copyFrom a bytes t p

/-- Memory of kind `k` owning `o`; a refused buffer is released. -/
def ownAs (k : BufferKind) (o : Owner) (t : Tag) (p : Pool) : Except MemoryError Memory × Pool :=
  match checkKind t k with
  | .error e => (.error e, o.drop p)
  | .ok () => ofOwner o t p

/-- Memory taken over as kind `k`; refused memory is disposed. -/
def wrapAs (k : BufferKind) (m : Memory) (p : Pool) : Except MemoryError Memory × Pool :=
  match checkKind m.tag k with
  | .error e => (.error e, (m.dispose p).2)
  | .ok () => (.ok m, p)

end Memory

/-- How a view of readable bytes is shown: by their number alone. -/
def describeView (bytes : List UInt8) : String := "MemoryView<" ++ toString bytes.length ++ ">(***)"

/-- Sensitive memory holding a public key. -/
structure PublicKeyMemory where
  memory : Memory

/-- Sensitive memory holding a private key. -/
structure PrivateKeyMemory where
  memory : Memory

/-- Sensitive memory holding a signature. -/
structure Signature where
  memory : Memory

namespace PublicKeyMemory

/-- Equal when the bytes are. -/
def same (a b : PublicKeyMemory) (p : Pool) : Bool := a.memory.same b.memory p

/-- Shows the tag and length, never the bytes. -/
def describe (m : PublicKeyMemory) : String :=
  if m.memory.isDisposed then "PublicKeyMemory(disposed)"
  else "PublicKeyMemory(" ++ m.memory.tag.describe ++ ", " ++ toString m.memory.length ++ " bytes)"

end PublicKeyMemory

namespace PrivateKeyMemory

/-- Equal when the bytes are. -/
def same (a b : PrivateKeyMemory) (p : Pool) : Bool := a.memory.same b.memory p

/-- Shows nothing at all. -/
def describe (_ : PrivateKeyMemory) : String := "PrivateKeyMemory(***)"

/-- How the exposed bytes of a private key are shown: not at all. -/
def describeBytes (_ : List UInt8) : String := "PrivateKeyBytes(***)"

end PrivateKeyMemory

namespace Signature

/-- The algorithm named by the tag. -/
def algorithm? (s : Signature) : Option Algorithm := s.memory.tag.algorithm?

/-- Equal when the algorithms and the bytes are. -/
def same (a b : Signature) (p : Pool) : Bool :=
  a.algorithm? == b.algorithm? && a.memory.same b.memory p

/-- Shows the algorithm, the length and at most the first four bytes. -/
def describe (s : Signature) (p : Pool) : String :=
  match s.memory.bytes? p with
  | .error _ => "Signature(disposed)"
  | .ok b =>
    let alg := match s.algorithm? with
      | some a => a.label
      | none => "unknown"
    "Signature(" ++ alg ++ ", " ++ toString b.length ++ " bytes, " ++ Hex.encode (b.take 4) ++
      (if b.length > 4 then "…" else "") ++ ")"

end Signature

end KeyCustody
