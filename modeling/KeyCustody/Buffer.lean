import KeyCustody.Pool.Basic

/-!
# Buffers and allocators

A buffer owns some bytes: a segment leased from the pool, whose bytes lie in the pool's arenas, a
heap allocation, or bytes handed in by a caller. An allocator rents buffers of an exact size, zeroed: the pool leases a segment, the heap
allocates; a size of zero is refused by both. Releasing a buffer zeroes and frees it; only a
leased segment can fail to go back, when its pool was disposed.
-/

namespace KeyCustody

/-- Writes `data` at `offset` into `bytes`, when it fits. -/
def overwrite (bytes data : List UInt8) (offset : Nat) : Option (List UInt8) :=
  if offset + data.length ≤ bytes.length then
    some (bytes.take offset ++ data ++ bytes.drop (offset + data.length))
  else none

/-- Bytes with an owner that releases them. -/
inductive Owner where
  | segment (l : Lease)
  | heap (bytes : List UInt8)
  | plain (bytes : List UInt8)

namespace Owner

/-- The bytes of a buffer, a segment's read from the pool's arenas. -/
def bytes : Owner → Pool → List UInt8
  | segment l, p => p.read l
  | heap b, _ => b
  | plain b, _ => b

/-- The number of bytes of a buffer. -/
def length : Owner → Nat
  | segment l => l.segmentSize
  | heap b => b.length
  | plain b => b.length

/-- Copies `b` over the buffer's bytes from the start. -/
def withBytes : Owner → List UInt8 → Pool → Owner × Pool
  | segment l, b, p => (segment l, p.writeLease l 0 b)
  | heap _, b, p => (heap b, p)
  | plain _, b, p => (plain b, p)

/-- Writes `data` into the buffer from byte `offset` on, when it fits. -/
def write : Owner → Nat → List UInt8 → Pool → Option (Owner × Pool)
  | segment l, offset, data, p =>
    if offset + data.length ≤ l.segmentSize then some (segment l, p.writeLease l offset data)
    else none
  | heap b, offset, data, p => (overwrite b data offset).map fun b => (heap b, p)
  | plain b, offset, data, p => (overwrite b data offset).map fun b => (plain b, p)

/-- Releases a buffer: a segment goes back to the pool, other bytes are freed. -/
def release (o : Owner) (p : Pool) : Except MemoryError Unit × Pool :=
  match o with
  | segment l => p.giveBack l
  | heap _ => (.ok (), p)
  | plain _ => (.ok (), p)

/-- Releases a buffer and forgets any failure; the pool still counts it. -/
def drop (o : Owner) (p : Pool) : Pool := (o.release p).2

end Owner

/-- Where buffers are rented from. -/
inductive Allocator where
  | pool
  | heap
  deriving DecidableEq, Repr

/-- Rents a zeroed buffer of exactly `size` bytes. -/
def Allocator.rent (a : Allocator) (size : Nat) (p : Pool) : Except MemoryError Owner × Pool :=
  match a with
  | .pool =>
    match p.rent size with
    | (.ok l, p) => (.ok (.segment l), p)
    | (.error e, p) => (.error e, p)
  | .heap =>
    if size = 0 then (.error (.invalid .zeroSize), p)
    else (.ok (.heap (List.replicate size 0)), p)

end KeyCustody
