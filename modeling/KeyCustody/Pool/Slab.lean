import KeyCustody.Pool.Bitset
import KeyCustody.Error

/-!
# Slabs

A slab cuts one arena into `count` equal segments. It keeps the free segments as a stack, whose
top is handed out next and onto which a returned segment goes, and marks rented segments in a
bitset. A new slab hands out segments `0, 1, 2, …` in order. Its byte length is
`segmentSize * count`, which must fit a 64-bit word.

An arena is a run of bytes shared by its slab and the leases into it; arenas are kept apart from
the slabs, under a key, because a lease can outlive its slab. Writing and zeroing change bytes in
place and never the length.
-/

namespace KeyCustody

/-- The largest value of a 64-bit word, the bound on sizes and lengths. -/
def wordLimit : Nat := Nat.pow 2 64 - 1

namespace Arena

/-- The `length` bytes from `offset` on. -/
def read (a : List UInt8) (offset length : Nat) : List UInt8 := (a.drop offset).take length

/-- Writes `data` from byte `offset` on; what falls past the end is lost. -/
def write (a : List UInt8) (offset : Nat) (data : List UInt8) : List UInt8 :=
  a.mapIdx fun j b => if offset ≤ j ∧ j < offset + data.length then data.getD (j - offset) 0 else b

/-- Zeroes the `length` bytes from `offset` on. -/
def zero (a : List UInt8) (offset length : Nat) : List UInt8 :=
  write a offset (List.replicate length 0)

/-- Changes the arena under key `k` of a store of arenas. -/
def modify (arenas : Nat → List UInt8) (k : Nat) (f : List UInt8 → List UInt8) :
    Nat → List UInt8 :=
  fun j => if j = k then f (arenas j) else arenas j

end Arena

/-- Equal segments of one arena. -/
structure Slab where
  id : Nat
  segmentSize : Nat
  segmentCount : Nat
  /-- The key of the arena the segments lie in. -/
  arena : Nat
  /-- The free segments, the next one to hand out first. -/
  free : List Nat
  rented : Bitset

namespace Slab

/-- A slab with every segment free, over the arena keyed by its id, or why it cannot be made. -/
def create (id segmentSize count : Nat) : Except MemoryError Slab :=
  if segmentSize = 0 ∨ count = 0 then .error (.invalid (.emptySlab segmentSize count))
  else if segmentSize * count > wordLimit then .error (.invalid (.slabOverflow count segmentSize))
  else .ok ⟨id, segmentSize, count, id, List.range count, Bitset.new count⟩

/-- The byte length of the arena. -/
def byteLength (s : Slab) : Nat := s.segmentSize * s.segmentCount

/-- Whether every segment is free. -/
def isIdle (s : Slab) : Bool := s.free.length == s.segmentCount

/-- Hands out the top free segment. -/
def rent? (s : Slab) : Option (Nat × Slab) :=
  match s.free with
  | [] => none
  | i :: rest => some (i, { s with free := rest, rented := s.rented.set i true })

/-- Takes a segment back; an index outside the slab or not rented is refused. -/
def release (s : Slab) (i : Nat) : Except MemoryError Slab :=
  if i ≥ s.segmentCount then
    .error (.corruption ("segment " ++ toString i ++ " is outside slab " ++ toString s.id ++ " (" ++
      toString s.segmentCount ++ " segments)"))
  else if !s.rented.get i then .error (.doubleRelease s.id i)
  else .ok { s with free := i :: s.free, rented := s.rented.set i false }

/-- The byte offset of segment `i` in the arena; an offset past a word is refused. -/
def offsetOf? (s : Slab) (i : Nat) : Option Nat :=
  if i < s.segmentCount then
    if i * s.segmentSize > wordLimit then none else some (i * s.segmentSize)
  else none

/-- Zeroes segment `i` of the slab in its arena, if the slab has one. -/
def zeroSegment (s : Slab) (arenas : Nat → List UInt8) (i : Nat) : Nat → List UInt8 :=
  match s.offsetOf? i with
  | some offset => Arena.modify arenas s.arena (Arena.zero · offset s.segmentSize)
  | none => arenas

/-- Zeroes every free segment of the slab in its arena. -/
def zeroFree (s : Slab) (arenas : Nat → List UInt8) : Nat → List UInt8 :=
  s.free.foldl s.zeroSegment arenas

end Slab

end KeyCustody
