/-!
# Rented bits

One bit per segment of a slab, packed into 64-bit words: segment `i` is bit `i % 64` of word
`i / 64`, and a slab of `n` segments has `⌈n / 64⌉` words. Reading a bit past the last word gives
`false`, and setting one there changes nothing.
-/

namespace KeyCustody

/-- A set of segment indices, as packed bits. -/
structure Bitset where
  words : Array UInt64

namespace Bitset

/-- All clear, with room for `n` bits. -/
def new (n : Nat) : Bitset := ⟨Array.replicate ((n + 63) / 64) 0⟩

/-- The mask of bit `i` within its word. -/
def mask (i : Nat) : UInt64 := (1 : UInt64) <<< (i % 64).toUInt64

/-- Whether bit `i` is set. -/
def get (s : Bitset) (i : Nat) : Bool :=
  match s.words[i / 64]? with
  | some w => w &&& mask i != 0
  | none => false

/-- Sets or clears bit `i`. -/
def set (s : Bitset) (i : Nat) (on : Bool) : Bitset :=
  ⟨s.words.modify (i / 64) fun w => if on then w ||| mask i else w &&& ~~~(mask i)⟩

@[simp] theorem size_new (n : Nat) : (new n).words.size = (n + 63) / 64 := by
  simp [new]

end Bitset

end KeyCustody
