import KeyCustody.Session

/-!
# Debug output masks secret bytes

What debug output shows of an object never depends on the bytes it holds. `Item.Alike p₁ p₂ i₁ i₂`
says that two objects, read in two pools, differ at most in their bytes: memory of the same kind
with the same tag, length and disposal state, keys with the same id and algorithm as well, leases
of the same slab, segment and length. Such objects are shown alike, whatever their bytes.

A signature is the one object that shows some of its bytes: at most the first four, as lowercase
hexadecimal, followed by `…` exactly when there are more, and `Signature(disposed)` once it is
disposed. So two signatures are shown alike as soon as their tags, their lengths and their first
four bytes agree. A view of readable bytes shows their number, and the exposed bytes of a private
key show nothing.

Main statement: `describe_reveals_no_secret_bytes`.
-/

namespace KeyCustody

/-! ## Lowercase hexadecimal -/

namespace Hex

/-- The digits that hexadecimal text is written with: `0`–`9`, then `a`–`f`. -/
def IsLowerDigit (c : Char) : Prop := ('0' ≤ c ∧ c ≤ '9') ∨ ('a' ≤ c ∧ c ≤ 'f')

theorem digit_isLowerDigit {n : Nat} (h : n < 16) : IsLowerDigit (digit n) := by
  have hall : ∀ k : Fin 16, IsLowerDigit (digit k) := by
    unfold IsLowerDigit
    decide
  exact hall ⟨n, h⟩

/-- Each digit reads back as the nibble it was written for. -/
theorem digitValue?_digit {n : Nat} (h : n < 16) : digitValue? (digit n) = some n := by
  have hall : ∀ k : Fin 16, digitValue? (digit k) = some k.val := by decide
  exact hall ⟨n, h⟩

/-- Reading the digits of bytes gives the bytes back. -/
theorem decodeChars_flatMap_byteDigits (bs : List UInt8) :
    decodeChars (bs.flatMap byteDigits) = .ok bs := by
  induction bs with
  | nil => rfl
  | cons b bs ih =>
    have hhi : b.toNat / 16 < 16 := by have := b.toNat_lt; omega
    have hlo : b.toNat % 16 < 16 := Nat.mod_lt _ (by decide)
    -- the two nibbles put back together are the byte
    have hbyte : (b.toNat / 16 * 16 + b.toNat % 16).toUInt8 = b := by
      rw [Nat.div_add_mod']
      exact UInt8.ofNat_toNat
    simp only [List.flatMap_cons, byteDigits, List.cons_append, List.nil_append, decodeChars,
      digitValue?_digit hhi, digitValue?_digit hlo, ih, hbyte]
    rfl

theorem length_flatMap_byteDigits (bs : List UInt8) :
    (bs.flatMap byteDigits).length = 2 * bs.length := by
  induction bs with
  | nil => rfl
  | cons b bs ih =>
    rw [List.flatMap_cons, List.length_append, byteDigits_length, ih, List.length_cons]
    omega

theorem length_encode (bs : List UInt8) : (encode bs).length = 2 * bs.length := by
  rw [encode, String.length_ofList, length_flatMap_byteDigits]

/-- Hexadecimal text reads back as the bytes it was written from. -/
theorem decode_encode (bs : List UInt8) : decode (encode bs) = .ok bs := by
  have heven : ¬ (encode bs).length % 2 = 1 := by
    rw [length_encode]
    omega
  rw [decode, if_neg heven, encode, String.toList_ofList, decodeChars_flatMap_byteDigits]

/-- Hexadecimal text is written in lowercase digits only. -/
theorem isLowerDigit_of_mem_encode {bs : List UInt8} {c : Char} (hc : c ∈ (encode bs).toList) :
    IsLowerDigit c := by
  simp only [encode, String.toList_ofList, List.mem_flatMap] at hc
  obtain ⟨b, -, hb⟩ := hc
  simp only [byteDigits, List.mem_cons, List.not_mem_nil, or_false] at hb
  have := b.toNat_lt
  rcases hb with rfl | rfl
  · exact digit_isLowerDigit (by omega)
  · exact digit_isLowerDigit (Nat.mod_lt _ (by decide))

end Hex

/-! ## Objects that differ only in their bytes -/

namespace Memory

/-- Two values of sensitive memory that may differ only in their bytes. -/
structure Alike (a b : Memory) : Prop where
  tag : a.tag = b.tag
  length : a.length = b.length
  disposed : a.isDisposed = b.isDisposed

theorem Alike.describe {a b : Memory} (h : a.Alike b) : a.describe = b.describe := by
  simp only [Memory.describe, h.disposed]

theorem Alike.describe_publicKey {a b : Memory} (h : a.Alike b) :
    PublicKeyMemory.describe ⟨a⟩ = PublicKeyMemory.describe ⟨b⟩ := by
  simp only [PublicKeyMemory.describe, h.disposed, h.tag, h.length]

end Memory

namespace Signature

/-- What a signature's debug output may show of its bytes: their number and the first four, or
that there are none to read. -/
def preview (s : Signature) (p : Pool) : Except MemoryError (Nat × List UInt8) :=
  (s.memory.bytes? p).map fun b => (b.length, b.take 4)

theorem describe_of_disposed {s : Signature} (h : s.memory.isDisposed = true) (p : Pool) :
    s.describe p = "Signature(disposed)" := by
  simp only [describe, Memory.bytes?_of_isDisposed h]

theorem describe_of_bytes? {s : Signature} {p : Pool} {b : List UInt8}
    (h : s.memory.bytes? p = .ok b) :
    s.describe p = "Signature(" ++ (s.algorithm?.map Algorithm.label).getD "unknown" ++
      ", " ++ toString b.length ++ " bytes, " ++ Hex.encode (b.take 4) ++
      (if b.length > 4 then "…" else "") ++ ")" := by
  simp only [describe, h]
  cases s.algorithm? <;> rfl

/-- Two signatures with the same tag and the same preview are shown alike. -/
theorem describe_of_preview {s s' : Signature} {p p' : Pool} (htag : s.memory.tag = s'.memory.tag)
    (hpre : s.preview p = s'.preview p') : s.describe p = s'.describe p' := by
  have halg : s.algorithm? = s'.algorithm? := by simp only [algorithm?, htag]
  unfold preview at hpre
  cases hb : s.memory.bytes? p with
  | error e =>
    cases hb' : s'.memory.bytes? p' with
    | error e' => simp only [describe, hb, hb']
    | ok b' => simp [hb, hb', Except.map] at hpre
  | ok b =>
    cases hb' : s'.memory.bytes? p' with
    | error e' => simp [hb, hb', Except.map] at hpre
    | ok b' =>
      -- the preview fixes the length and the first four bytes, which is all that is shown
      simp only [hb, hb', Except.map, Except.ok.injEq, Prod.mk.injEq] at hpre
      rw [describe_of_bytes? hb, describe_of_bytes? hb', hpre.1, hpre.2, halg]

end Signature

namespace MemoryKind

/-- Two values of memory of kind `k`, read in two pools, that may differ only in their bytes, or,
for signatures, only past their first four bytes. -/
def Alike (k : MemoryKind) (p₁ : Pool) (a : Memory) (p₂ : Pool) (b : Memory) : Prop :=
  match k with
  | .signature => a.tag = b.tag ∧ Signature.preview ⟨a⟩ p₁ = Signature.preview ⟨b⟩ p₂
  | _ => a.Alike b

theorem describe_of_alike {k : MemoryKind} {p₁ p₂ : Pool} {a b : Memory} (h : k.Alike p₁ a p₂ b) :
    k.describe a p₁ = k.describe b p₂ := by
  cases k with
  | sensitive => exact Memory.Alike.describe h
  | publicKey => exact Memory.Alike.describe_publicKey h
  | privateKey => rfl
  | signature => exact Signature.describe_of_preview h.1 h.2

end MemoryKind

/-- Two leases that may differ only in where their bytes lie and what they are. -/
structure Lease.Alike (a b : Lease) : Prop where
  slab : a.slab = b.slab
  index : a.index = b.index
  segmentSize : a.segmentSize = b.segmentSize

theorem Lease.Alike.describe {a b : Lease} (h : a.Alike b) : a.describe = b.describe := by
  unfold Lease.describe
  rw [h.slab, h.index, h.segmentSize]

/-- Two private keys that may differ only in their bytes and their signers. -/
structure PrivateKey.Alike (a b : PrivateKey) : Prop where
  id : a.id = b.id
  algorithm : a.algorithm = b.algorithm
  memory : a.memory.memory.Alike b.memory.memory

theorem PrivateKey.Alike.describe {a b : PrivateKey} (h : a.Alike b) : a.describe = b.describe := by
  unfold PrivateKey.describe PrivateKeyMemory.describe
  rw [h.id, h.algorithm]

/-- Two public keys that may differ only in their bytes and their verifiers. -/
structure PublicKey.Alike (a b : PublicKey) : Prop where
  id : a.id = b.id
  algorithm : a.algorithm = b.algorithm
  memory : a.memory.memory.Alike b.memory.memory

theorem PublicKey.Alike.describe {a b : PublicKey} (h : a.Alike b) : a.describe = b.describe := by
  have hm : a.memory.describe = b.memory.describe := h.memory.describe_publicKey
  unfold PublicKey.describe
  rw [h.id, h.algorithm, hm]

namespace Item

/-- Two objects, read in the pools `p₁` and `p₂`, that may differ only in their bytes. -/
def Alike (p₁ p₂ : Pool) : Item → Item → Prop
  | .lease a, .lease b => a.Alike b
  | .memory k a, .memory k' b => k = k' ∧ k.Alike p₁ a p₂ b
  | .privateKey a, .privateKey b => a.Alike b
  | .publicKey a, .publicKey b => a.Alike b
  | _, _ => False

/-- Objects that differ only in their bytes are shown alike. -/
theorem describe_of_alike {p₁ p₂ : Pool} {i₁ i₂ : Item} (h : Alike p₁ p₂ i₁ i₂) :
    i₁.describe p₁ = i₂.describe p₂ := by
  cases i₁ <;> cases i₂ <;> simp only [Alike] at h
  case lease.lease a b => exact h.describe
  case memory.memory k a k' b =>
    obtain ⟨rfl, h⟩ := h
    exact MemoryKind.describe_of_alike h
  case privateKey.privateKey a b => exact h.describe
  case publicKey.publicKey a b => exact h.describe

end Item

/-- Debug output never shows secret bytes: objects that differ only in their bytes are shown
alike, and so are views of as many bytes and any exposed private key bytes; a signature shows
`Signature(disposed)` once disposed, and otherwise at most its first four bytes, in lowercase
hexadecimal text that reads back as those bytes, with `…` exactly when there are more. -/
theorem describe_reveals_no_secret_bytes :
    (∀ (p₁ p₂ : Pool) (i₁ i₂ : Item), Item.Alike p₁ p₂ i₁ i₂ → i₁.describe p₁ = i₂.describe p₂) ∧
    (∀ b₁ b₂ : List UInt8, b₁.length = b₂.length → describeView b₁ = describeView b₂) ∧
    (∀ b₁ b₂ : List UInt8, PrivateKeyMemory.describeBytes b₁ = PrivateKeyMemory.describeBytes b₂) ∧
    (∀ (s : Signature) (p : Pool), s.memory.isDisposed = true →
      s.describe p = "Signature(disposed)") ∧
    (∀ (s : Signature) (p : Pool) (b : List UInt8), s.memory.bytes? p = .ok b →
      s.describe p = "Signature(" ++ (s.algorithm?.map Algorithm.label).getD "unknown" ++
        ", " ++ toString b.length ++ " bytes, " ++ Hex.encode (b.take 4) ++
        (if b.length > 4 then "…" else "") ++ ")") ∧
    (∀ bs : List UInt8, Hex.decode (Hex.encode bs) = .ok bs ∧
      (Hex.encode bs).length = 2 * bs.length ∧ ∀ c ∈ (Hex.encode bs).toList, Hex.IsLowerDigit c) := by
  refine ⟨fun _ _ _ _ h => Item.describe_of_alike h, ?_, fun _ _ => rfl,
    fun s p h => Signature.describe_of_disposed h p, fun _ _ _ h => Signature.describe_of_bytes? h,
    fun bs => ⟨Hex.decode_encode bs, Hex.length_encode bs, fun _ hc => Hex.isLowerDigit_of_mem_encode hc⟩⟩
  intro b₁ b₂ hlen
  simp only [describeView, hlen]

end KeyCustody
