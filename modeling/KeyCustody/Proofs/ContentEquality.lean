import KeyCustody.Memory

/-!
# Content equality

Sensitive memory compares by its bytes alone: two readable values are equal when their bytes are,
whatever their tags and wherever their buffers come from, and a disposed value equals nothing, not
even itself. The bytes are compared without stopping at the first difference: the exclusive-or of
each pair of bytes is accumulated by or, and the values are equal when the accumulator stays zero.
That happens exactly when every pair agrees, so the comparison is equality of byte strings
(`constantTimeEq_iff`); strings of different lengths are told apart at once.

Everything else follows from one reading of the test (`Memory.same_eq_true_iff`): both sides are
readable and read the same bytes. The key kinds compare as sensitive memory, and a signature also
needs the same algorithm. On readable values each of these is an equivalence, and equal values
hash alike, since the hash reads the bytes and nothing else.
-/

namespace KeyCustody

/-- Or-accumulating bytes onto `acc` gives zero exactly when `acc` and every byte are zero. -/
theorem foldl_or_eq_zero (l : List UInt8) (acc : UInt8) :
    l.foldl (· ||| ·) acc = 0 ↔ acc = 0 ∧ ∀ x ∈ l, x = 0 := by
  induction l generalizing acc with
  | nil => simp
  | cons x l ih => simp [ih, UInt8.or_eq_zero_iff, and_assoc]

/-- Between byte strings of one length, the exclusive-or of every pair of corresponding bytes is
zero exactly when the strings are equal. -/
theorem xor_all_zero_iff {a b : List UInt8} (h : a.length = b.length) :
    (∀ x ∈ List.zipWith (· ^^^ ·) a b, x = 0) ↔ a = b := by
  induction a generalizing b with
  | nil =>
    cases b with
    | nil => simp
    | cons y b => simp at h
  | cons x a ih =>
    cases b with
    | nil => simp at h
    | cons y b =>
      have htail : a.length = b.length := by simpa using h
      simp only [List.zipWith_cons_cons, List.mem_cons, forall_eq_or_imp, UInt8.xor_eq_zero_iff,
        List.cons.injEq, ih htail]

/-- The accumulated comparison is equality of byte strings. -/
theorem constantTimeEq_iff (a b : List UInt8) : constantTimeEq a b = true ↔ a = b := by
  unfold constantTimeEq
  by_cases hlen : a.length = b.length
  · simp [hlen, foldl_or_eq_zero, xor_all_zero_iff hlen]
  · -- strings of different lengths are unequal, and the test says so before looking at a byte
    have hne : a ≠ b := fun h => hlen (congrArg List.length h)
    simp [hlen, hne]

namespace Memory

variable {a b c : Memory} {p : Pool}

/-- Two values are equal exactly when both are readable and read the same bytes. -/
theorem same_eq_true_iff : a.same b p = true ↔ ∃ x, a.bytes? p = .ok x ∧ b.bytes? p = .ok x := by
  unfold same
  cases ha : a.bytes? p with
  | error e => simp
  | ok x =>
    cases hb : b.bytes? p with
    | error e => simp
    | ok y =>
      simp only [constantTimeEq_iff, Except.ok.injEq]
      constructor
      · rintro rfl
        exact ⟨x, rfl, rfl⟩
      · rintro ⟨z, rfl, rfl⟩
        rfl

theorem same_iff_of_bytes? {x y : List UInt8} (ha : a.bytes? p = .ok x) (hb : b.bytes? p = .ok y) :
    a.same b p = true ↔ x = y := by
  rw [same_eq_true_iff, ha, hb]
  constructor
  · rintro ⟨z, hx, hy⟩
    cases hx
    cases hy
    rfl
  · rintro rfl
    exact ⟨x, rfl, rfl⟩

theorem same_self (h : a.isDisposed = false) : a.same a p = true := by
  obtain ⟨x, hx⟩ := exists_bytes?_of_not_isDisposed h p
  exact same_eq_true_iff.mpr ⟨x, hx, hx⟩

theorem same_symm (h : a.same b p = true) : b.same a p = true := by
  obtain ⟨x, ha, hb⟩ := same_eq_true_iff.mp h
  exact same_eq_true_iff.mpr ⟨x, hb, ha⟩

theorem same_trans (hab : a.same b p = true) (hbc : b.same c p = true) : a.same c p = true := by
  obtain ⟨x, ha, hb⟩ := same_eq_true_iff.mp hab
  obtain ⟨y, hb', hc⟩ := same_eq_true_iff.mp hbc
  -- `b` reads one string of bytes, so the two are one
  have hxy : x = y := by
    rw [hb] at hb'
    cases hb'
    rfl
  exact same_eq_true_iff.mpr ⟨x, ha, hxy ▸ hc⟩

/-- A disposed value is equal to nothing, on either side. -/
theorem same_of_isDisposed (h : a.isDisposed = true) (b : Memory) :
    a.same b p = false ∧ b.same a p = false := by
  have hread : ∀ x, a.bytes? p ≠ .ok x := by
    intro x hx
    rw [bytes?_of_isDisposed h] at hx
    cases hx
  constructor
  · cases hs : a.same b p
    · rfl
    · obtain ⟨x, ha, -⟩ := same_eq_true_iff.mp hs
      exact absurd ha (hread x)
  · cases hs : b.same a p
    · rfl
    · obtain ⟨x, -, ha⟩ := same_eq_true_iff.mp hs
      exact absurd ha (hread x)

/-- Equal values hash alike: the hash reads nothing but the bytes. -/
theorem hashInput_eq_of_same (h : a.same b p = true) : a.hashInput p = b.hashInput p := by
  obtain ⟨x, ha, hb⟩ := same_eq_true_iff.mp h
  simp [hashInput, ha, hb]

/-- Content equality is an equivalence on readable values. -/
theorem same_equivalence (p : Pool) :
    Equivalence fun a b : {m : Memory // m.isDisposed = false} => a.1.same b.1 p = true where
  refl a := same_self a.2
  symm h := same_symm h
  trans hab hbc := same_trans hab hbc

end Memory

theorem PublicKeyMemory.same_equivalence (p : Pool) :
    Equivalence fun a b : {m : PublicKeyMemory // m.memory.isDisposed = false} =>
      a.1.same b.1 p = true where
  refl a := Memory.same_self a.2
  symm h := Memory.same_symm h
  trans hab hbc := Memory.same_trans hab hbc

theorem PrivateKeyMemory.same_equivalence (p : Pool) :
    Equivalence fun a b : {m : PrivateKeyMemory // m.memory.isDisposed = false} =>
      a.1.same b.1 p = true where
  refl a := Memory.same_self a.2
  symm h := Memory.same_symm h
  trans hab hbc := Memory.same_trans hab hbc

namespace Signature

variable {a b c : Signature} {p : Pool}

theorem same_eq_true_iff :
    a.same b p = true ↔ a.algorithm? = b.algorithm? ∧ a.memory.same b.memory p = true := by
  simp [same]

/-- Signature equality is an equivalence on readable signatures. -/
theorem same_equivalence (p : Pool) :
    Equivalence fun a b : {s : Signature // s.memory.isDisposed = false} => a.1.same b.1 p = true where
  refl a := same_eq_true_iff.mpr ⟨rfl, Memory.same_self a.2⟩
  symm h := by
    obtain ⟨halg, hmem⟩ := same_eq_true_iff.mp h
    exact same_eq_true_iff.mpr ⟨halg.symm, Memory.same_symm hmem⟩
  trans hab hbc := by
    obtain ⟨halg, hmem⟩ := same_eq_true_iff.mp hab
    obtain ⟨halg', hmem'⟩ := same_eq_true_iff.mp hbc
    exact same_eq_true_iff.mpr ⟨halg.trans halg', Memory.same_trans hmem hmem'⟩

end Signature

/-- Equality of sensitive memory is equality of content. The accumulated comparison is equality of
byte strings; readable values are equal exactly when they read the same bytes, whatever their tags
and buffers; a disposed value equals nothing, not even itself. Public and private key memory
compare as sensitive memory, and signatures compare their algorithms as well. On readable values
each of these is an equivalence, and equal values hash alike, signatures included. -/
theorem memory_equality_is_content_equality (p : Pool) :
    (∀ x y : List UInt8, constantTimeEq x y = true ↔ x = y) ∧
    (∀ a b : Memory, a.isDisposed = false → b.isDisposed = false →
      (a.same b p = true ↔ a.bytes? p = b.bytes? p)) ∧
    (∀ a b : Memory, a.isDisposed = true → a.same b p = false ∧ b.same a p = false) ∧
    (∀ a b : PublicKeyMemory, a.same b p = a.memory.same b.memory p) ∧
    (∀ a b : PrivateKeyMemory, a.same b p = a.memory.same b.memory p) ∧
    (∀ a b : Signature,
      a.same b p = true ↔ a.algorithm? = b.algorithm? ∧ a.memory.same b.memory p = true) ∧
    Equivalence (fun a b : {m : Memory // m.isDisposed = false} => a.1.same b.1 p = true) ∧
    Equivalence (fun a b : {m : PublicKeyMemory // m.memory.isDisposed = false} =>
      a.1.same b.1 p = true) ∧
    Equivalence (fun a b : {m : PrivateKeyMemory // m.memory.isDisposed = false} =>
      a.1.same b.1 p = true) ∧
    Equivalence (fun a b : {s : Signature // s.memory.isDisposed = false} => a.1.same b.1 p = true) ∧
    (∀ a b : Memory, a.same b p = true → a.hashInput p = b.hashInput p) ∧
    (∀ a b : Signature, a.same b p = true → a.memory.hashInput p = b.memory.hashInput p) := by
  refine ⟨constantTimeEq_iff, ?_, fun a b h => Memory.same_of_isDisposed h b, fun _ _ => rfl,
    fun _ _ => rfl, fun _ _ => Signature.same_eq_true_iff, Memory.same_equivalence p,
    PublicKeyMemory.same_equivalence p, PrivateKeyMemory.same_equivalence p,
    Signature.same_equivalence p, fun _ _ h => Memory.hashInput_eq_of_same h,
    fun _ _ h => Memory.hashInput_eq_of_same (Signature.same_eq_true_iff.mp h).2⟩
  intro a b ha hb
  obtain ⟨x, hx⟩ := Memory.exists_bytes?_of_not_isDisposed ha p
  obtain ⟨y, hy⟩ := Memory.exists_bytes?_of_not_isDisposed hb p
  rw [Memory.same_iff_of_bytes? hx hy, hx, hy]
  exact ⟨fun h => h ▸ rfl, fun h => Except.ok.inj h⟩

end KeyCustody
