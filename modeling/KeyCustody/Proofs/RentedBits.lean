import Mathlib.Data.List.Induction
import KeyCustody.Proofs.Slab

/-!
# Rented bits as a set of indices

A bitset made for `n` bits has `⌈n / 64⌉` words, so it holds the indices below
`64 * ⌈n / 64⌉`. After any run of calls that set or clear bits, bit `i` reads `true` exactly when
`i` lies in the words and the last call on `i` set it. The reason is that a call reaches one bit of
one word: bit `i` is bit `i % 64` of word `i / 64`, and the pair determines `i`. So setting a bit
leaves every other bit as it was, the neighbours across a word boundary included, and a call past
the last word changes nothing at all.
-/

namespace KeyCustody

namespace Bitset

/-- Sets or clears bits, one call after another. -/
def setAll (s : Bitset) (calls : List (Nat × Bool)) : Bitset :=
  calls.foldl (fun s c => s.set c.1 c.2) s

/-- The last call on bit `i` in `calls` asked for `on`. -/
def LastSetting (calls : List (Nat × Bool)) (i : Nat) (on : Bool) : Prop :=
  ∃ pre post, calls = pre ++ (i, on) :: post ∧ ∀ c ∈ post, c.1 ≠ i

variable {s : Bitset} {calls : List (Nat × Bool)} {i j : Nat} {on b : Bool}

theorem setAll_append_singleton (s : Bitset) (calls : List (Nat × Bool)) (c : Nat × Bool) :
    s.setAll (calls ++ [c]) = (s.setAll calls).set c.1 c.2 := by
  simp [setAll, List.foldl_append]

@[simp] theorem size_setAll (s : Bitset) (calls : List (Nat × Bool)) :
    (s.setAll calls).words.size = s.words.size := by
  induction calls using List.reverseRecOn with
  | nil => rfl
  | append_singleton calls c ih => rw [setAll_append_singleton, size_set, ih]

theorem not_lastSetting_nil : ¬ LastSetting [] i on := by
  rintro ⟨pre, post, h, -⟩
  simp at h

/-- A call appended to a run is the last on its own bit, and leaves the last call on every other
bit as it was. -/
theorem lastSetting_append_singleton :
    LastSetting (calls ++ [(j, b)]) i on ↔ (j = i ∧ b = on) ∨ (j ≠ i ∧ LastSetting calls i on) := by
  constructor
  · rintro ⟨pre, post, hsplit, hpost⟩
    rcases List.eq_nil_or_concat post with rfl | ⟨post', c, rfl⟩
    · -- the appended call is the one found
      obtain ⟨-, hc⟩ := List.append_inj' hsplit rfl
      simp only [List.cons.injEq, Prod.mk.injEq, and_true] at hc
      exact .inl ⟨hc.1, hc.2⟩
    · -- the appended call closes `post`, so it is not on bit `i`
      rw [List.concat_eq_append, ← List.cons_append, ← List.append_assoc] at hsplit
      obtain ⟨hcalls, hc⟩ := List.append_inj' hsplit rfl
      simp only [List.cons.injEq, and_true] at hc
      have hji : j ≠ i := by
        have := hpost c (by simp)
        rwa [← hc] at this
      exact .inr ⟨hji, pre, post', hcalls, fun c' hc' => hpost c' (by simp [hc'])⟩
  · rintro (⟨rfl, rfl⟩ | ⟨hji, pre, post, rfl, hpost⟩)
    · exact ⟨calls, [], rfl, by simp⟩
    · refine ⟨pre, post ++ [(j, b)], by simp, ?_⟩
      intro c hc
      rcases List.mem_append.mp hc with hc | hc
      · exact hpost c hc
      · rw [List.mem_singleton.mp hc]
        exact hji

/-- A call on a bit past the last word leaves the bitset as it was. -/
theorem set_of_size_le (h : s.words.size ≤ i / 64) : s.set i on = s := by
  have hnone : s.words[i / 64]? = none := Array.getElem?_eq_none_iff.mpr h
  cases s with
  | mk words =>
    simp only [set, Bitset.mk.injEq]
    apply Array.ext_getElem?
    intro k
    rw [Array.getElem?_modify]
    split
    · rename_i hk
      rw [← hk, hnone]
      rfl
    · rfl

/-- After a run of calls on a new bitset for `n` bits, bit `i` is set exactly when it lies in the
words and the last call on it set it. The induction follows the run from its end: the last call
decides its own bit, and `get_set` leaves every other bit to the calls before it. -/
theorem get_setAll_new (n : Nat) (calls : List (Nat × Bool)) (i : Nat) :
    ((new n).setAll calls).get i = true ↔ i / 64 < (n + 63) / 64 ∧ LastSetting calls i true := by
  induction calls using List.reverseRecOn with
  | nil => simp [setAll, not_lastSetting_nil]
  | append_singleton calls c ih =>
    obtain ⟨j, b⟩ := c
    rw [setAll_append_singleton, Bitset.get_set, size_setAll, size_new,
      lastSetting_append_singleton]
    by_cases hji : j = i
    · subst hji
      by_cases hw : j / 64 < (n + 63) / 64
      · simp [hw]
      · -- a call past the last word leaves the bit clear, as it was
        rw [if_neg (fun h => hw h.2), ih]
        simp [hw]
    · rw [if_neg (fun h => hji h.1), ih]
      simp [hji]

end Bitset

/-- Rented bits refine a set of indices: on a new bitset for `n` bits, bit `i` reads `true` after
a run of calls exactly when `i < 64 * ⌈n / 64⌉` and the last call on `i` set it; setting one bit
never changes another; and a call past the last word changes nothing. -/
theorem rented_bits_track_last_setting :
    (∀ n calls i, ((Bitset.new n).setAll calls).get i = true ↔
      i < 64 * ((n + 63) / 64) ∧ Bitset.LastSetting calls i true) ∧
    (∀ (s : Bitset) i on j, j ≠ i → (s.set i on).get j = s.get j) ∧
    (∀ (s : Bitset) i on, 64 * s.words.size ≤ i → s.set i on = s) := by
  refine ⟨fun n calls i => ?_, fun s i on j hji => s.get_set_ne i on hji,
    fun s i on hi => Bitset.set_of_size_le (by omega)⟩
  rw [Bitset.get_setAll_new]
  have hword : i / 64 < (n + 63) / 64 ↔ i < 64 * ((n + 63) / 64) := by omega
  rw [hword]

end KeyCustody
