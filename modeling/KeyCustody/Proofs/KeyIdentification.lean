import Mathlib.Data.List.TakeWhile
import Mathlib.Logic.ExistsUnique
import KeyCustody.Resolution

/-!
# Identifying a key in a reference

A reference names its key by the text after its last `#`, or by the whole reference when it has
no `#` (`AfterLastHash`). That text is unique: splitting at an earlier `#` leaves a `#` in what
follows. `fragment` finds it by reading the reference from its end up to the first `#` met.

Identification accepts exactly the non-empty names. So a name without `#` is found again after
any prefix and a `#`, or standing alone, and a name identified once identifies as itself: it has
no `#` left in it.
-/

namespace KeyCustody

/-- `s` is what follows the last `#` of `r`, or all of `r` when it has none. -/
def AfterLastHash (r s : String) : Prop :=
  ('#' ∉ r.toList ∧ s = r) ∨ ∃ pre, r = pre ++ "#" ++ s ∧ '#' ∉ s.toList

variable {r s pre : String}

theorem toList_fragment (r : String) :
    (fragment r).toList = (r.toList.reverse.takeWhile (· ≠ '#')).reverse :=
  String.toList_ofList

/-- Reading up to the first `#` of `u ++ '#' :: v` gives `u` when `u` has none. -/
theorem takeWhile_ne_hash {u v : List Char} (hu : '#' ∉ u) :
    (u ++ '#' :: v).takeWhile (· ≠ '#') = u := by
  have hall : ∀ c ∈ u, decide (c ≠ '#') = true := fun c hc =>
    decide_eq_true fun (hh : c = '#') => hu (hh ▸ hc)
  rw [List.takeWhile_append_of_pos hall]
  simp

theorem hash_not_mem_fragment (r : String) : '#' ∉ (fragment r).toList := by
  rw [toList_fragment, List.mem_reverse]
  intro h
  simpa using List.mem_takeWhile_imp h

theorem fragment_of_no_hash (h : '#' ∉ r.toList) : fragment r = r := by
  apply String.ext
  rw [toList_fragment, List.takeWhile_eq_self_iff.mpr, List.reverse_reverse]
  intro c hc
  have hne : c ≠ '#' := fun hh => h (hh ▸ List.mem_reverse.mp hc)
  simpa using hne

theorem fragment_of_split (hs : '#' ∉ s.toList) : fragment (pre ++ "#" ++ s) = s := by
  apply String.ext
  have hrev : (pre ++ "#" ++ s).toList.reverse = s.toList.reverse ++ '#' :: pre.toList.reverse := by
    simp [String.toList_append]
  rw [toList_fragment, hrev, takeWhile_ne_hash (by simpa using hs), List.reverse_reverse]

/-- A reference with a `#` splits at its last one, around its fragment. -/
theorem eq_append_fragment (h : '#' ∈ r.toList) :
    ∃ pre, r = pre ++ "#" ++ fragment r := by
  -- read from the end: what is taken is the fragment, reversed; what is dropped starts at a `#`
  obtain ⟨rest, hdrop⟩ : ∃ rest, r.toList.reverse.dropWhile (· ≠ '#') = '#' :: rest := by
    cases hd : r.toList.reverse.dropWhile (· ≠ '#') with
    | nil =>
      have := List.dropWhile_eq_nil_iff.mp hd '#' (List.mem_reverse.mpr h)
      simp at this
    | cons c rest =>
      have hc := List.head_dropWhile_not (· ≠ '#') (l := r.toList.reverse)
        (by rw [hd]; exact List.cons_ne_nil c rest)
      simp only [hd, List.head_cons] at hc
      have hc' : c = '#' := by simpa using hc
      subst hc'
      exact ⟨rest, rfl⟩
  have hsplit := List.takeWhile_append_dropWhile (p := (· ≠ '#')) (l := r.toList.reverse)
  rw [hdrop] at hsplit
  have hr : r.toList = rest.reverse ++ '#' :: (fragment r).toList := by
    rw [toList_fragment]
    calc r.toList = r.toList.reverse.reverse := (List.reverse_reverse _).symm
      _ = (r.toList.reverse.takeWhile (· ≠ '#') ++ '#' :: rest).reverse := by rw [hsplit]
      _ = _ := by simp
  refine ⟨String.ofList rest.reverse, String.ext ?_⟩
  rw [hr]
  simp [String.toList_append]

theorem afterLastHash_fragment (r : String) : AfterLastHash r (fragment r) := by
  by_cases h : '#' ∈ r.toList
  · obtain ⟨pre, hpre⟩ := eq_append_fragment h
    exact .inr ⟨pre, hpre, hash_not_mem_fragment r⟩
  · exact .inl ⟨h, fragment_of_no_hash h⟩

/-- The text after the last `#` is the fragment, so there is only one. -/
theorem AfterLastHash.eq_fragment (h : AfterLastHash r s) : s = fragment r := by
  rcases h with ⟨hno, rfl⟩ | ⟨pre, rfl, hs⟩
  · exact (fragment_of_no_hash hno).symm
  · exact (fragment_of_split hs).symm

theorem identify_eq (r : String) :
    identify r = if fragment r = "" then .error (.emptyKeyId r) else .ok (fragment r) := by
  by_cases h : fragment r = ""
  · simp [identify, h]
  · simp [identify, h, String.isEmpty_iff]

theorem identify_eq_ok_iff : identify r = .ok s ↔ AfterLastHash r s ∧ s ≠ "" := by
  rw [identify_eq]
  constructor
  · intro h
    split at h
    · cases h
    · rename_i hne
      cases h
      exact ⟨afterLastHash_fragment r, hne⟩
  · rintro ⟨hs, hne⟩
    rw [← hs.eq_fragment, if_neg hne]

theorem identify_eq_error_iff {e : KeyError} :
    identify r = .error e ↔ e = .emptyKeyId r ∧ AfterLastHash r "" := by
  rw [identify_eq]
  constructor
  · intro h
    split at h
    · rename_i hempty
      cases h
      exact ⟨rfl, hempty ▸ afterLastHash_fragment r⟩
    · cases h
  · rintro ⟨rfl, hs⟩
    rw [← hs.eq_fragment, if_pos rfl]

/-- A name without `#` is found after any prefix and a `#`, and on its own. -/
theorem identify_of_name {id : String} (hne : id ≠ "") (hid : '#' ∉ id.toList) (p : String) :
    identify (p ++ "#" ++ id) = .ok id ∧ identify id = .ok id :=
  ⟨identify_eq_ok_iff.mpr ⟨.inr ⟨p, rfl, hid⟩, hne⟩, identify_eq_ok_iff.mpr ⟨.inl ⟨hid, rfl⟩, hne⟩⟩

/-- Identification takes the text after the last `#` of a reference, or the whole reference when
it has none, and refuses it when it is empty. A name without `#` is therefore found after any
prefix and a `#`, and on its own; and every name found has no `#` and identifies as itself. -/
theorem identify_takes_text_after_last_hash :
    (∀ r, ∃! s, AfterLastHash r s) ∧
    (∀ r s, identify r = .ok s ↔ AfterLastHash r s ∧ s ≠ "") ∧
    (∀ r e, identify r = .error e ↔ e = .emptyKeyId r ∧ AfterLastHash r "") ∧
    (∀ p id, id ≠ "" → '#' ∉ id.toList →
      identify (p ++ "#" ++ id) = .ok id ∧ identify id = .ok id) ∧
    (∀ r s, identify r = .ok s → '#' ∉ s.toList ∧ identify s = .ok s) := by
  refine ⟨fun r => ⟨fragment r, afterLastHash_fragment r, fun s h => h.eq_fragment⟩,
    fun r s => identify_eq_ok_iff, fun r e => identify_eq_error_iff,
    fun p id hne hid => identify_of_name hne hid p, fun r s h => ?_⟩
  obtain ⟨hs, hne⟩ := identify_eq_ok_iff.mp h
  -- the name found is the fragment, which has no `#`
  have hid : '#' ∉ s.toList := hs.eq_fragment ▸ hash_not_mem_fragment r
  exact ⟨hid, (identify_of_name hne hid "").2⟩

end KeyCustody
