import KeyCustody.Proofs.Slab
import KeyCustody.Pool.Basic

/-!
# Finding slabs

How rents and returns find their slab in the pool's list of slabs. A rent takes from the first
slab of its size that has a free segment, and changes that slab alone; when none has one it makes
a new slab. A return goes to the first slab of the lease's size and id. Because slab ids are
distinct, both land on the slab a lease came from, wherever it stands in the list.

The slabs of one segment size make up the bucket of that size (`Pool.bucket`), in the order of the
list; a rent only ever looks at its own bucket.
-/

namespace KeyCustody

namespace Pool

/-- The slabs of `size`-byte segments, in the order the pool keeps them. -/
def bucket (p : Pool) (size : Nat) : List Slab := p.slabs.filter (·.segmentSize = size)

/-- A rent takes from the first slab of its size that has a free segment, and changes only it. -/
theorem rentFromSlabs_eq_some {size id i : Nat} {slabs slabs' : List Slab}
    (h : rentFromSlabs size slabs = some (id, i, slabs')) :
    ∃ pre s s' post, slabs = pre ++ s :: post ∧ slabs' = pre ++ s' :: post ∧
      s.segmentSize = size ∧ s.id = id ∧ s.rent? = some (i, s') ∧
      ∀ t ∈ pre, t.segmentSize = size → t.free = [] := by
  induction slabs generalizing slabs' with
  | nil => cases h
  | cons t rest ih =>
    unfold rentFromSlabs at h
    -- the slabs passed over keep their place in front of the one rented from
    have hskip : (t.segmentSize = size → t.free = []) → ∀ {rest'},
        rentFromSlabs size rest = some (id, i, rest') →
        ∃ pre s s' post, t :: rest = pre ++ s :: post ∧ t :: rest' = pre ++ s' :: post ∧
          s.segmentSize = size ∧ s.id = id ∧ s.rent? = some (i, s') ∧
          ∀ t ∈ pre, t.segmentSize = size → t.free = [] := by
      intro hfull rest' hrest
      obtain ⟨pre, s, s', post, rfl, rfl, hsize, hid, hrent, hpre⟩ := ih hrest
      refine ⟨t :: pre, s, s', post, rfl, rfl, hsize, hid, hrent, ?_⟩
      intro u hu
      rcases List.mem_cons.mp hu with rfl | hu
      · exact hfull
      · exact hpre u hu
    split at h
    · rename_i hsize
      split at h
      · rename_i i' t' hrent
        cases h
        exact ⟨[], t, t', rest, rfl, rfl, hsize, rfl, hrent, by simp⟩
      · rename_i hrent
        obtain ⟨⟨id', i', rest'⟩, hrest, heq⟩ := Option.map_eq_some_iff.mp h
        cases heq
        exact hskip (fun _ => Slab.rent?_eq_none.mp hrent) hrest
    · rename_i hsize
      obtain ⟨⟨id', i', rest'⟩, hrest, heq⟩ := Option.map_eq_some_iff.mp h
      cases heq
      exact hskip (fun h => absurd h hsize) hrest

/-- A rent takes from the first slab of its size that has a free segment. -/
theorem rentFromSlabs_of_first {size i : Nat} {pre post : List Slab} {s s' : Slab}
    (hpre : ∀ t ∈ pre, t.segmentSize = size → t.free = []) (hs : s.segmentSize = size)
    (hrent : s.rent? = some (i, s')) :
    rentFromSlabs size (pre ++ s :: post) = some (s.id, i, pre ++ s' :: post) := by
  induction pre with
  | nil => simp [rentFromSlabs, hs, hrent]
  | cons t pre ih =>
    rw [List.cons_append, rentFromSlabs, ih fun u hu => hpre u (List.mem_cons_of_mem t hu)]
    by_cases ht : t.segmentSize = size
    · -- a full slab of the size is passed over
      simp [ht, Slab.rent?_eq_none.mpr (hpre t List.mem_cons_self ht)]
    · simp [ht]

/-- When every slab of its size is full, a rent finds no free segment. -/
theorem rentFromSlabs_of_full {size : Nat} {slabs : List Slab}
    (h : ∀ t ∈ slabs, t.segmentSize = size → t.free = []) : rentFromSlabs size slabs = none := by
  induction slabs with
  | nil => rfl
  | cons t rest ih =>
    rw [rentFromSlabs, ih fun u hu => h u (List.mem_cons_of_mem t hu)]
    by_cases ht : t.segmentSize = size
    · simp [ht, Slab.rent?_eq_none.mpr (h t List.mem_cons_self ht)]
    · simp [ht]

/-- A rent finds no free segment exactly when every slab of its size is full. -/
theorem rentFromSlabs_eq_none {size : Nat} {slabs : List Slab}
    (h : rentFromSlabs size slabs = none) : ∀ t ∈ slabs, t.segmentSize = size → t.free = [] := by
  induction slabs with
  | nil => simp
  | cons t rest ih =>
    unfold rentFromSlabs at h
    intro u hu hsize
    split at h
    · split at h
      · cases h
      · rename_i hrent
        rcases List.mem_cons.mp hu with rfl | hu
        · exact Slab.rent?_eq_none.mp hrent
        · exact ih (Option.map_eq_none_iff.mp h) u hu hsize
    · rcases List.mem_cons.mp hu with rfl | hu
      · contradiction
      · exact ih (Option.map_eq_none_iff.mp h) u hu hsize

/-- A return reaches the first slab of the lease's size and id. -/
theorem releaseIn_eq {l : Lease} {pre post : List Slab} {s : Slab}
    (hpre : ∀ t ∈ pre, ¬ (t.segmentSize = l.segmentSize ∧ t.id = l.slab))
    (hs : s.segmentSize = l.segmentSize ∧ s.id = l.slab) (ha : s.arena = l.arena) :
    releaseIn l (pre ++ s :: post) = some ((s.release l.index).map (pre ++ · :: post)) := by
  induction pre with
  | nil =>
    simp only [List.nil_append, releaseIn, if_pos hs, if_pos ha]
  | cons t pre ih =>
    have ht := hpre t List.mem_cons_self
    rw [List.cons_append, releaseIn, if_neg ht,
      ih fun u hu => hpre u (List.mem_cons_of_mem t hu)]
    cases s.release l.index <;> rfl

/-- When no slab before it has its size and id, looking a slab up by its size and id finds it. -/
theorem find?_slab {pre post : List Slab} {s : Slab}
    (hpre : ∀ t ∈ pre, t.segmentSize = s.segmentSize → t.id ≠ s.id) :
    (pre ++ s :: post).find? (fun t => decide (t.segmentSize = s.segmentSize ∧ t.id = s.id)) =
      some s := by
  rw [List.find?_append, List.find?_eq_none.mpr]
  · simp
  · intro t ht
    simpa using hpre t ht

end Pool

end KeyCustody
