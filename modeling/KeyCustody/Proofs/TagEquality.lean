import Mathlib.Data.List.Nodup
import Mathlib.Data.List.Perm.Subperm
import KeyCustody.Tag.Presets

/-!
# Tag equality

Two tags compare equal when they have as many facets and every facet of the first is a facet of
the second. That test looks one way only. It is an equality because every tag built by adding
facets holds at most one facet of each type (`Tag.Distinct`): adding a facet replaces the one of
its type in place or appends it, and so keeps the types apart.

Between such tags the test holds exactly when both hold the same facet of every type, and the
facet of a type in a built tag is the last one of that type that was added. So equality is an
equivalence, a tag equals its own copy, and adding facets of different types in another order
gives an equal tag.
-/

namespace KeyCustody.Tag

/-- No two facets of the tag have the same type. -/
def Distinct (t : Tag) : Prop := (t.entries.map Facet.type).Nodup

/-! ## Adding a facet -/

theorem find?_setEntry (f : Facet) (es : List Facet) (ty : FacetType) :
    (setEntry f es).find? (·.type = ty) = if f.type = ty then some f else es.find? (·.type = ty) := by
  induction es with
  | nil => by_cases h : f.type = ty <;> simp [setEntry, h]
  | cons g rest ih =>
    by_cases hg : g.type = f.type
    · -- `f` takes the place of `g`, which has the same type
      by_cases h : f.type = ty <;> simp [setEntry, hg, h]
    · by_cases h : g.type = ty
      · have hf : f.type ≠ ty := fun hf => hg (h.trans hf.symm)
        simp [setEntry, h, hf, Ne.symm hf]
      · simp [setEntry, hg, h, ih]

theorem types_setEntry (f : Facet) (es : List Facet) :
    (setEntry f es).map Facet.type =
      if f.type ∈ es.map Facet.type then es.map Facet.type else es.map Facet.type ++ [f.type] := by
  induction es with
  | nil => simp [setEntry]
  | cons g rest ih =>
    by_cases hg : g.type = f.type
    · simp [setEntry, hg]
    · have hne : f.type ≠ g.type := Ne.symm hg
      by_cases hin : f.type ∈ rest.map Facet.type <;> simp_all [setEntry]

theorem nodup_types_setEntry (f : Facet) {es : List Facet} (h : (es.map Facet.type).Nodup) :
    ((setEntry f es).map Facet.type).Nodup := by
  rw [types_setEntry]
  split
  · exact h
  · rename_i hin
    refine List.nodup_append.mpr ⟨h, List.nodup_singleton _, fun a ha b hb he => hin ?_⟩
    rw [List.mem_singleton] at hb
    rwa [← hb, ← he]

theorem Distinct.add {t : Tag} (h : t.Distinct) (f : Facet) : (t.add f).Distinct :=
  nodup_types_setEntry f h

theorem distinct_empty : empty.Distinct := List.nodup_nil

/-- Every tag built by adding facets holds one facet of each type at most. -/
theorem distinct_ofFacets (fs : List Facet) : (ofFacets fs).Distinct := by
  suffices h : ∀ t : Tag, t.Distinct → (fs.foldl add t).Distinct from h empty distinct_empty
  induction fs with
  | nil => exact fun _ ht => ht
  | cons f fs ih => exact fun t ht => ih (t.add f) (ht.add f)

theorem find?_add (t : Tag) (f : Facet) (ty : FacetType) :
    (t.add f).find? ty = if f.type = ty then some f else t.find? ty :=
  find?_setEntry f t.entries ty

/-- Adding to a built tag is building from the longer list. -/
theorem add_ofFacets (fs : List Facet) (f : Facet) : (ofFacets fs).add f = ofFacets (fs ++ [f]) := by
  simp [ofFacets]

/-- The facet of a type in a built tag is the last one of that type that was added. -/
theorem find?_ofFacets (fs : List Facet) (ty : FacetType) :
    (ofFacets fs).find? ty = fs.reverse.find? (·.type = ty) := by
  suffices h : ∀ t : Tag,
      (fs.foldl add t).find? ty = (fs.reverse.find? (·.type = ty)).or (t.find? ty) by
    simpa [ofFacets, find?, empty] using h empty
  induction fs with
  | nil => simp
  | cons f fs ih =>
    intro t
    rw [List.foldl_cons, ih, find?_add, List.reverse_cons, List.find?_append]
    cases fs.reverse.find? (·.type = ty) <;> by_cases h : f.type = ty <;> simp [h]

/-! ## Facets of distinct types -/

/-- Among facets of distinct types, the one found for a type is the member of that type. -/
theorem find?_eq_some_iff {es : List Facet} (h : (es.map Facet.type).Nodup) {ty : FacetType}
    {f : Facet} : es.find? (·.type = ty) = some f ↔ f ∈ es ∧ f.type = ty := by
  constructor
  · intro hf
    exact ⟨List.mem_of_find?_eq_some hf, by simpa using List.find?_some hf⟩
  · rintro ⟨hf, rfl⟩
    obtain ⟨g, hg⟩ : ∃ g, es.find? (·.type = f.type) = some g := by
      cases hfind : es.find? (·.type = f.type) with
      | some g => exact ⟨g, rfl⟩
      | none => simp [List.find?_eq_none] at hfind; exact absurd rfl (hfind f hf)
    have hgf : g.type = f.type := by simpa using List.find?_some hg
    rw [hg, List.inj_on_of_nodup_map h (List.mem_of_find?_eq_some hg) hf hgf]

/-- Among facets of distinct types, the facet found for each type determines the facets. -/
theorem mem_iff_find? {es es' : List Facet} (h : (es.map Facet.type).Nodup)
    (h' : (es'.map Facet.type).Nodup) :
    (∀ f, f ∈ es ↔ f ∈ es') ↔ ∀ ty, es.find? (·.type = ty) = es'.find? (·.type = ty) := by
  constructor
  · intro hmem ty
    apply Option.ext
    intro f
    rw [find?_eq_some_iff h, find?_eq_some_iff h', hmem]
  · intro hfind f
    have := hfind f.type
    constructor
    · intro hf
      exact ((find?_eq_some_iff h').mp (this ▸ (find?_eq_some_iff h).mpr ⟨hf, rfl⟩)).1
    · intro hf
      exact ((find?_eq_some_iff h).mp (this.symm ▸ (find?_eq_some_iff h').mpr ⟨hf, rfl⟩)).1

/-- The order of facets of distinct types does not change the facet found for a type. -/
theorem find?_perm {es es' : List Facet} (hp : es.Perm es') (h : (es.map Facet.type).Nodup)
    (ty : FacetType) : es.find? (·.type = ty) = es'.find? (·.type = ty) :=
  (mem_iff_find? h ((hp.map Facet.type).nodup_iff.mp h)).mp (fun _ => hp.mem_iff) ty

/-! ## The equality test -/

theorem same_eq_true_iff (a b : Tag) :
    same a b = true ↔ a.entries.length = b.entries.length ∧ a.entries ⊆ b.entries := by
  simp [same, List.subset_def]

theorem Distinct.nodup {t : Tag} (h : t.Distinct) : t.entries.Nodup := List.Nodup.of_map _ h

/-- Between tags of distinct facet types, the test holds when one tag's facets are a reordering of
the other's. -/
theorem Distinct.same_iff_perm {a b : Tag} (ha : a.Distinct) :
    same a b = true ↔ a.entries.Perm b.entries := by
  rw [same_eq_true_iff]
  constructor
  · rintro ⟨hlen, hsub⟩
    exact (ha.nodup.subperm hsub).perm_of_length_le (Nat.le_of_eq hlen.symm)
  · intro hp
    exact ⟨hp.length_eq, hp.subset⟩

/-- Between tags of distinct facet types, the test holds when both hold the same facet of every
type. -/
theorem Distinct.same_iff_find? {a b : Tag} (ha : a.Distinct) (hb : b.Distinct) :
    same a b = true ↔ ∀ ty, a.find? ty = b.find? ty := by
  rw [ha.same_iff_perm, List.perm_ext_iff_of_nodup ha.nodup hb.nodup]
  exact mem_iff_find? ha hb

-- Without distinct types the test is not symmetric.
example : same ⟨[.purpose .signing, .purpose .signing]⟩ ⟨[.purpose .signing, .purpose .exchange]⟩ ∧
    ¬ same ⟨[.purpose .signing, .purpose .exchange]⟩ ⟨[.purpose .signing, .purpose .signing]⟩ := by
  decide

/-- Two built tags are equal exactly when every type has the same last facet in both lists. -/
theorem ofFacets_beq_iff (fs gs : List Facet) :
    (ofFacets fs == ofFacets gs) = true ↔
      ∀ ty, fs.reverse.find? (·.type = ty) = gs.reverse.find? (·.type = ty) := by
  show same _ _ = true ↔ _
  simp only [(distinct_ofFacets fs).same_iff_find? (distinct_ofFacets gs), find?_ofFacets]

/-- Tags built by adding facets, through a builder, `with` or the presets, are equal exactly when
they hold the same facet of every type. Equality between them is therefore reflexive, symmetric
and transitive, and facets of different types added in another order give an equal tag. -/
theorem built_tags_equal_iff_same_facets (fs gs : List Facet) :
    ((ofFacets fs == ofFacets gs) = true ↔ ∀ ty, (ofFacets fs).find? ty = (ofFacets gs).find? ty) ∧
    (ofFacets fs == ofFacets fs) = true ∧
    (ofFacets fs == ofFacets gs) = (ofFacets gs == ofFacets fs) ∧
    (∀ hs, (ofFacets fs == ofFacets gs) = true → (ofFacets gs == ofFacets hs) = true →
      (ofFacets fs == ofFacets hs) = true) ∧
    (fs.Perm gs → (fs.map Facet.type).Nodup → (ofFacets fs == ofFacets gs) = true) := by
  have hiff : ∀ fs gs : List Facet, (ofFacets fs == ofFacets gs) = true ↔
      ∀ ty, (ofFacets fs).find? ty = (ofFacets gs).find? ty :=
    fun fs gs => (distinct_ofFacets fs).same_iff_find? (distinct_ofFacets gs)
  refine ⟨hiff fs gs, (hiff fs fs).mpr fun _ => rfl, ?_, ?_, ?_⟩
  · -- both sides say the same facets are found
    rw [Bool.eq_iff_iff, hiff, hiff]
    exact ⟨fun h ty => (h ty).symm, fun h ty => (h ty).symm⟩
  · intro hs hab hbc
    rw [hiff] at hab hbc ⊢
    exact fun ty => (hab ty).trans (hbc ty)
  · intro hp hnodup
    rw [ofFacets_beq_iff]
    have hrev : (fs.reverse.map Facet.type).Nodup := by
      rw [List.map_reverse]
      exact List.nodup_reverse.mpr hnodup
    exact find?_perm (List.reverse_perm fs |>.trans hp |>.trans (List.reverse_perm gs).symm) hrev

end KeyCustody.Tag
