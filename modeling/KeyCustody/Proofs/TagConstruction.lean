import Mathlib.Data.Finset.Card
import KeyCustody.Proofs.TagEquality

/-!
# Building tags

A tag is built by adding facets one after another, through a builder or by deriving a new tag
from a built one. Adding replaces the facet of the same type where it stands, or appends the facet
when the tag has none of its type. So a tag built from a list of facets holds what the list
describes (`Tag.described`): each facet type of the list once, in the order in which the types
first occur, with the last facet of that type. Its length is the number of facet types in the
list, its facet of a type is the last one of that type, and it is shown as those facets in that
order. Deriving a tag with one more facet builds from the longer list.

The description is said without the builder: the types come from the library's removal of
duplicates, which keeps first occurrences, and the facets from a search of the reversed list.
Two lists of facets of distinct types are equal when they list the same types in the same order
and hold the same facet of every type (`eq_of_types_find?`); the built tag and the description are
compared that way.
-/

namespace KeyCustody.Tag

/-- The last facet of type `ty` in a list of facets. -/
def lastOfType (fs : List Facet) (ty : FacetType) : Option Facet := fs.reverse.find? (·.type = ty)

/-- What a list of facets describes: each of its facet types once, in order of first occurrence,
with the last facet of that type. -/
def described (fs : List Facet) : List Facet :=
  (fs.map Facet.type).eraseDups.filterMap (lastOfType fs)

/-! ## Finding a facet by its type -/

theorem find?_type_eq_none {es : List Facet} {ty : FacetType} (h : ty ∉ es.map Facet.type) :
    es.find? (·.type = ty) = none := by
  rw [List.find?_eq_none]
  intro f hf hty
  exact h (List.mem_map.mpr ⟨f, hf, by simpa using hty⟩)

theorem find?_type_of_mem {es : List Facet} {ty : FacetType} (h : ty ∈ es.map Facet.type) :
    ∃ f, es.find? (·.type = ty) = some f ∧ f.type = ty := by
  cases hf : es.find? (·.type = ty) with
  | none =>
    obtain ⟨g, hg, rfl⟩ := List.mem_map.mp h
    rw [List.find?_eq_none] at hf
    exact absurd (by simp) (hf g hg)
  | some f => exact ⟨f, rfl, by simpa using List.find?_some hf⟩

theorem lastOfType_of_mem {fs : List Facet} {ty : FacetType} (h : ty ∈ fs.map Facet.type) :
    ∃ f, lastOfType fs ty = some f ∧ f.type = ty :=
  find?_type_of_mem (by simpa [List.map_reverse] using h)

theorem lastOfType_of_not_mem {fs : List Facet} {ty : FacetType} (h : ty ∉ fs.map Facet.type) :
    lastOfType fs ty = none :=
  find?_type_eq_none (by simpa [List.map_reverse] using h)

/-! ## The description -/

section FilterMap

variable {tys : List FacetType} {g : FacetType → Option Facet}

theorem types_filterMap (hg : ∀ ty ∈ tys, ∃ f, g ty = some f ∧ f.type = ty) :
    (tys.filterMap g).map Facet.type = tys := by
  induction tys with
  | nil => rfl
  | cons t rest ih =>
    obtain ⟨f, hf, hft⟩ := hg t List.mem_cons_self
    rw [List.filterMap_cons_some hf, List.map_cons, hft,
      ih fun ty hty => hg ty (List.mem_cons_of_mem t hty)]

/-- Picking, for each type of a list, a facet of that type finds the pick for a listed type and
nothing for another. -/
theorem find?_filterMap (hg : ∀ ty ∈ tys, ∃ f, g ty = some f ∧ f.type = ty) (ty : FacetType) :
    (tys.filterMap g).find? (·.type = ty) = if ty ∈ tys then g ty else none := by
  induction tys with
  | nil => simp
  | cons t rest ih =>
    obtain ⟨f, hf, hft⟩ := hg t List.mem_cons_self
    rw [List.filterMap_cons_some hf, List.find?_cons,
      ih fun ty hty => hg ty (List.mem_cons_of_mem t hty)]
    by_cases h : t = ty
    · subst h
      simp [hft, hf]
    · have hne : ¬ ty = t := Ne.symm h
      simp [hft, h, hne]

end FilterMap

theorem types_described (fs : List Facet) :
    (described fs).map Facet.type = (fs.map Facet.type).eraseDups :=
  types_filterMap fun _ hty => lastOfType_of_mem (List.mem_eraseDups.mp hty)

theorem find?_described (fs : List Facet) (ty : FacetType) :
    (described fs).find? (·.type = ty) = lastOfType fs ty := by
  rw [described, find?_filterMap fun _ hty => lastOfType_of_mem (List.mem_eraseDups.mp hty)]
  split
  · rfl
  · rename_i h
    exact (lastOfType_of_not_mem fun hty => h (List.mem_eraseDups.mpr hty)).symm

/-! ## The built tag -/

/-- A built tag lists the facet types of its list once each, in order of first occurrence. -/
theorem types_ofFacets (fs : List Facet) :
    (ofFacets fs).entries.map Facet.type = (fs.map Facet.type).eraseDups := by
  induction fs using List.reverseRecOn with
  | nil => rfl
  | append_singleton fs f ih =>
    rw [← add_ofFacets, entries_add, types_setEntry, ih, List.map_append, List.eraseDups_append]
    -- the new type is appended exactly when no earlier facet had it
    by_cases h : ∃ g ∈ fs, g.type = f.type
    · simp [List.removeAll, List.mem_eraseDups, h]
    · simp [List.removeAll, List.mem_eraseDups, List.eraseDups_cons, h]

/-- Facet lists with distinct types are equal when they list the same types in the same order and
find the same facet for every type. -/
theorem eq_of_types_find? {es es' : List Facet} (hnodup : (es.map Facet.type).Nodup)
    (htypes : es.map Facet.type = es'.map Facet.type)
    (hfind : ∀ ty, es.find? (·.type = ty) = es'.find? (·.type = ty)) : es = es' := by
  induction es generalizing es' with
  | nil =>
    cases es' with
    | nil => rfl
    | cons g es' => simp at htypes
  | cons f es ih =>
    cases es' with
    | nil => simp at htypes
    | cons g es' =>
      simp only [List.map_cons, List.cons.injEq] at htypes
      obtain ⟨hfg, htypes⟩ := htypes
      obtain ⟨hfresh, hnodup⟩ := List.nodup_cons.mp hnodup
      -- both heads are found first for their common type
      have hhead : f = g := by simpa [hfg] using hfind f.type
      refine hhead ▸ congrArg (f :: ·) (ih hnodup htypes fun ty => ?_)
      by_cases h : f.type = ty
      · subst h
        rw [find?_type_eq_none hfresh, find?_type_eq_none (htypes ▸ hfresh)]
      · have hg : ¬ g.type = ty := hfg ▸ h
        simpa [h, hg] using hfind ty

/-- A tag built from a list of facets holds what the list describes. -/
theorem entries_ofFacets (fs : List Facet) : (ofFacets fs).entries = described fs := by
  refine eq_of_types_find? (distinct_ofFacets fs) ((types_ofFacets fs).trans (types_described fs).symm)
    fun ty => ?_
  rw [find?_described]
  exact find?_ofFacets fs ty

-- a later purpose replaces the earlier one where it stood
example : (ofFacets [.purpose .signing, .algorithm .ed25519, .purpose .exchange]).entries =
    [.purpose .exchange, .algorithm .ed25519] := by decide

/-- A built tag has as many facets as its list has facet types. -/
theorem size_ofFacets (fs : List Facet) : (ofFacets fs).size = (fs.map Facet.type).toFinset.card := by
  have hnodup : ((ofFacets fs).entries.map Facet.type).Nodup := distinct_ofFacets fs
  have hsame : ((ofFacets fs).entries.map Facet.type).toFinset = (fs.map Facet.type).toFinset := by
    ext ty
    simp only [List.mem_toFinset, types_ofFacets, List.mem_eraseDups]
  rw [← hsame, List.toFinset_card_of_nodup hnodup, List.length_map, size]

/-- A tag built from a list of facets is made of its facets, each with its last value, in order of
first occurrence. Its facet of a type is the last one of that type, or none; its length is the
number of facet types of the list; it is shown as `Tag{`, those facets shown and joined by `, `,
then `}`. Deriving a tag with one more facet gives the tag built from the list with that facet
appended, and leaves the tag it was derived from as it is, since tags are values. -/
theorem built_tags_hold_last_facet_of_each_type (fs : List Facet) :
    (ofFacets fs).entries = described fs ∧
    (∀ ty, (ofFacets fs).find? ty = lastOfType fs ty) ∧
    (ofFacets fs).size = (fs.map Facet.type).toFinset.card ∧
    (ofFacets fs).describe =
      "Tag\x7b" ++ ", ".intercalate ((described fs).map Facet.describe) ++ "\x7d" ∧
    ∀ v, (ofFacets fs).add v = ofFacets (fs ++ [v]) := by
  refine ⟨entries_ofFacets fs, find?_ofFacets fs, size_ofFacets fs, ?_, add_ofFacets fs⟩
  rw [describe, entries_ofFacets]

end KeyCustody.Tag
