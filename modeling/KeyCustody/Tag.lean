import KeyCustody.Facet

/-!
# Tags

A tag is the list of facets that describes a buffer, at most one of each facet type, in the order
in which the types were first given. Adding a facet replaces the one of its type in place, or
appends it when the tag has none; so a tag built from a list of facets lists each type of the list
once, in order of first occurrence, with the value of its last occurrence.

Two tags are equal when they have the same facets, in any order. A tag is shown as its facets,
comma-separated, inside `Tag{…}`.
-/

namespace KeyCustody

/-- The facets of a buffer, in order of first occurrence of their types. -/
structure Tag where
  entries : List Facet
  deriving Repr

namespace Tag

/-- The tag with no facets. -/
def empty : Tag := ⟨[]⟩

/-- Puts `f` in place of the facet of its type, or appends it. -/
def setEntry (f : Facet) : List Facet → List Facet
  | [] => [f]
  | g :: rest => if g.type = f.type then f :: rest else g :: setEntry f rest

/-- The tag with `f` added, replacing the facet of its type. -/
def add (t : Tag) (f : Facet) : Tag := ⟨setEntry f t.entries⟩

/-- The tag built from facets given in order. -/
def ofFacets (fs : List Facet) : Tag := fs.foldl add empty

/-- The number of facets. -/
def size (t : Tag) : Nat := t.entries.length

/-- Whether the tag has no facets. -/
def isEmpty (t : Tag) : Bool := t.entries.isEmpty

/-- The facet of a given type. -/
def find? (t : Tag) (ty : FacetType) : Option Facet :=
  t.entries.find? (·.type = ty)

/-- The algorithm facet. -/
def algorithm? (t : Tag) : Option Algorithm :=
  t.entries.findSome? fun | .algorithm a => some a | _ => none

/-- The purpose facet. -/
def purpose? (t : Tag) : Option Purpose :=
  t.entries.findSome? fun | .purpose p => some p | _ => none

/-- The encoding facet. -/
def encoding? (t : Tag) : Option Encoding :=
  t.entries.findSome? fun | .encoding e => some e | _ => none

/-- The semantics facet. -/
def semantics? (t : Tag) : Option Semantics :=
  t.entries.findSome? fun | .semantics s => some s | _ => none

/-- The buffer kind facet. -/
def kind? (t : Tag) : Option BufferKind :=
  t.entries.findSome? fun | .kind k => some k | _ => none

/-- The qualifier facet. -/
def qualifier? (t : Tag) : Option Qualifier :=
  t.entries.findSome? fun | .qualifier q => some q | _ => none

/-- The origin facet. -/
def origin? (t : Tag) : Option String :=
  t.entries.findSome? fun | .origin o => some o | _ => none

/-- Equality of tags: as many facets, and each facet of one is a facet of the other. -/
def same (a b : Tag) : Bool :=
  a.entries.length == b.entries.length && a.entries.all (b.entries.contains ·)

/-- Tags are compared as sets of facets. -/
instance : BEq Tag := ⟨same⟩

/-- How a tag is shown. -/
def describe (t : Tag) : String :=
  "Tag\x7b" ++ ", ".intercalate (t.entries.map Facet.describe) ++ "\x7d"

@[simp] theorem entries_add (t : Tag) (f : Facet) : (t.add f).entries = setEntry f t.entries := rfl

@[simp] theorem setEntry_nil (f : Facet) : setEntry f [] = [f] := rfl

end Tag

end KeyCustody
