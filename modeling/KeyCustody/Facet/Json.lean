import KeyCustody.Facet
import KeyCustody.Json.Read

/-!
# Facets as JSON

A closed facet is written as its variant name, either as a string or as an object whose one key
is the name and whose value is `null`; a qualifier or an origin is written as a string. Reading a
variant name that is not one of the type's gives the message that lists the type's names.
-/

namespace KeyCustody

/-- Reads a facet of the given type from JSON. -/
def FacetType.read : FacetType → Json.Parse Facet
  | .algorithm => Facet.algorithm <$> Json.readVariant Algorithm.all Algorithm.name
  | .purpose => Facet.purpose <$> Json.readVariant Purpose.all Purpose.name
  | .encoding => Facet.encoding <$> Json.readVariant Encoding.all Encoding.name
  | .semantics => Facet.semantics <$> Json.readVariant Semantics.all Semantics.name
  | .kind => Facet.kind <$> Json.readVariant BufferKind.all BufferKind.name
  | .qualifier => (fun s => Facet.qualifier ⟨s⟩) <$> Json.readText
  | .origin => Facet.origin <$> Json.readText

/-- Reads a whole JSON text as a facet of the given type. -/
def Facet.ofJson (t : FacetType) (text : String) : Except Json.Error Facet :=
  Json.readAll t.read text

end KeyCustody
