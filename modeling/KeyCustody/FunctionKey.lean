import KeyCustody.Facet

/-!
# Function keys

Signing and verification functions are registered under an algorithm, a purpose and an optional
qualifier. A key is written `algorithm/purpose`, followed by `/qualifier` when there is one, with
the lowercase labels of the algorithm and the purpose.
-/

namespace KeyCustody

/-- The algorithm, purpose and optional qualifier under which a function is registered. -/
structure FunctionKey where
  algorithm : Algorithm
  purpose : Purpose
  qualifier : Option Qualifier
  deriving DecidableEq, Repr

/-- How a function key is written. -/
def FunctionKey.describe (k : FunctionKey) : String :=
  k.algorithm.label ++ "/" ++ k.purpose.label ++
    match k.qualifier with
    | some q => "/" ++ q.text
    | none => ""

end KeyCustody
