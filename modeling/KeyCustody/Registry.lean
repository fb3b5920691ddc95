import KeyCustody.Buffer
import KeyCustody.Error

/-!
# Function registry

Signing and verification functions are looked up by algorithm, purpose and optional qualifier.
A function table maps each key to at most one signer and one verifier; registering under a key
that is already taken replaces the function and keeps its place. A registry is given
one table, once: a second one is refused and the first table stays. Looking a
function up before initialization is refused, and so is a key with no function; a qualified key
never finds an unqualified function, nor the reverse.

A table is shown as the sorted, quoted texts of its keys.
-/

namespace KeyCustody

/-- A value handed to signing and verification functions: a flag, or anything else. -/
inductive Context where
  | flag (value : Bool)
  | other (text : String)
  deriving DecidableEq, Repr

/-- A signing function: from the key bytes, the message, an allocator for the result and an
optional context, a buffer holding the signature. -/
structure Signer where
  /-- How the function is named when resolved. -/
  label : String
  /-- Whether the function is one of the library's own schemes. -/
  standard : Bool
  run : List UInt8 → List UInt8 → Allocator → Option Context → Pool → Except KeyError Owner × Pool

/-- A verification function: from the key bytes, the message, the signature bytes and an
optional context, whether the signature is valid. -/
structure Verifier where
  label : String
  standard : Bool
  run : List UInt8 → List UInt8 → List UInt8 → Option Context → Except KeyError Bool

/-- Puts a value under a key, in place of the one there, or last. -/
def assign {α : Type} (k : FunctionKey) (v : α) : List (FunctionKey × α) → List (FunctionKey × α)
  | [] => [(k, v)]
  | (k', v') :: rest => if k' = k then (k, v) :: rest else (k', v') :: assign k v rest

/-- The value under a key. -/
def lookupKey {α : Type} (k : FunctionKey) (entries : List (FunctionKey × α)) : Option α :=
  (entries.find? (·.1 = k)).map (·.2)

/-- One function to register under a key. -/
inductive Registration where
  | signer (k : FunctionKey) (s : Signer)
  | verifier (k : FunctionKey) (v : Verifier)

/-- Signers and verifiers by key. -/
structure FunctionTable where
  signers : List (FunctionKey × Signer) := []
  verifiers : List (FunctionKey × Verifier) := []

namespace FunctionTable

/-- Registers a signer. -/
def withSigner (t : FunctionTable) (k : FunctionKey) (s : Signer) : FunctionTable :=
  { t with signers := assign k s t.signers }

/-- Registers a verifier. -/
def withVerifier (t : FunctionTable) (k : FunctionKey) (v : Verifier) : FunctionTable :=
  { t with verifiers := assign k v t.verifiers }

/-- Registers one function. -/
def apply (t : FunctionTable) : Registration → FunctionTable
  | .signer k s => t.withSigner k s
  | .verifier k v => t.withVerifier k v

/-- The number of signers. -/
def signerCount (t : FunctionTable) : Nat := t.signers.length

/-- The number of verifiers. -/
def verifierCount (t : FunctionTable) : Nat := t.verifiers.length

/-- The sorted, quoted texts of keys, as a bracketed list. -/
def describeKeys (keys : List FunctionKey) : String :=
  let texts := (keys.map FunctionKey.describe).mergeSort fun a b => decide (a < b) || a == b
  "[" ++ ", ".intercalate (texts.map Text.quote) ++ "]"

/-- How a table is shown. -/
def describe (t : FunctionTable) : String :=
  "FunctionTable \x7b signers: " ++ describeKeys (t.signers.map (·.1)) ++ ", verifiers: " ++
    describeKeys (t.verifiers.map (·.1)) ++ " \x7d"

end FunctionTable

/-- A registry: a table, once initialized. -/
structure Registry where
  table : Option FunctionTable := none

namespace Registry

/-- Installs the table, unless one is installed already. -/
def install (r : Registry) (t : FunctionTable) : Except KeyError Registry :=
  match r.table with
  | some _ => .error .alreadyInitialized
  | none => .ok { table := some t }

/-- Whether a table is installed. -/
def isInstalled (r : Registry) : Bool := r.table.isSome

/-- The signer under a key. -/
def resolveSigner (r : Registry) (k : FunctionKey) : Except KeyError Signer :=
  match r.table with
  | none => .error .notInitialized
  | some t =>
    match lookupKey k t.signers with
    | some s => .ok s
    | none => .error (.notFound k)

/-- The verifier under a key. -/
def resolveVerifier (r : Registry) (k : FunctionKey) : Except KeyError Verifier :=
  match r.table with
  | none => .error .notInitialized
  | some t =>
    match lookupKey k t.verifiers with
    | some v => .ok v
    | none => .error (.notFound k)

end Registry

end KeyCustody
