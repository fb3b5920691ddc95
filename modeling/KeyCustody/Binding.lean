import KeyCustody.Key

/-!
# Binding keys

Binding turns key memory into a key. It checks, in order, that the memory is not disposed, that
its tag names an algorithm, that it names a purpose, and that the registry has a function for the
algorithm, the purpose and the qualifier: the one in the options if given, else the tag's. Memory
that fails to bind is disposed.
-/

namespace KeyCustody

/-- What may be given when binding: a qualifier overriding the tag's, and a context. -/
structure BindOptions where
  qualifier : Option Qualifier := none
  context : Option Context := none

/-- Shows the qualifier and whether a context is given. -/
def BindOptions.describe (o : BindOptions) : String :=
  let q := match o.qualifier with
    | some q => "Some(" ++ q.describe ++ ")"
    | none => "None"
  "BindOptions \x7b qualifier: " ++ q ++ ", context: " ++ toString o.context.isSome ++ " \x7d"

/-- The algorithm and purpose a tag dispatches on. -/
def dispatchOf (t : Tag) : Except KeyError (Algorithm × Purpose) :=
  match t.algorithm?, t.purpose? with
  | none, _ => .error (.missingAlgorithm t)
  | some _, none => .error (.missingPurpose t)
  | some a, some p => .ok (a, p)

/-- The key under which memory tagged `t` is bound with options `o`. -/
def bindingKey (t : Tag) (o : BindOptions) : Except KeyError FunctionKey := do
  let (a, purpose) ← dispatchOf t
  return ⟨a, purpose, o.qualifier <|> t.qualifier?⟩

/-- Binds private key memory to the signer the registry has for it. -/
def bindPrivate (r : Registry) (id : String) (m : PrivateKeyMemory) (o : BindOptions) (p : Pool) :
    Except KeyError PrivateKey × Pool :=
  let outcome : Except KeyError PrivateKey := do
    let _ ← (m.memory.bytes? p).mapError KeyError.memory
    let k ← bindingKey m.memory.tag o
    let s ← r.resolveSigner k
    return ⟨id, k.algorithm, k.qualifier, m, s, o.context⟩
  match outcome with
  | .ok key => (.ok key, p)
  | .error e => (.error e, (m.memory.dispose p).2)

/-- Binds public key memory to the verifier the registry has for it. -/
def bindPublic (r : Registry) (id : String) (m : PublicKeyMemory) (o : BindOptions) (p : Pool) :
    Except KeyError PublicKey × Pool :=
  let outcome : Except KeyError PublicKey := do
    let _ ← (m.memory.bytes? p).mapError KeyError.memory
    let k ← bindingKey m.memory.tag o
    let v ← r.resolveVerifier k
    return ⟨id, k.algorithm, m, v, o.context⟩
  match outcome with
  | .ok key => (.ok key, p)
  | .error e => (.error e, (m.memory.dispose p).2)

end KeyCustody
