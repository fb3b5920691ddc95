import KeyCustody.Proofs.Release
import KeyCustody.Binding

/-!
# Binding checks in order

Binding key memory makes four checks and stops at the first that fails: the memory must not be
disposed, its tag must name an algorithm, then a purpose, and the registry must have a function
under the algorithm, the purpose and the qualifier of the options, or of the tag when the options
give none. `bindingOutcome` says this order once, for any way of looking functions up; binding
private and public key memory both reach it (`bindPrivate_eq`, `bindPublic_eq`). A key that
binds carries the id, the algorithm, the qualifier, the memory and the context it was given, and
the function that was found, and leaves the pool as it was. Memory that fails to bind is disposed,
so a buffer it holds is zeroed and goes back to its pool.

Main statement: `binding_checks_in_order`.
-/

namespace KeyCustody

/-- The key and function binding memory reaches, checking in order that the memory is not
disposed, that its tag names an algorithm and a purpose, and that `resolve` has a function for
them under the qualifier of the options, else of the tag. -/
def bindingOutcome {φ : Type} (resolve : FunctionKey → Except KeyError φ) (m : Memory)
    (o : BindOptions) : Except KeyError (FunctionKey × φ) :=
  if m.isDisposed then .error (.memory (.disposed .memory))
  else
    match m.tag.algorithm?, m.tag.purpose? with
    | none, _ => .error (.missingAlgorithm m.tag)
    | some _, none => .error (.missingPurpose m.tag)
    | some a, some pu =>
      let k : FunctionKey := ⟨a, pu, o.qualifier.or m.tag.qualifier?⟩
      (resolve k).map fun f => (k, f)

/-- The key a tag dispatches on, once it names an algorithm and a purpose. -/
theorem bindingKey_eq (t : Tag) (o : BindOptions) :
    bindingKey t o =
      match t.algorithm?, t.purpose? with
      | none, _ => .error (.missingAlgorithm t)
      | some _, none => .error (.missingPurpose t)
      | some a, some pu => .ok ⟨a, pu, o.qualifier.or t.qualifier?⟩ := by
  unfold bindingKey dispatchOf
  cases t.algorithm? <;> cases t.purpose? <;> cases o.qualifier <;> rfl

/-- The checks binding makes, whatever looks functions up and whatever is built from what it
finds, reach `bindingOutcome`. -/
theorem bind_checks_eq {φ κ : Type} (resolve : FunctionKey → Except KeyError φ)
    (make : FunctionKey → φ → κ) (m : Memory) (o : BindOptions) (p : Pool) :
    (do
        let _ ← (m.bytes? p).mapError KeyError.memory
        let k ← bindingKey m.tag o
        let f ← resolve k
        return make k f : Except KeyError κ) =
      (bindingOutcome resolve m o).map fun (k, f) => make k f := by
  unfold bindingOutcome
  cases hd : m.isDisposed with
  | true => simp [Memory.bytes?_of_isDisposed hd, bind, Except.bind, Except.mapError, Except.map]
  | false =>
    obtain ⟨b, hb⟩ := Memory.exists_bytes?_of_not_isDisposed hd p
    simp only [hb, Except.mapError, bind, Except.bind, bindingKey_eq, Bool.false_eq_true, if_false]
    -- the three remaining checks, in the order the tag's facets are read
    cases m.tag.algorithm? with
    | none => rfl
    | some a =>
      cases m.tag.purpose? with
      | none => rfl
      | some pu =>
        dsimp only
        cases resolve ⟨a, pu, o.qualifier.or m.tag.qualifier?⟩ <;> rfl

theorem bindPrivate_eq (r : Registry) (id : String) (m : PrivateKeyMemory) (o : BindOptions)
    (p : Pool) :
    bindPrivate r id m o p =
      match bindingOutcome r.resolveSigner m.memory o with
      | .ok (k, f) => (.ok ⟨id, k.algorithm, k.qualifier, m, f, o.context⟩, p)
      | .error e => (.error e, (m.memory.dispose p).2) := by
  unfold bindPrivate
  rw [bind_checks_eq r.resolveSigner
    (fun k f => (⟨id, k.algorithm, k.qualifier, m, f, o.context⟩ : PrivateKey))]
  cases bindingOutcome r.resolveSigner m.memory o <;> rfl

theorem bindPublic_eq (r : Registry) (id : String) (m : PublicKeyMemory) (o : BindOptions)
    (p : Pool) :
    bindPublic r id m o p =
      match bindingOutcome r.resolveVerifier m.memory o with
      | .ok (k, f) => (.ok ⟨id, k.algorithm, m, f, o.context⟩, p)
      | .error e => (.error e, (m.memory.dispose p).2) := by
  unfold bindPublic
  rw [bind_checks_eq r.resolveVerifier
    (fun k f => (⟨id, k.algorithm, m, f, o.context⟩ : PublicKey))]
  cases bindingOutcome r.resolveVerifier m.memory o <;> rfl

/-- Live memory whose tag names an algorithm and a purpose binds to what the lookup finds. -/
theorem bindingOutcome_eq_ok {φ : Type} {resolve : FunctionKey → Except KeyError φ} {m : Memory}
    {o : BindOptions} {a : Algorithm} {pu : Purpose} {f : φ} (hd : m.isDisposed = false)
    (ha : m.tag.algorithm? = some a) (hp : m.tag.purpose? = some pu)
    (hr : resolve ⟨a, pu, o.qualifier.or m.tag.qualifier?⟩ = .ok f) :
    bindingOutcome resolve m o = .ok (⟨a, pu, o.qualifier.or m.tag.qualifier?⟩, f) := by
  simp only [bindingOutcome, hd, Bool.false_eq_true, if_false, ha, hp, hr]
  rfl

/-- Binding succeeds only with a function the lookup found. -/
theorem resolve_of_bindingOutcome {φ : Type} {resolve : FunctionKey → Except KeyError φ}
    {m : Memory} {o : BindOptions} {k : FunctionKey} {f : φ}
    (h : bindingOutcome resolve m o = .ok (k, f)) : resolve k = .ok f := by
  unfold bindingOutcome at h
  split at h
  · cases h
  · split at h
    · cases h
    · cases h
    · rename_i a pu _ _
      cases hr : resolve ⟨a, pu, o.qualifier.or m.tag.qualifier?⟩ with
      | error e => simp [hr, Except.map] at h
      | ok f' =>
        simp only [hr, Except.map, Except.ok.injEq, Prod.mk.injEq] at h
        obtain ⟨rfl, rfl⟩ := h
        exact hr

/-- A private key that binds holds the signer found under its algorithm and qualifier, and the
memory it was given, and the pool is unchanged. -/
theorem bindPrivate_eq_ok {r : Registry} {id : String} {m : PrivateKeyMemory} {o : BindOptions}
    {p p' : Pool} {key : PrivateKey} (h : bindPrivate r id m o p = (.ok key, p')) :
    ∃ k, r.resolveSigner k = .ok key.signer ∧ key.algorithm = k.algorithm ∧
      key.qualifier = k.qualifier ∧ key.memory = m ∧ p' = p := by
  rw [bindPrivate_eq] at h
  split at h
  · rename_i k f hk
    cases h
    exact ⟨k, resolve_of_bindingOutcome hk, rfl, rfl, rfl, rfl⟩
  · cases h

/-- A public key that binds holds the verifier found under its algorithm, and the memory it was
given, and the pool is unchanged. -/
theorem bindPublic_eq_ok {r : Registry} {id : String} {m : PublicKeyMemory} {o : BindOptions}
    {p p' : Pool} {key : PublicKey} (h : bindPublic r id m o p = (.ok key, p')) :
    ∃ k, r.resolveVerifier k = .ok key.verifier ∧ key.algorithm = k.algorithm ∧ key.memory = m ∧
      p' = p := by
  rw [bindPublic_eq] at h
  split at h
  · rename_i k f hk
    cases h
    exact ⟨k, resolve_of_bindingOutcome hk, rfl, rfl, rfl⟩
  · cases h

namespace Registry

/-- A lookup fails only before initialization, or for a key with no function. -/
theorem resolveSigner_eq_error {r : Registry} {k : FunctionKey} {e : KeyError}
    (h : r.resolveSigner k = .error e) :
    (r.table = none ∧ e = .notInitialized) ∨ (r.table.isSome ∧ e = .notFound k) := by
  unfold resolveSigner at h
  split at h
  · rename_i ht
    cases h
    exact .inl ⟨ht, rfl⟩
  · rename_i t ht
    split at h
    · cases h
    · cases h
      exact .inr ⟨by simp [ht], rfl⟩

theorem resolveVerifier_eq_error {r : Registry} {k : FunctionKey} {e : KeyError}
    (h : r.resolveVerifier k = .error e) :
    (r.table = none ∧ e = .notInitialized) ∨ (r.table.isSome ∧ e = .notFound k) := by
  unfold resolveVerifier at h
  split at h
  · rename_i ht
    cases h
    exact .inl ⟨ht, rfl⟩
  · rename_i t ht
    split at h
    · cases h
    · cases h
      exact .inr ⟨by simp [ht], rfl⟩

end Registry

/-- Binding private and public key memory checks, in order, that the memory is not disposed, that
its tag names an algorithm and then a purpose, and that the registry has a function under them
and the qualifier of the options, else of the tag; the registry refuses only before
initialization or for a key it has no function under. A key that binds holds what it was given
and what was found, and the pool is unchanged; memory that fails is disposed, which in a pool in
order zeroes its buffer and gives it back. -/
theorem binding_checks_in_order (r : Registry) (id : String) (o : BindOptions) (p : Pool) :
    (∀ m : PrivateKeyMemory, bindPrivate r id m o p =
      match bindingOutcome r.resolveSigner m.memory o with
      | .ok (k, f) => (.ok ⟨id, k.algorithm, k.qualifier, m, f, o.context⟩, p)
      | .error e => (.error e, (m.memory.dispose p).2)) ∧
    (∀ m : PublicKeyMemory, bindPublic r id m o p =
      match bindingOutcome r.resolveVerifier m.memory o with
      | .ok (k, f) => (.ok ⟨id, k.algorithm, m, f, o.context⟩, p)
      | .error e => (.error e, (m.memory.dispose p).2)) ∧
    (∀ k e, r.resolveSigner k = .error e →
      (r.table = none ∧ e = .notInitialized) ∨ (r.table.isSome ∧ e = .notFound k)) ∧
    (∀ k e, r.resolveVerifier k = .error e →
      (r.table = none ∧ e = .notInitialized) ∨ (r.table.isSome ∧ e = .notFound k)) ∧
    (∀ t : Tag, (KeyError.missingAlgorithm t).message =
      "invalid argument: tag " ++ t.describe ++ " has no algorithm" ∧
      (KeyError.missingPurpose t).message =
      "invalid argument: tag " ++ t.describe ++ " has no purpose") ∧
    (∀ (m : Memory) (ls : List Lease), p.Sound (m.leases ++ ls) →
      p.GaveBack (m.dispose p).2 m.leases) :=
  ⟨fun m => bindPrivate_eq r id m o p, fun m => bindPublic_eq r id m o p,
    fun _ _ h => Registry.resolveSigner_eq_error h, fun _ _ h => Registry.resolveVerifier_eq_error h,
    fun _ => ⟨rfl, rfl⟩, fun _ _ h => Pool.Sound.gaveBack_dispose_memory h⟩

end KeyCustody
