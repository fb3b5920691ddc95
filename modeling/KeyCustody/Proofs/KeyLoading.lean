import KeyCustody.Proofs.SessionInvariant

/-!
# Loading and resolving keys

A loader keeps public and private key bytes apart, by name, and a later insertion under a name
replaces the earlier one on its side only. Loading copies what is stored under a name into new
typed key memory; a name never stored on that side is refused as unknown.

`resolution_loads_last_stored_key` says, for any run of insertions into a new loader: loading a
name reads what the last insertion under that name on that side stored, copied as the typed copy
would copy it, and refuses a name never stored there; resolving a reference identifies the name,
loads it and binds it, stopping at the first step that fails with that step's error. Whatever
fails, no lease is left out: the pool stays sound with exactly the leases out before, because a
copy that fails has rented nothing and binding that fails disposes the loaded memory; and a key
that resolves holds the lease of the memory it was loaded into.
-/

namespace KeyCustody

namespace Loader

/-- The entries kept on one side. -/
def entries (l : Loader) : KeySide → List (String × StoredKey)
  | .publicKey => l.publicKeys
  | .privateKey => l.privateKeys

/-- Keeps key bytes under a name on one side. -/
def insert (l : Loader) : KeySide × String × StoredKey → Loader
  | (.publicKey, name, k) => l.insertPublic name k.bytes k.tag
  | (.privateKey, name, k) => l.insertPrivate name k.bytes k.tag

/-- The loader after each insertion in turn. -/
def insertAll (l : Loader) (ins : List (KeySide × String × StoredKey)) : Loader :=
  ins.foldl insert l

/-- The loader made by a run of insertions into an empty one. -/
def ofInsertions (ins : List (KeySide × String × StoredKey)) : Loader := insertAll {} ins

/-- No insertion of the run is under `name` on `side`. -/
def NeverStored (ins : List (KeySide × String × StoredKey)) (side : KeySide) (name : String) :
    Prop :=
  ∀ e ∈ ins, ¬ (e.1 = side ∧ e.2.1 = name)

/-- The last insertion of the run under `name` on `side` stored `k`. -/
def LastStored (ins : List (KeySide × String × StoredKey)) (side : KeySide) (name : String)
    (k : StoredKey) : Prop :=
  ∃ pre post, ins = pre ++ (side, name, k) :: post ∧ NeverStored post side name

theorem find?_store (name n : String) (k : StoredKey) (es : List (String × StoredKey)) :
    find? (store name k es) n = if n = name then some k else find? es n := by
  induction es with
  | nil => by_cases h : n = name <;> simp [store, find?, h, eq_comm]
  | cons e es ih =>
    obtain ⟨n', k'⟩ := e
    by_cases h' : n' = name
    · subst h'
      by_cases h : n = n' <;> simp [store, find?, h, eq_comm]
    · simp only [store, if_neg h']
      by_cases h : n = n'
      · subst h
        simp [find?, h']
      · simpa [find?, Ne.symm h] using ih

/-- An insertion changes the entry under its own name on its own side, and no other. -/
theorem find?_insert (l : Loader) (e : KeySide × String × StoredKey) (side : KeySide)
    (n : String) : find? ((l.insert e).entries side) n =
      if e.1 = side ∧ n = e.2.1 then some e.2.2 else find? (l.entries side) n := by
  obtain ⟨side', name, k⟩ := e
  cases side' <;> cases side <;> simp [insert, insertPublic, insertPrivate, entries, find?_store]

theorem insertAll_append (l : Loader) (a b : List (KeySide × String × StoredKey)) :
    l.insertAll (a ++ b) = (l.insertAll a).insertAll b :=
  List.foldl_append

/-- Insertions under other names or on the other side leave an entry as it was. -/
theorem find?_insertAll_of_never {ins : List (KeySide × String × StoredKey)} {side : KeySide}
    {name : String} (h : NeverStored ins side name) (l : Loader) :
    find? ((l.insertAll ins).entries side) name = find? (l.entries side) name := by
  induction ins generalizing l with
  | nil => rfl
  | cons e ins ih =>
    have hrest : NeverStored ins side name := fun e' he' => h e' (List.mem_cons_of_mem _ he')
    have he : ¬ (e.1 = side ∧ name = e.2.1) := fun ⟨hs, hn⟩ =>
      h e List.mem_cons_self ⟨hs, hn.symm⟩
    show find? (((l.insert e).insertAll ins).entries side) name = _
    rw [ih hrest, find?_insert, if_neg he]

/-- The entry under a name is what the last insertion under it on that side stored. -/
theorem find?_insertAll_of_last {ins : List (KeySide × String × StoredKey)} {side : KeySide}
    {name : String} {k : StoredKey} (h : LastStored ins side name k) (l : Loader) :
    find? ((l.insertAll ins).entries side) name = some k := by
  obtain ⟨pre, post, rfl, hpost⟩ := h
  rw [insertAll_append]
  show find? ((((l.insertAll pre).insert (side, name, k)).insertAll post).entries side) name = _
  rw [find?_insertAll_of_never hpost, find?_insert]
  simp

variable {l : Loader} {name : String} {a : Allocator} {p : Pool} {k : StoredKey}

theorem loadPublic_of_none (h : find? l.publicKeys name = none) :
    l.loadPublic name a p = (.error (.unknownKey name), p) := by
  simp [loadPublic, h]

/-- Loading a stored public key gives what the typed copy of its bytes gives. -/
theorem loadPublic_of_some (h : find? l.publicKeys name = some k) :
    l.loadPublic name a p =
      (((Memory.copyAs .publicKey a k.bytes k.tag p).1.map PublicKeyMemory.mk).mapError .memory,
        (Memory.copyAs .publicKey a k.bytes k.tag p).2) := by
  simp only [loadPublic, h]
  cases Memory.copyAs .publicKey a k.bytes k.tag p with
  | mk r p' => cases r <;> rfl

theorem loadPrivate_of_none (h : find? l.privateKeys name = none) :
    l.loadPrivate name a p = (.error (.unknownKey name), p) := by
  simp [loadPrivate, h]

/-- Loading a stored private key gives what the typed copy of its bytes gives. -/
theorem loadPrivate_of_some (h : find? l.privateKeys name = some k) :
    l.loadPrivate name a p =
      (((Memory.copyAs .privateKey a k.bytes k.tag p).1.map PrivateKeyMemory.mk).mapError .memory,
        (Memory.copyAs .privateKey a k.bytes k.tag p).2) := by
  simp only [loadPrivate, h]
  cases Memory.copyAs .privateKey a k.bytes k.tag p with
  | mk r p' => cases r <;> rfl

end Loader

section Resolution

variable (r : Registry) (l : Loader) (reference : String) (a : Allocator) (p : Pool)

/-- Resolving a public key fails where identifying fails, else where loading fails, else
it is the binding of the loaded memory under the identified name. -/
theorem resolvePublicKey_cases :
    (∃ e, identify reference = .error e ∧ resolvePublicKey r l reference a p = (.error e, p)) ∨
    (∃ id e p₁, identify reference = .ok id ∧ l.loadPublic id a p = (.error e, p₁) ∧
      resolvePublicKey r l reference a p = (.error e, p₁)) ∨
    (∃ id m p₁, identify reference = .ok id ∧ l.loadPublic id a p = (.ok m, p₁) ∧
      resolvePublicKey r l reference a p = bindPublic r id m {} p₁) := by
  cases hid : identify reference with
  | error e => exact .inl ⟨e, rfl, by simp [resolvePublicKey, hid]⟩
  | ok id =>
    cases hload : l.loadPublic id a p with
    | mk res p₁ =>
      cases res with
      | error e => exact .inr (.inl ⟨id, e, p₁, rfl, hload, by simp [resolvePublicKey, hid, hload]⟩)
      | ok m => exact .inr (.inr ⟨id, m, p₁, rfl, hload, by simp [resolvePublicKey, hid, hload]⟩)

/-- Resolving a private key fails where identifying fails, else where loading fails, else
it is the binding of the loaded memory under the identified name. -/
theorem resolvePrivateKey_cases :
    (∃ e, identify reference = .error e ∧ resolvePrivateKey r l reference a p = (.error e, p)) ∨
    (∃ id e p₁, identify reference = .ok id ∧ l.loadPrivate id a p = (.error e, p₁) ∧
      resolvePrivateKey r l reference a p = (.error e, p₁)) ∨
    (∃ id m p₁, identify reference = .ok id ∧ l.loadPrivate id a p = (.ok m, p₁) ∧
      resolvePrivateKey r l reference a p = bindPrivate r id m {} p₁) := by
  cases hid : identify reference with
  | error e => exact .inl ⟨e, rfl, by simp [resolvePrivateKey, hid]⟩
  | ok id =>
    cases hload : l.loadPrivate id a p with
    | mk res p₁ =>
      cases res with
      | error e => exact .inr (.inl ⟨id, e, p₁, rfl, hload, by simp [resolvePrivateKey, hid, hload]⟩)
      | ok m => exact .inr (.inr ⟨id, m, p₁, rfl, hload, by simp [resolvePrivateKey, hid, hload]⟩)

end Resolution

open Loader in
/-- After any run of insertions into a new loader, loading a name on a side reads what the last
insertion under it on that side stored, copied as the typed copy copies it, and a name never
stored on that side is unknown. Resolving a reference stops at the first of identifying,
loading and binding that fails, with its error. From a sound pool, a load or a resolution that
fails leaves the pool sound with the leases out before it, so nothing it rented stays out, and a
resolved key holds the lease of the memory it was loaded into. -/
theorem resolution_loads_last_stored_key (ins : List (KeySide × String × StoredKey))
    (a : Allocator) (p : Pool) :
    (∀ name, NeverStored ins .publicKey name →
      (ofInsertions ins).loadPublic name a p = (.error (.unknownKey name), p)) ∧
    (∀ name k, LastStored ins .publicKey name k →
      (ofInsertions ins).loadPublic name a p =
        (((Memory.copyAs .publicKey a k.bytes k.tag p).1.map PublicKeyMemory.mk).mapError .memory,
          (Memory.copyAs .publicKey a k.bytes k.tag p).2)) ∧
    (∀ name, NeverStored ins .privateKey name →
      (ofInsertions ins).loadPrivate name a p = (.error (.unknownKey name), p)) ∧
    (∀ name k, LastStored ins .privateKey name k →
      (ofInsertions ins).loadPrivate name a p =
        (((Memory.copyAs .privateKey a k.bytes k.tag p).1.map PrivateKeyMemory.mk).mapError .memory,
          (Memory.copyAs .privateKey a k.bytes k.tag p).2)) ∧
    (∀ r reference,
      (∃ e, identify reference = .error e ∧
        resolvePublicKey r (ofInsertions ins) reference a p = (.error e, p)) ∨
      (∃ id e p₁, identify reference = .ok id ∧
        (ofInsertions ins).loadPublic id a p = (.error e, p₁) ∧
        resolvePublicKey r (ofInsertions ins) reference a p = (.error e, p₁)) ∨
      (∃ id m p₁, identify reference = .ok id ∧
        (ofInsertions ins).loadPublic id a p = (.ok m, p₁) ∧
        resolvePublicKey r (ofInsertions ins) reference a p = bindPublic r id m {} p₁)) ∧
    (∀ r reference,
      (∃ e, identify reference = .error e ∧
        resolvePrivateKey r (ofInsertions ins) reference a p = (.error e, p)) ∨
      (∃ id e p₁, identify reference = .ok id ∧
        (ofInsertions ins).loadPrivate id a p = (.error e, p₁) ∧
        resolvePrivateKey r (ofInsertions ins) reference a p = (.error e, p₁)) ∨
      (∃ id m p₁, identify reference = .ok id ∧
        (ofInsertions ins).loadPrivate id a p = (.ok m, p₁) ∧
        resolvePrivateKey r (ofInsertions ins) reference a p = bindPrivate r id m {} p₁)) ∧
    (∀ ls, p.Sound ls →
      (∀ name e p', (ofInsertions ins).loadPublic name a p = (.error e, p') → p'.Sound ls) ∧
      (∀ name e p', (ofInsertions ins).loadPrivate name a p = (.error e, p') → p'.Sound ls) ∧
      (∀ r reference e p',
        resolvePublicKey r (ofInsertions ins) reference a p = (.error e, p') → p'.Sound ls) ∧
      (∀ r reference key p', resolvePublicKey r (ofInsertions ins) reference a p = (.ok key, p') →
        p'.Sound (key.leases ++ ls)) ∧
      (∀ r reference e p',
        resolvePrivateKey r (ofInsertions ins) reference a p = (.error e, p') → p'.Sound ls) ∧
      (∀ r reference key p', resolvePrivateKey r (ofInsertions ins) reference a p = (.ok key, p') →
        p'.Sound (key.leases ++ ls))) := by
  -- a new loader has no entries, so a name never stored stays unknown
  have hnone : ∀ side name, NeverStored ins side name →
      find? ((ofInsertions ins).entries side) name = none := by
    intro side name hn
    rw [ofInsertions, find?_insertAll_of_never hn]
    cases side <;> rfl
  refine ⟨fun name hn => loadPublic_of_none (hnone .publicKey name hn),
    fun name k hk => loadPublic_of_some (find?_insertAll_of_last hk {}),
    fun name hn => loadPrivate_of_none (hnone .privateKey name hn),
    fun name k hk => loadPrivate_of_some (find?_insertAll_of_last hk {}),
    fun r reference => resolvePublicKey_cases r _ reference a p,
    fun r reference => resolvePrivateKey_cases r _ reference a p, fun ls h => ?_⟩
  -- each operation transfers leases: a failure hands back all it took
  exact ⟨fun name e p' hl => (transfers_loadPublic _ name a).apply h hl,
    fun name e p' hl => (transfers_loadPrivate _ name a).apply h hl,
    fun r reference e p' hr => (transfers_resolvePublicKey r _ reference a).apply h hr,
    fun r reference key p' hr => (transfers_resolvePublicKey r _ reference a).apply h hr,
    fun r reference e p' hr => (transfers_resolvePrivateKey r _ reference a).apply h hr,
    fun r reference key p' hr => (transfers_resolvePrivateKey r _ reference a).apply h hr⟩

end KeyCustody
