import Mathlib.Data.Finset.Card
import KeyCustody.Schemes

/-!
# Resolving functions through a registry

A function table keeps its signers and its verifiers in two lists keyed by function key.
Registering under a key that is taken replaces the function in place, so the keys stay distinct,
a key is counted once however often it was registered, and the function under a key is the one
registered last under exactly that key (`FunctionTable.lookupKey_signers`). Nothing registered
under another key, or as a verifier, can answer for it.

A registry holds one table. The first initialization installs it; every later one is refused and
leaves the registry as it was. So after any sequence of initializations a lookup is refused as
uninitialized exactly when there was none, and otherwise answers from the first table
(`resolution_by_first_table`).
-/

namespace KeyCustody

section Assign

variable {α : Type} (k k' : FunctionKey) (v : α)

/-- Looking up the key just assigned finds the value; any other key finds what it found before. -/
theorem lookupKey_assign (es : List (FunctionKey × α)) :
    lookupKey k (assign k' v es) = if k' = k then some v else lookupKey k es := by
  induction es with
  | nil => by_cases h : k' = k <;> simp [assign, lookupKey, h]
  | cons e rest ih =>
    obtain ⟨j, w⟩ := e
    by_cases hj : j = k'
    · -- the entry of the key is replaced in place
      subst hj
      by_cases h : j = k <;> simp [assign, lookupKey, h]
    · simp only [lookupKey] at ih
      by_cases h : j = k
      · have hk : k' ≠ k := fun hk => hj (h.trans hk.symm)
        simp [assign, lookupKey, h, hk, Ne.symm hk]
      · simp [assign, lookupKey, hj, h, ih]

theorem keys_assign (es : List (FunctionKey × α)) :
    (assign k' v es).map Prod.fst =
      if k' ∈ es.map Prod.fst then es.map Prod.fst else es.map Prod.fst ++ [k'] := by
  induction es with
  | nil => simp [assign]
  | cons e rest ih =>
    obtain ⟨j, w⟩ := e
    by_cases hj : j = k'
    · simp [assign, hj]
    · have hne : k' ≠ j := Ne.symm hj
      by_cases hin : k' ∈ rest.map Prod.fst <;> simp_all [assign]

/-- Assigning keeps the keys distinct. -/
theorem nodup_keys_assign {es : List (FunctionKey × α)} (h : (es.map Prod.fst).Nodup) :
    ((assign k' v es).map Prod.fst).Nodup := by
  rw [keys_assign]
  split
  · exact h
  · rename_i hin
    refine List.nodup_append.mpr ⟨h, List.nodup_singleton _, fun a ha b hb he => hin ?_⟩
    rw [List.mem_singleton] at hb
    rwa [← hb, ← he]

theorem isSome_lookupKey (es : List (FunctionKey × α)) :
    (lookupKey k es).isSome ↔ k ∈ es.map Prod.fst := by
  simp [lookupKey, List.find?_isSome]

end Assign

namespace Registration

/-- The signer a registration puts under key `k`, if it puts one there. -/
def signerAt (k : FunctionKey) : Registration → Option Signer
  | .signer k' s => if k' = k then some s else none
  | .verifier _ _ => none

/-- The verifier a registration puts under key `k`, if it puts one there. -/
def verifierAt (k : FunctionKey) : Registration → Option Verifier
  | .signer _ _ => none
  | .verifier k' v => if k' = k then some v else none

/-- The key of a signer registration. -/
def signerKey : Registration → Option FunctionKey
  | .signer k _ => some k
  | .verifier _ _ => none

/-- The key of a verifier registration. -/
def verifierKey : Registration → Option FunctionKey
  | .signer _ _ => none
  | .verifier k _ => some k

end Registration

namespace FunctionTable

/-- The table built from an empty one by registrations in order. -/
def ofRegistrations (regs : List Registration) : FunctionTable := regs.foldl apply {}

variable (k : FunctionKey)

theorem lookupKey_foldl_signers (regs : List Registration) (t : FunctionTable) :
    lookupKey k (regs.foldl apply t).signers =
      ((regs.filterMap (·.signerAt k)).getLast?).or (lookupKey k t.signers) := by
  induction regs generalizing t with
  | nil => simp
  | cons r regs ih =>
    rw [List.foldl_cons, ih]
    cases r with
    | signer k' s =>
      by_cases h : k' = k
      · -- this registration answers for `k` unless a later one does
        subst h
        have hr : (Registration.signer k' s).signerAt k' = some s := by simp [Registration.signerAt]
        rw [List.filterMap_cons_some hr, List.getLast?_cons]
        simp only [apply, withSigner, lookupKey_assign]
        cases (regs.filterMap (·.signerAt k')).getLast? <;> rfl
      · simp [apply, withSigner, lookupKey_assign, Registration.signerAt, h]
    | verifier k' v => simp [apply, withVerifier, Registration.signerAt]

theorem lookupKey_foldl_verifiers (regs : List Registration) (t : FunctionTable) :
    lookupKey k (regs.foldl apply t).verifiers =
      ((regs.filterMap (·.verifierAt k)).getLast?).or (lookupKey k t.verifiers) := by
  induction regs generalizing t with
  | nil => simp
  | cons r regs ih =>
    rw [List.foldl_cons, ih]
    cases r with
    | signer k' s => simp [apply, withSigner, Registration.verifierAt]
    | verifier k' v =>
      by_cases h : k' = k
      · subst h
        have hr : (Registration.verifier k' v).verifierAt k' = some v := by
          simp [Registration.verifierAt]
        rw [List.filterMap_cons_some hr, List.getLast?_cons]
        simp only [apply, withVerifier, lookupKey_assign]
        cases (regs.filterMap (·.verifierAt k')).getLast? <;> rfl
      · simp [apply, withVerifier, lookupKey_assign, Registration.verifierAt, h]

/-- The signer under a key is the one registered last under exactly that key. -/
theorem lookupKey_signers (regs : List Registration) :
    lookupKey k (ofRegistrations regs).signers = (regs.filterMap (·.signerAt k)).getLast? := by
  rw [ofRegistrations, lookupKey_foldl_signers]
  exact Option.or_none

/-- The verifier under a key is the one registered last under exactly that key. -/
theorem lookupKey_verifiers (regs : List Registration) :
    lookupKey k (ofRegistrations regs).verifiers = (regs.filterMap (·.verifierAt k)).getLast? := by
  rw [ofRegistrations, lookupKey_foldl_verifiers]
  exact Option.or_none

theorem nodup_keys_foldl (regs : List Registration) (t : FunctionTable)
    (hs : (t.signers.map Prod.fst).Nodup) (hv : (t.verifiers.map Prod.fst).Nodup) :
    ((regs.foldl apply t).signers.map Prod.fst).Nodup ∧
      ((regs.foldl apply t).verifiers.map Prod.fst).Nodup := by
  induction regs generalizing t with
  | nil => exact ⟨hs, hv⟩
  | cons r regs ih =>
    cases r with
    | signer k' s => exact ih _ (nodup_keys_assign k' s hs) hv
    | verifier k' v => exact ih _ hs (nodup_keys_assign k' v hv)

theorem mem_signerKeys (regs : List Registration) :
    k ∈ (ofRegistrations regs).signers.map Prod.fst ↔ k ∈ regs.filterMap Registration.signerKey := by
  rw [← isSome_lookupKey, lookupKey_signers, List.getLast?_isSome, ← List.isEmpty_eq_false_iff,
    ← Bool.not_eq_true, List.isEmpty_iff, List.filterMap_eq_nil_iff]
  simp only [not_forall, List.mem_filterMap]
  constructor
  · rintro ⟨r, hr, hs⟩
    cases r with
    | signer k' s => exact ⟨_, hr, by simpa [Registration.signerAt, Registration.signerKey] using hs⟩
    | verifier k' v => simp [Registration.signerAt] at hs
  · rintro ⟨r, hr, hk⟩
    cases r with
    | signer k' s =>
      simp only [Registration.signerKey, Option.some.injEq] at hk
      exact ⟨_, hr, by simp [Registration.signerAt, hk]⟩
    | verifier k' v => simp [Registration.signerKey] at hk

theorem mem_verifierKeys (regs : List Registration) :
    k ∈ (ofRegistrations regs).verifiers.map Prod.fst ↔
      k ∈ regs.filterMap Registration.verifierKey := by
  rw [← isSome_lookupKey, lookupKey_verifiers, List.getLast?_isSome, ← List.isEmpty_eq_false_iff,
    ← Bool.not_eq_true, List.isEmpty_iff, List.filterMap_eq_nil_iff]
  simp only [not_forall, List.mem_filterMap]
  constructor
  · rintro ⟨r, hr, hv⟩
    cases r with
    | signer k' s => simp [Registration.verifierAt] at hv
    | verifier k' v =>
      exact ⟨_, hr, by simpa [Registration.verifierAt, Registration.verifierKey] using hv⟩
  · rintro ⟨r, hr, hk⟩
    cases r with
    | signer k' s => simp [Registration.verifierKey] at hk
    | verifier k' v =>
      simp only [Registration.verifierKey, Option.some.injEq] at hk
      exact ⟨_, hr, by simp [Registration.verifierAt, hk]⟩

/-- The signer found under a key was registered under exactly that key. -/
theorem signer_mem_of_getLast? {regs : List Registration} {s : Signer}
    (h : (regs.filterMap (·.signerAt k)).getLast? = some s) : Registration.signer k s ∈ regs := by
  obtain ⟨r, hr, hrs⟩ := List.mem_filterMap.mp (List.mem_of_getLast? h)
  cases r with
  | signer k' s' =>
    simp only [Registration.signerAt] at hrs
    split at hrs
    · rename_i hk
      cases hrs
      exact hk ▸ hr
    · cases hrs
  | verifier _ _ => cases hrs

/-- The verifier found under a key was registered under exactly that key. -/
theorem verifier_mem_of_getLast? {regs : List Registration} {v : Verifier}
    (h : (regs.filterMap (·.verifierAt k)).getLast? = some v) : Registration.verifier k v ∈ regs := by
  obtain ⟨r, hr, hrv⟩ := List.mem_filterMap.mp (List.mem_of_getLast? h)
  cases r with
  | signer _ _ => cases hrv
  | verifier k' v' =>
    simp only [Registration.verifierAt] at hrv
    split at hrv
    · rename_i hk
      cases hrv
      exact hk ▸ hr
    · cases hrv

/-- An association list with distinct keys has one entry per key. -/
theorem length_eq_card_keys {α : Type} {es : List (FunctionKey × α)} {ks : List FunctionKey}
    (hnodup : (es.map Prod.fst).Nodup) (hkeys : ∀ k, k ∈ es.map Prod.fst ↔ k ∈ ks) :
    es.length = ks.toFinset.card := by
  have hset : (es.map Prod.fst).toFinset = ks.toFinset := by
    ext k
    simpa only [List.mem_toFinset] using hkeys k
  rw [← List.length_map Prod.fst, ← List.toFinset_card_of_nodup hnodup, hset]

/-- A table counts each key it was given a signer under once. -/
theorem signerCount_ofRegistrations (regs : List Registration) :
    (ofRegistrations regs).signerCount = (regs.filterMap Registration.signerKey).toFinset.card :=
  length_eq_card_keys (nodup_keys_foldl regs {} List.nodup_nil List.nodup_nil).1
    (mem_signerKeys · regs)

/-- A table counts each key it was given a verifier under once. -/
theorem verifierCount_ofRegistrations (regs : List Registration) :
    (ofRegistrations regs).verifierCount =
      (regs.filterMap Registration.verifierKey).toFinset.card :=
  length_eq_card_keys (nodup_keys_foldl regs {} List.nodup_nil List.nodup_nil).2
    (mem_verifierKeys · regs)

end FunctionTable

namespace Registry

/-- The registry after initializing it with each table in order; a refused table leaves it as it
was. -/
def initializeAll (r : Registry) (ts : List FunctionTable) : Registry :=
  ts.foldl (fun r t => match r.install t with | .ok r' => r' | .error _ => r) r

theorem install_of_installed {r : Registry} {t : FunctionTable} (h : r.table = some t)
    (t' : FunctionTable) : r.install t' = .error .alreadyInitialized := by
  simp [install, h]

/-- Once a table is installed, initializing again changes nothing. -/
theorem initializeAll_of_installed {r : Registry} {t : FunctionTable} (h : r.table = some t)
    (ts : List FunctionTable) : r.initializeAll ts = r := by
  induction ts with
  | nil => rfl
  | cons t' ts ih =>
    rw [initializeAll, List.foldl_cons, install_of_installed h]
    exact ih

/-- A registry initialized with tables in order holds the first of them. -/
theorem table_initializeAll (ts : List FunctionTable) : (({} : Registry).initializeAll ts).table = ts.head? := by
  cases ts with
  | nil => rfl
  | cons t ts =>
    have h : ({ table := some t } : Registry).table = some t := rfl
    exact congrArg Registry.table (initializeAll_of_installed h ts)

theorem resolveSigner_of_table {r : Registry} {t : FunctionTable} (h : r.table = some t)
    (k : FunctionKey) :
    r.resolveSigner k = match lookupKey k t.signers with
      | some s => .ok s
      | none => .error (.notFound k) := by
  cases hl : lookupKey k t.signers <;> simp [resolveSigner, h, hl]

theorem resolveVerifier_of_table {r : Registry} {t : FunctionTable} (h : r.table = some t)
    (k : FunctionKey) :
    r.resolveVerifier k = match lookupKey k t.verifiers with
      | some v => .ok v
      | none => .error (.notFound k) := by
  cases hl : lookupKey k t.verifiers <;> simp [resolveVerifier, h, hl]

end Registry

open FunctionTable Registry

/-- On a registry initialized with tables built from registrations, in order: a lookup is refused
as uninitialized exactly when no table was given; otherwise the first table answers with the
function registered last under exactly the key asked, or `notFound` with that key, and every
later initialization is refused. Each table counts the distinct keys it was given. -/
theorem resolution_by_first_table (tables : List (List Registration)) (k : FunctionKey) :
    ((({} : Registry).initializeAll (tables.map ofRegistrations)).resolveSigner k =
        .error .notInitialized ↔ tables = []) ∧
    ((({} : Registry).initializeAll (tables.map ofRegistrations)).resolveVerifier k =
        .error .notInitialized ↔ tables = []) ∧
    (∀ regs rest, tables = regs :: rest →
      (({} : Registry).initializeAll (tables.map ofRegistrations)).resolveSigner k =
        (match (regs.filterMap (·.signerAt k)).getLast? with
          | some s => .ok s
          | none => .error (.notFound k)) ∧
      (({} : Registry).initializeAll (tables.map ofRegistrations)).resolveVerifier k =
        (match (regs.filterMap (·.verifierAt k)).getLast? with
          | some v => .ok v
          | none => .error (.notFound k)) ∧
      (∀ s, (({} : Registry).initializeAll (tables.map ofRegistrations)).resolveSigner k = .ok s →
        Registration.signer k s ∈ regs) ∧
      (∀ v, (({} : Registry).initializeAll (tables.map ofRegistrations)).resolveVerifier k = .ok v →
        Registration.verifier k v ∈ regs) ∧
      ∀ t, (({} : Registry).initializeAll (tables.map ofRegistrations)).install t =
        .error .alreadyInitialized) ∧
    ∀ regs, (ofRegistrations regs).signerCount =
        (regs.filterMap Registration.signerKey).toFinset.card ∧
      (ofRegistrations regs).verifierCount =
        (regs.filterMap Registration.verifierKey).toFinset.card := by
  have hcount : ∀ regs, (ofRegistrations regs).signerCount =
      (regs.filterMap Registration.signerKey).toFinset.card ∧
      (ofRegistrations regs).verifierCount =
        (regs.filterMap Registration.verifierKey).toFinset.card :=
    fun regs => ⟨signerCount_ofRegistrations regs, verifierCount_ofRegistrations regs⟩
  cases tables with
  | nil =>
    -- no table was given
    refine ⟨iff_of_true rfl rfl, iff_of_true rfl rfl, ?_, hcount⟩
    intro regs rest h
    exact absurd h.symm (List.cons_ne_nil regs rest)
  | cons regs rest =>
    have htable : (({} : Registry).initializeAll ((regs :: rest).map ofRegistrations)).table =
        some (ofRegistrations regs) := table_initializeAll _
    have hsigner := resolveSigner_of_table htable k
    have hverifier := resolveVerifier_of_table htable k
    rw [lookupKey_signers] at hsigner
    rw [lookupKey_verifiers] at hverifier
    refine ⟨iff_of_false ?_ (List.cons_ne_nil regs rest), iff_of_false ?_ (List.cons_ne_nil regs rest),
      ?_, hcount⟩
    · rw [hsigner]
      split <;> simp
    · rw [hverifier]
      split <;> simp
    rintro regs' rest' heq
    obtain ⟨rfl, rfl⟩ := List.cons.inj heq
    refine ⟨hsigner, hverifier, fun s hs => ?_, fun v hv => ?_, install_of_installed htable⟩
    · rw [hsigner] at hs
      split at hs
      · cases hs
        exact signer_mem_of_getLast? k ‹_›
      · cases hs
    · rw [hverifier] at hv
      split at hv
      · cases hv
        exact verifier_mem_of_getLast? k ‹_›
      · cases hv

end KeyCustody
