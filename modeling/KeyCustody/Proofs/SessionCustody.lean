import KeyCustody.Proofs.Keys
import KeyCustody.Session.Step

/-!
# Sessions in custody

A session holds the leases of its objects: a lease object holds itself, memory and keys hold
their buffers' leases. With the names of the objects distinct, storing an object, setting one,
removing one and taking one out change these leases by exactly the objects involved, up to order.

`Session.Holding s extra` says the session is in order while the leases `extra` are held outside
it, as by an object taken out and not yet stored or dropped: distinct names, the pool invariant
for `extra` and the session's leases together, and conforming signers in the registry and in
every private key. `Session.Sound` is the case of nothing held outside.
-/

namespace KeyCustody

open Pool

namespace Item

/-- The leases an object holds. -/
def leases : Item → List Lease
  | lease l => [l]
  | memory _ m => m.leases
  | privateKey k => k.leases
  | publicKey k => k.leases

@[simp] theorem leases_lease (l : Lease) : (lease l).leases = [l] := rfl
@[simp] theorem leases_memory (k : MemoryKind) (m : Memory) : (memory k m).leases = m.leases := rfl
@[simp] theorem leases_privateKey (k : PrivateKey) : (privateKey k).leases = k.leases := rfl
@[simp] theorem leases_publicKey (k : PublicKey) : (publicKey k).leases = k.leases := rfl

/-- An object conforms when, being a private key, its signer does. -/
def Conforming : Item → Prop
  | privateKey k => k.signer.Conforming
  | _ => True

@[simp] theorem conforming_privateKey (k : PrivateKey) : (privateKey k).Conforming ↔ k.signer.Conforming :=
  Iff.rfl

end Item

@[simp] theorem PrivateKey.signer_dispose (k : PrivateKey) (p : Pool) :
    (k.dispose p).1.signer = k.signer := rfl

namespace Pool

variable {p : Pool} {ls : List Lease}

/-- Dropping an object gives its leases back. -/
theorem Sound.dropItem {i : Item} (h : p.Sound (i.leases ++ ls)) : (i.drop p).Sound ls := by
  cases i with
  | lease l => exact h.giveBack
  | memory k m => exact h.dispose_memory
  | privateKey k => exact PrivateKey.Sound.dispose h
  | publicKey k => exact PublicKey.Sound.dispose h

/-- Disposing memory leaves the bytes of every other lease out as they were. -/
theorem read_dispose_memory {m : Memory} (h : p.Sound (m.leases ++ ls)) {l : Lease} (hl : l ∈ ls) :
    (m.dispose p).2.read l = p.read l := by
  unfold Memory.dispose
  cases hb : m.backing with
  | owned o =>
    rw [Memory.leases, hb] at h
    exact read_drop_owner h hl
  | empty => rfl
  | disposed => rfl

/-- Dropping an object leaves the bytes of every other lease out as they were. -/
theorem read_dropItem {i : Item} (h : p.Sound (i.leases ++ ls)) {l : Lease} (hl : l ∈ ls) :
    (i.drop p).read l = p.read l := by
  cases i with
  | lease l' => exact read_giveBack h hl
  | memory k m => exact read_dispose_memory h hl
  | privateKey k => exact read_dispose_memory h hl
  | publicKey k => exact read_dispose_memory h hl

end Pool

namespace MemoryKind

theorem transfers_copy (k : MemoryKind) (a : Allocator) (bytes : List UInt8) (t : Tag) :
    Transfers [] Memory.leases (k.copy a bytes t) := by
  intro p ls h
  unfold copy
  split
  · exact Memory.transfers_copyAs _ a bytes t p ls h
  · exact Memory.transfers_copyFrom a bytes t p ls h

theorem transfers_own (k : MemoryKind) (o : Owner) (t : Tag) :
    Transfers o.leases Memory.leases (k.own o t) := by
  intro p ls h
  unfold own
  split
  · exact Memory.transfers_ownAs _ o t p ls h
  · exact Memory.transfers_ofOwner o t p ls h

theorem transfers_wrap (k : MemoryKind) (m : Memory) : Transfers m.leases Memory.leases (k.wrap m) := by
  intro p ls h
  unfold wrap
  split
  · exact Memory.transfers_wrapAs _ m p ls h
  · exact h

end MemoryKind

namespace Session

@[simp] theorem remove_pool (s : Session) (name : String) : (s.remove name).pool = s.pool := rfl

/-- The leases the objects of a session hold, in the order of the objects. -/
def leases (s : Session) : List Lease := s.items.flatMap fun e => e.2.leases

/-- No two objects of the session share a name. -/
def NamesDistinct (s : Session) : Prop := (s.items.map Prod.fst).Nodup

/-- The session is in order while the leases `extra` are held outside it. -/
structure Holding (s : Session) (extra : List Lease) : Prop where
  distinct : s.NamesDistinct
  pool : s.pool.Sound (extra ++ s.leases)
  registry : s.registry.Conforming
  objects : ∀ e ∈ s.items, e.2.Conforming

/-- The session invariant: the pool is in order for exactly the leases the objects hold. -/
def Sound (s : Session) : Prop := s.Holding []

variable {s : Session} {name : String} {i : Item} {extra : List Lease}

/-- The objects renamed by `set`: only the one under the name changes. -/
theorem map_set_of_ne {l : List (String × Item)} (hl : ∀ e ∈ l, e.1 ≠ name) (i : Item) :
    l.map (fun (n, j) => if n = name then (n, i) else (n, j)) = l := by
  induction l with
  | nil => rfl
  | cons e l ih =>
    obtain ⟨n, j⟩ := e
    have hn : n ≠ name := hl (n, j) List.mem_cons_self
    simp only [List.map_cons, if_neg hn, ih fun e' he' => hl e' (List.mem_cons_of_mem _ he')]

/-- An object found by name splits the objects around it, and no other has its name. -/
theorem find?_split (hd : s.NamesDistinct) (hf : s.find? name = some i) :
    ∃ pre post, s.items = pre ++ (name, i) :: post ∧ (∀ e ∈ pre, e.1 ≠ name) ∧
      ∀ e ∈ post, e.1 ≠ name := by
  unfold find? at hf
  obtain ⟨⟨n, j⟩, he, rfl⟩ := Option.map_eq_some_iff.mp hf
  obtain ⟨hn, pre, post, hsplit, hpre⟩ := List.find?_eq_some_iff_append.mp he
  simp only [decide_eq_true_eq] at hn
  subst hn
  refine ⟨pre, post, hsplit, fun e he' h => ?_, fun e he' h => ?_⟩
  · simpa [h] using hpre e he'
  · have hnd := hd
    rw [NamesDistinct, hsplit, List.map_append, List.map_cons] at hnd
    have hmem : n ∈ post.map Prod.fst := by
      rw [← h]
      exact List.mem_map_of_mem he'
    exact (List.nodup_cons.mp (List.nodup_append.mp hnd).2.1).1 hmem

/-- Looking up another name skips the object under this one. -/
theorem find?_split_ne {pre post : List (String × Item)} {name name' : String} (x : Item)
    (hne : name' ≠ name) :
    (pre ++ (name, x) :: post).find? (fun e => decide (e.1 = name')) =
      (pre ++ post).find? (fun e => decide (e.1 = name')) := by
  rw [List.find?_append, List.find?_cons_of_neg (by simpa using Ne.symm hne), List.find?_append]

section Split

variable {pre post : List (String × Item)} (hsplit : s.items = pre ++ (name, i) :: post)
  (hpre : ∀ e ∈ pre, e.1 ≠ name) (hpost : ∀ e ∈ post, e.1 ≠ name)
include hsplit hpre hpost

theorem remove_items_of_split : (s.remove name).items = pre ++ post := by
  have hp : pre.filter (fun e => decide (e.1 ≠ name)) = pre :=
    List.filter_eq_self.mpr fun e he => by simpa using hpre e he
  have hq : post.filter (fun e => decide (e.1 ≠ name)) = post :=
    List.filter_eq_self.mpr fun e he => by simpa using hpost e he
  simp only [remove, hsplit, List.filter_append, List.filter_cons, hp, hq]
  simp

theorem set_items_of_split (i' : Item) : (s.set name i').items = pre ++ (name, i') :: post := by
  simp only [set, hsplit, List.map_append, List.map_cons, if_pos, map_set_of_ne hpre,
    map_set_of_ne hpost]

theorem leases_perm_of_split : s.leases.Perm (i.leases ++ (s.remove name).leases) := by
  rw [leases, leases, hsplit, remove_items_of_split hsplit hpre hpost, List.flatMap_append,
    List.flatMap_cons, List.flatMap_append]
  exact List.perm_append_comm_assoc _ _ _

theorem set_leases_perm_of_split (i' : Item) :
    (s.set name i').leases.Perm (i'.leases ++ (s.remove name).leases) := by
  rw [leases, leases, set_items_of_split hsplit hpre hpost, remove_items_of_split hsplit hpre hpost,
    List.flatMap_append, List.flatMap_cons, List.flatMap_append]
  exact List.perm_append_comm_assoc _ _ _


theorem find?_set_self (i' : Item) : (s.set name i').find? name = some i' := by
  unfold find?
  rw [set_items_of_split hsplit hpre hpost, List.find?_append, List.find?_eq_none.mpr
    (fun e he h => hpre e he (by simpa using h))]
  simp

theorem find?_set_ne (i' : Item) {name' : String} (hne : name' ≠ name) :
    (s.set name i').find? name' = s.find? name' := by
  unfold find?
  rw [set_items_of_split hsplit hpre hpost, hsplit, find?_split_ne _ hne, find?_split_ne _ hne]

theorem find?_remove_self : (s.remove name).find? name = none := by
  unfold find?
  rw [remove_items_of_split hsplit hpre hpost, Option.map_eq_none_iff, List.find?_eq_none]
  intro e he h
  rcases List.mem_append.mp he with he | he
  · exact hpre e he (by simpa using h)
  · exact hpost e he (by simpa using h)

theorem find?_remove_ne {name' : String} (hne : name' ≠ name) :
    (s.remove name).find? name' = s.find? name' := by
  unfold find?
  rw [remove_items_of_split hsplit hpre hpost, hsplit, find?_split_ne _ hne]

end Split

theorem names_set (s : Session) (name : String) (i : Item) :
    (s.set name i).items.map Prod.fst = s.items.map Prod.fst := by
  simp only [set]
  induction s.items with
  | nil => rfl
  | cons e l ih =>
    obtain ⟨n, j⟩ := e
    by_cases hn : n = name <;> simp [hn, ih]

theorem NamesDistinct.set (hd : s.NamesDistinct) (i : Item) : (s.set name i).NamesDistinct := by
  rw [NamesDistinct, names_set]
  exact hd

theorem NamesDistinct.remove (hd : s.NamesDistinct) (name : String) :
    (s.remove name).NamesDistinct :=
  hd.sublist (List.filter_sublist.map Prod.fst)

theorem mem_set {e : String × Item} (he : e ∈ (s.set name i).items) : e = (name, i) ∨ e ∈ s.items := by
  simp only [set, List.mem_map] at he
  obtain ⟨⟨n, j⟩, hmem, rfl⟩ := he
  by_cases hn : n = name
  · subst hn
    exact .inl (by simp)
  · exact .inr (by simpa [hn] using hmem)

/-- Taking an object out of a session in order holds its leases outside. -/
theorem Holding.take (h : s.Holding extra) (hf : s.find? name = some i) :
    (s.remove name).Holding (i.leases ++ extra) := by
  obtain ⟨pre, post, hsplit, hpre, hpost⟩ := find?_split h.distinct hf
  have hperm := leases_perm_of_split hsplit hpre hpost
  refine ⟨h.distinct.remove name, h.pool.perm (List.perm_iff_count.mpr fun a => ?_), h.registry,
    fun e he => h.objects e (List.mem_of_mem_filter he)⟩
  have := hperm.count_eq a
  simp only [List.count_append] at this ⊢
  omega

/-- An object found in a session in order conforms. -/
theorem Holding.conforming (h : s.Holding extra) (hf : s.find? name = some i) : i.Conforming := by
  obtain ⟨pre, post, hsplit, -, -⟩ := find?_split h.distinct hf
  exact h.objects (name, i) (by simp [hsplit])

/-- Storing a conforming object held outside keeps the session in order, dropping the object that
was under its name. -/
theorem Holding.put (h : s.Holding (i.leases ++ extra)) (hi : i.Conforming) :
    (s.put name i).Holding extra := by
  unfold Session.put
  cases hf : s.find? name with
  | none =>
    -- a new name: the object goes last
    have hnew : ∀ e ∈ s.items, e.1 ≠ name := by
      intro e he hn
      have := List.find?_eq_none.mp (Option.map_eq_none_iff.mp hf) e he
      simp [hn] at this
    refine ⟨?_, h.pool.perm (List.perm_iff_count.mpr fun a => ?_), h.registry, ?_⟩
    · rw [NamesDistinct, List.map_append]
      refine List.nodup_append.mpr ⟨h.distinct, by simp, ?_⟩
      intro a ha b hb hab
      simp only [List.map_cons, List.map_nil, List.mem_singleton] at hb
      obtain ⟨e, he, rfl⟩ := List.mem_map.mp ha
      exact hnew e he (hab.trans hb)
    · simp only [leases, List.flatMap_append, List.flatMap_cons, List.flatMap_nil,
        List.append_nil, List.count_append]
      omega
    · intro e he
      rcases List.mem_append.mp he with he | he
      · exact h.objects e he
      · rw [List.mem_singleton] at he
        rw [he]
        exact hi
  | some old =>
    -- the object under the name is dropped, with the new one held outside meanwhile
    obtain ⟨pre, post, hsplit, hpre, hpost⟩ := find?_split h.distinct hf
    have hperm := leases_perm_of_split hsplit hpre hpost
    have hset := set_leases_perm_of_split hsplit hpre hpost i
    have hdrop : (old.drop s.pool).Sound (extra ++ (s.set name i).leases) := by
      refine Sound.dropItem (h.pool.perm (List.perm_iff_count.mpr fun a => ?_))
      have h1 := hperm.count_eq a
      have h2 := hset.count_eq a
      simp only [List.count_append] at h1 h2 ⊢
      omega
    refine ⟨h.distinct.set i, hdrop, h.registry, fun e he => ?_⟩
    rcases mem_set he with rfl | he
    · exact hi
    · exact h.objects e he

theorem Holding.put_nil (h : s.Holding i.leases) (hi : i.Conforming) : (s.put name i).Sound :=
  Holding.put (by rwa [List.append_nil]) hi

/-- A step that stores what an operation made, or only its pool when it failed, keeps the session
in order when the operation transferred leases to a conforming result. -/
theorem Holding.keep {ε : Type} (fail : ε → StepError) {r : Except ε Item} {p : Pool}
    (h : ({ s with pool := p } : Session).Holding (resultLeases Item.leases r))
    (hr : ∀ i, r = .ok i → i.Conforming) : (s.keep name fail (r, p)).2.Sound := by
  cases r with
  | ok i => exact Holding.put_nil h (hr i rfl)
  | error e => exact h

/-- A step that refuses an object it has taken out drops it and keeps the session in order. -/
theorem Holding.refuse (h : s.Holding i.leases) (e : StepError) : (s.refuse i e).2.Sound :=
  ⟨h.distinct, h.pool.dropItem, h.registry, h.objects⟩

/-- The session with the pool an operation left, when the operation transferred leases. -/
theorem Holding.transfer {ε α : Type} {ins : List Lease} {holds : α → List Lease}
    {op : Pool → Except ε α × Pool} (h : s.Holding ins) (ht : Transfers ins holds op)
    {r : Except ε α} {p : Pool} (hr : op s.pool = (r, p)) :
    ({ s with pool := p } : Session).Holding (resultLeases holds r) :=
  ⟨h.distinct, ht.apply h.pool hr, h.registry, h.objects⟩

/-- A lease of an object found by name is a lease of the session. -/
theorem mem_leases_of_find? (hf : s.find? name = some i) {l : Lease} (hl : l ∈ i.leases) :
    l ∈ s.leases := by
  unfold find? at hf
  obtain ⟨e, he, rfl⟩ := Option.map_eq_some_iff.mp hf
  exact List.mem_flatMap.mpr ⟨e, List.mem_of_find?_eq_some he, hl⟩

/-- Setting a conforming object in place of the one under its name, with a pool in order for the
new object and the rest of the session, keeps the session in order. -/
theorem Sound.set (h : s.Sound) (hf : s.find? name = some i) {i' : Item} (hi' : i'.Conforming)
    {p : Pool} (hp : p.Sound (i'.leases ++ (s.remove name).leases)) :
    ({ s.set name i' with pool := p } : Session).Sound := by
  obtain ⟨pre, post, hsplit, hpre, hpost⟩ := find?_split h.distinct hf
  refine ⟨h.distinct.set i', hp.perm (set_leases_perm_of_split hsplit hpre hpost i').symm,
    h.registry, fun e he => ?_⟩
  rcases mem_set he with rfl | he
  · exact hi'
  · exact h.objects e he

/-- Storing what an operation made, mapped to an object, keeps the session in order when the
operation transferred leases to it. -/
theorem Holding.keepMap {ε α : Type} (fail : ε → StepError) {ins : List Lease}
    {holds : α → List Lease} {op : Pool → Except ε α × Pool} (f : α → Item) (h : s.Holding ins)
    (ht : Transfers ins holds op) (hf : ∀ a, (f a).leases = holds a) {r : Except ε α} {p : Pool}
    (hr : op s.pool = (r, p)) (hc : ∀ a, r = .ok a → (f a).Conforming) :
    (s.keep name fail (r.map f, p)).2.Sound := by
  refine Holding.keep fail ?_ fun i hi => ?_
  · have ht' := h.transfer ht hr
    have hres : resultLeases Item.leases (r.map f) = resultLeases holds r := by
      cases r with
      | ok a => exact hf a
      | error e => rfl
    rw [hres]
    exact ht'
  · cases r with
    | ok a =>
      cases hi
      exact hc a rfl
    | error e => cases hi

theorem missing_session (s : Session) (name step expected : String) :
    (s.missing name step expected).2 = s := by
  unfold missing
  split <;> rfl

end Session

end KeyCustody
