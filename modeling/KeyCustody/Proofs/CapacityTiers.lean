import Mathlib
import KeyCustody.Pool.Basic

/-!
# Capacity tiers: validation and lookup

A pool configuration is checked in a fixed order: the fallback count first, then the tiers one
by one, each for a positive count before its largest size is compared with that of the tier
before it. The first check that fails is the one reported.

`validate_reports_first_failed_check` says that validation accepts exactly the configurations
whose counts are all positive and whose tiers' largest sizes strictly increase, that a refusal
names exactly the first check that fails, and that making a pool from a configuration, or reading
one from JSON, fails exactly when validating it does.

On a valid configuration the tiers cut the sizes into consecutive ranges: tier `i` serves the
sizes above the largest size of tier `i - 1` and up to its own. `segmentsPerSlab_by_serving_tier`
says that a size is served by one tier at most, and by one exactly unless it lies above the
last tier; that its count is that tier's count, or the fallback count above the last tier; and
that the count is never zero, so the pool's raise of a zero count to one never changes it.
-/

namespace KeyCustody

/-- Tiers as a valid configuration has them: every count positive, and the largest sizes
strictly increasing along the list. -/
def TiersWellFormed (ts : List CapacityTier) : Prop :=
  (∀ t ∈ ts, 0 < t.segmentsPerSlab) ∧ (ts.map (·.maxSegmentSize)).Pairwise (· < ·)

/-- What the checks of tier `t` report, given the largest size of the tier before it: a zero
count first, and only then a largest size that is not above the one before. -/
def TierDefect (previous : Option Nat) (t : CapacityTier) (e : ConfigError) : Prop :=
  (t.segmentsPerSlab = 0 ∧ e = .zeroSegments t.maxSegmentSize) ∨
    (0 < t.segmentsPerSlab ∧ (∃ b ∈ previous, t.maxSegmentSize ≤ b) ∧ e = .tiersNotIncreasing)

namespace PoolConfig

/-- The configurations validation is meant to accept. -/
def Valid (c : PoolConfig) : Prop :=
  0 < c.fallbackSegmentsPerSlab ∧ TiersWellFormed c.capacityTiers

/-- `e` reports the first check of the configuration that fails: the fallback count, or else
the defect of the first tier that has one, every tier before it being well formed. -/
def FirstDefect (c : PoolConfig) (e : ConfigError) : Prop :=
  (c.fallbackSegmentsPerSlab = 0 ∧ e = .zeroFallback) ∨
    (0 < c.fallbackSegmentsPerSlab ∧ ∃ pre t post, c.capacityTiers = pre ++ t :: post ∧
      TiersWellFormed pre ∧ TierDefect (pre.getLast?.map (·.maxSegmentSize)) t e)

/-- Tier `i` serves size `n`: `n` is at most its largest size and, past the first tier, above
the largest size of tier `i - 1`. -/
def TierServes (c : PoolConfig) (i n : Nat) : Prop :=
  (∃ t ∈ c.capacityTiers[i]?, n ≤ t.maxSegmentSize) ∧
    (0 < i → ∃ q ∈ c.capacityTiers[i - 1]?, q.maxSegmentSize < n)

end PoolConfig

/-! ### The checks of the tiers -/

section Checks

variable {previous : Option Nat} {t : CapacityTier} {ts : List CapacityTier} {e : ConfigError}

/-- The tier passes both of its checks against the largest size before it. -/
def TierPasses (previous : Option Nat) (t : CapacityTier) : Prop :=
  0 < t.segmentsPerSlab ∧ ∀ b ∈ previous, b < t.maxSegmentSize

theorem checkTiers_of_passes (h : TierPasses previous t) :
    checkTiers previous (t :: ts) = checkTiers (some t.maxSegmentSize) ts := by
  obtain ⟨hpos, hbelow⟩ := h
  have ho : previous.any (t.maxSegmentSize ≤ ·) = false := by
    cases previous with
    | none => rfl
    | some b => simpa using hbelow b rfl
  simp [checkTiers, Nat.pos_iff_ne_zero.mp hpos, ho]

/-- The checks of a tier with a defect end with that defect. -/
theorem checkTiers_of_defect (hd : TierDefect previous t e) :
    checkTiers previous (t :: ts) = .error e := by
  rcases hd with ⟨hz, rfl⟩ | ⟨hpos, ⟨b, rfl, hle⟩, rfl⟩
  · simp [checkTiers, hz]
  · simp [checkTiers, Nat.pos_iff_ne_zero.mp hpos, hle]

/-- A tier that does not pass has a defect: a zero count, or else an order not above the tier
before it. -/
theorem exists_defect_of_fails (h : ¬ TierPasses previous t) : ∃ e, TierDefect previous t e := by
  by_cases hz : t.segmentsPerSlab = 0
  · exact ⟨_, .inl ⟨hz, rfl⟩⟩
  · obtain ⟨b, hb, hle⟩ : ∃ b ∈ previous, t.maxSegmentSize ≤ b := by
      simpa [TierPasses, Nat.pos_of_ne_zero hz] using h
    exact ⟨_, .inr ⟨Nat.pos_of_ne_zero hz, ⟨b, hb, hle⟩, rfl⟩⟩

/-- A tier that fails its checks ends them, with its own defect. -/
theorem checkTiers_of_fails (h : ¬ TierPasses previous t) :
    checkTiers previous (t :: ts) = .error e ↔ TierDefect previous t e := by
  obtain ⟨e₀, hd₀⟩ := exists_defect_of_fails h
  rw [checkTiers_of_defect hd₀]
  constructor
  · intro he
    cases he
    exact hd₀
  · -- both defects end the same checks, so they are one
    intro hd
    have h₀ : checkTiers previous (t :: ts) = .error e₀ := checkTiers_of_defect hd₀
    exact h₀.symm.trans (checkTiers_of_defect hd)

theorem checkTiers_ne_ok_of_fails (h : ¬ TierPasses previous t) :
    checkTiers previous (t :: ts) ≠ .ok () := by
  obtain ⟨e, hd⟩ := exists_defect_of_fails h
  rw [checkTiers_of_defect hd]
  simp

theorem not_defect_of_passes (h : TierPasses previous t) : ¬ TierDefect previous t e := by
  obtain ⟨hpos, hbelow⟩ := h
  rintro (⟨hz, -⟩ | ⟨-, ⟨b, hb, hle⟩, -⟩)
  · omega
  · have := hbelow b hb
    omega

/-- The checks accept the tiers exactly when every count is positive and the largest sizes
strictly increase, starting above `previous`. -/
theorem checkTiers_eq_ok_iff :
    checkTiers previous ts = .ok () ↔ (∀ t ∈ ts, 0 < t.segmentsPerSlab) ∧
      (∀ b ∈ previous, ∀ t ∈ ts, b < t.maxSegmentSize) ∧
      (ts.map (·.maxSegmentSize)).Pairwise (· < ·) := by
  induction ts generalizing previous with
  | nil => simp [checkTiers]
  | cons t ts ih =>
    by_cases hpass : TierPasses previous t
    · rw [checkTiers_of_passes hpass, ih]
      obtain ⟨hpos, hbelow⟩ := hpass
      simp only [List.mem_cons, forall_eq_or_imp, Option.mem_def, Option.some.injEq,
        forall_eq', List.map_cons, List.pairwise_cons, List.mem_map, forall_exists_index,
        and_imp, forall_apply_eq_imp_iff₂]
      constructor
      · rintro ⟨hrest, habove, hsorted⟩
        -- a bound below `t` is below every later tier too
        refine ⟨⟨hpos, hrest⟩, fun b hb => ⟨hbelow b hb, fun u hu => ?_⟩, habove, hsorted⟩
        have := hbelow b hb
        have := habove u hu
        omega
      · rintro ⟨⟨-, hrest⟩, -, habove, hsorted⟩
        exact ⟨hrest, habove, hsorted⟩
    · refine ⟨fun hok => absurd hok (checkTiers_ne_ok_of_fails hpass), fun ⟨hpos, hbelow, _⟩ => ?_⟩
      exact absurd ⟨hpos t List.mem_cons_self, fun b hb => hbelow b hb t List.mem_cons_self⟩ hpass

theorem bound_cons (f : CapacityTier → Nat) (v : CapacityTier) (pre : List CapacityTier) :
    ((v :: pre).getLast?.map f).or previous = (pre.getLast?.map f).or (some (f v)) := by
  rw [List.getLast?_cons]
  cases pre.getLast? <;> rfl

/-- The checks refuse the tiers with the defect of the first tier that has one: every tier
before it passes, each against the largest size of the one before. -/
theorem checkTiers_eq_error_iff :
    checkTiers previous ts = .error e ↔ ∃ pre t post, ts = pre ++ t :: post ∧
      checkTiers previous pre = .ok () ∧
      TierDefect ((pre.getLast?.map (·.maxSegmentSize)).or previous) t e := by
  induction ts generalizing previous with
  | nil => simp [checkTiers]
  | cons t ts ih =>
    by_cases hpass : TierPasses previous t
    · -- the first tier passes, so the defect lies further on
      rw [checkTiers_of_passes hpass, ih]
      constructor
      · rintro ⟨pre, u, post, rfl, hok, hd⟩
        refine ⟨t :: pre, u, post, rfl, ?_, ?_⟩
        · rwa [checkTiers_of_passes hpass]
        · rwa [bound_cons]
      · rintro ⟨pre, u, post, hsplit, hok, hd⟩
        cases pre with
        | nil =>
          obtain ⟨rfl, -⟩ := List.cons.inj hsplit
          exact absurd hd (not_defect_of_passes hpass)
        | cons v pre =>
          obtain ⟨rfl, rfl⟩ := List.cons.inj hsplit
          rw [checkTiers_of_passes hpass] at hok
          exact ⟨pre, u, post, rfl, hok, by rwa [bound_cons] at hd⟩
    · -- the first tier fails, so it is the first with a defect
      rw [checkTiers_of_fails hpass]
      constructor
      · intro hd
        exact ⟨[], t, ts, rfl, rfl, hd⟩
      · rintro ⟨pre, u, post, hsplit, hok, hd⟩
        cases pre with
        | nil =>
          obtain ⟨rfl, -⟩ := List.cons.inj hsplit
          exact hd
        | cons v pre =>
          obtain ⟨rfl, rfl⟩ := List.cons.inj hsplit
          exact absurd hok (checkTiers_ne_ok_of_fails hpass)

end Checks

/-! ### Validation -/

namespace PoolConfig

variable {c : PoolConfig} {e : ConfigError}

theorem checkTiers_none_eq_ok_iff {ts : List CapacityTier} :
    checkTiers none ts = .ok () ↔ TiersWellFormed ts := by
  simp [checkTiers_eq_ok_iff, TiersWellFormed]

theorem validate_eq_ok_iff : c.validate = .ok () ↔ c.Valid := by
  unfold validate Valid
  by_cases hf : c.fallbackSegmentsPerSlab = 0
  · simp [hf]
  · simp [hf, Nat.pos_of_ne_zero hf, checkTiers_none_eq_ok_iff]

theorem validate_eq_error_iff : c.validate = .error e ↔ c.FirstDefect e := by
  unfold validate FirstDefect
  by_cases hf : c.fallbackSegmentsPerSlab = 0
  · simp [hf, eq_comm]
  · simp [hf, Nat.pos_of_ne_zero hf, checkTiers_eq_error_iff, checkTiers_none_eq_ok_iff]

theorem ofJson_eq_ok_iff (text : String) (c : PoolConfig) :
    ofJson text = .ok c ↔ Json.readAll read text = .ok c ∧ c.validate = .ok () := by
  unfold ofJson
  cases hr : Json.readAll read text with
  | error je => simp [Except.mapError, bind, Except.bind]
  | ok c' =>
    cases hv : c'.validate with
    | error ve =>
      simp only [Except.mapError, bind, Except.bind, hv, reduceCtorEq, false_iff, not_and,
        Except.ok.injEq]
      rintro rfl
      simp [hv]
    | ok u =>
      simp only [Except.mapError, bind, Except.bind, hv, pure, Except.pure, Except.ok.injEq]
      constructor
      · rintro rfl
        exact ⟨rfl, hv⟩
      · rintro ⟨rfl, -⟩
        rfl

theorem ofJson_eq_error_iff (text : String) (e : ConfigError) :
    ofJson text = .error e ↔ (∃ je, Json.readAll read text = .error je ∧ e = .unreadable je) ∨
      ∃ c, Json.readAll read text = .ok c ∧ c.validate = .error e := by
  unfold ofJson
  cases hr : Json.readAll read text with
  | error je => simp [Except.mapError, bind, Except.bind, eq_comm]
  | ok c' =>
    cases hv : c'.validate with
    | error ve => simp [Except.mapError, bind, Except.bind, hv, eq_comm]
    | ok u => simp [Except.mapError, bind, Except.bind, hv, pure, Except.pure]

end PoolConfig

namespace Pool

theorem ofConfig_eq_ok_iff (c : PoolConfig) (p : Pool) :
    ofConfig c = .ok p ↔ c.validate = .ok () ∧ p = withStrategy c c.segmentsPerSlab := by
  unfold ofConfig
  cases c.validate with
  | ok u => simp [eq_comm]
  | error ce => simp

theorem ofConfig_eq_error_iff (c : PoolConfig) (e : MemoryError) :
    ofConfig c = .error e ↔ ∃ ce, c.validate = .error ce ∧ e = .config ce := by
  unfold ofConfig
  cases c.validate with
  | ok u => simp
  | error ce => simp [eq_comm]

end Pool

/-- Validation accepts exactly the configurations with positive counts and strictly increasing
tiers, and a refusal names the first check that fails: the fallback count, then the tiers in
order, each checked for a zero count before its order. Making a pool from a configuration
fails exactly when validating it does, with the same refusal, and reading a configuration from
JSON validates what the text holds. -/
theorem validate_reports_first_failed_check (c : PoolConfig) :
    (c.validate = .ok () ↔ c.Valid) ∧
    (∀ e, c.validate = .error e ↔ c.FirstDefect e) ∧
    (∀ p, Pool.ofConfig c = .ok p ↔ c.validate = .ok () ∧
      p = Pool.withStrategy c c.segmentsPerSlab) ∧
    (∀ e, Pool.ofConfig c = .error e ↔ ∃ ce, c.validate = .error ce ∧ e = .config ce) ∧
    (∀ text c', PoolConfig.ofJson text = .ok c' ↔
      Json.readAll PoolConfig.read text = .ok c' ∧ c'.validate = .ok ()) ∧
    (∀ text e, PoolConfig.ofJson text = .error e ↔
      (∃ je, Json.readAll PoolConfig.read text = .error je ∧ e = .unreadable je) ∨
        ∃ c', Json.readAll PoolConfig.read text = .ok c' ∧ c'.validate = .error e) :=
  ⟨PoolConfig.validate_eq_ok_iff, fun _ => PoolConfig.validate_eq_error_iff,
    Pool.ofConfig_eq_ok_iff c, Pool.ofConfig_eq_error_iff c, PoolConfig.ofJson_eq_ok_iff,
    PoolConfig.ofJson_eq_error_iff⟩

-- a tier's zero count is reported before its order against the tier before it
example : ({ PoolConfig.default with capacityTiers := [⟨64, 32⟩, ⟨64, 0⟩] }).validate =
    .error (.zeroSegments 64) := rfl

/-! ### Looking up the tier of a size -/

namespace PoolConfig

variable {c : PoolConfig} {i j n : Nat} {t : CapacityTier}

/-- Along tiers whose largest sizes strictly increase, a tier's largest size is at most that of
any tier after it. -/
theorem maxSegmentSize_le_of_le (hs : (c.capacityTiers.map (·.maxSegmentSize)).Pairwise (· < ·))
    (hij : i ≤ j) {a b : CapacityTier} (ha : c.capacityTiers[i]? = some a)
    (hb : c.capacityTiers[j]? = some b) : a.maxSegmentSize ≤ b.maxSegmentSize := by
  obtain ⟨hi, rfl⟩ := List.getElem?_eq_some_iff.mp ha
  obtain ⟨hj, rfl⟩ := List.getElem?_eq_some_iff.mp hb
  rcases Nat.lt_or_eq_of_le hij with hlt | rfl
  · exact Nat.le_of_lt (List.pairwise_iff_getElem.mp (List.pairwise_map.mp hs) i j hi hj hlt)
  · exact Nat.le_refl _

/-- Along tiers whose largest sizes strictly increase, at most one tier serves a size. -/
theorem TierServes.unique (hs : (c.capacityTiers.map (·.maxSegmentSize)).Pairwise (· < ·))
    (hi : c.TierServes i n) (hj : c.TierServes j n) : i = j := by
  -- the earlier tier's largest size reaches `n`, the one just before the later tier stays below
  have hlt : ∀ {i j}, c.TierServes i n → c.TierServes j n → ¬ i < j := by
    rintro i j ⟨⟨a, ha, hna⟩, -⟩ ⟨-, hprev⟩ hij
    obtain ⟨q, hq, hqn⟩ := hprev (by omega)
    have := maxSegmentSize_le_of_le hs (Nat.le_sub_one_of_lt hij) ha hq
    omega
  have := hlt hi hj
  have := hlt hj hi
  omega

/-- The tier that the lookup finds serves the size. -/
theorem serves_of_find? (h : c.capacityTiers.find? (n ≤ ·.maxSegmentSize) = some t) :
    ∃ i, c.capacityTiers[i]? = some t ∧ c.TierServes i n := by
  obtain ⟨hfits, pre, post, hsplit, hbelow⟩ := List.find?_eq_some_iff_append.mp h
  refine ⟨pre.length, by simp [hsplit], ⟨t, by simp [hsplit], by simpa using hfits⟩, ?_⟩
  -- the tier before it is the last of `pre`, which the lookup passed over
  intro hpos
  obtain ⟨q, hq⟩ : ∃ q, pre.getLast? = some q := by
    cases hl : pre.getLast? with
    | none => simp_all
    | some q => exact ⟨q, rfl⟩
  have hqi : c.capacityTiers[pre.length - 1]? = some q := by
    rw [hsplit, List.getElem?_append_left (by omega), ← List.getLast?_eq_getElem?, hq]
  have := hbelow q (List.mem_of_getLast? hq)
  exact ⟨q, hqi, by simpa using this⟩

/-- Along tiers whose largest sizes strictly increase, the last tier's largest size bounds every
tier's. -/
theorem exists_last_ge (hs : (c.capacityTiers.map (·.maxSegmentSize)).Pairwise (· < ·))
    (ht : c.capacityTiers[i]? = some t) :
    ∃ l ∈ c.capacityTiers.getLast?, t.maxSegmentSize ≤ l.maxSegmentSize := by
  have hi := (List.getElem?_eq_some_iff.mp ht).1
  have hlast : c.capacityTiers[c.capacityTiers.length - 1]? =
      some c.capacityTiers[c.capacityTiers.length - 1] := List.getElem?_eq_getElem (by omega)
  refine ⟨_, by rw [List.getLast?_eq_getElem?, hlast]; rfl, ?_⟩
  exact maxSegmentSize_le_of_le hs (by omega) ht hlast

/-- Past the largest size of the last tier, no tier's bound covers the size. -/
theorem find?_eq_none_of_above (hs : (c.capacityTiers.map (·.maxSegmentSize)).Pairwise (· < ·))
    (h : ∀ l ∈ c.capacityTiers.getLast?, l.maxSegmentSize < n) :
    c.capacityTiers.find? (n ≤ ·.maxSegmentSize) = none := by
  rw [List.find?_eq_none]
  intro u hu hfits
  obtain ⟨k, hk, rfl⟩ := List.getElem_of_mem hu
  obtain ⟨l, hl, hle⟩ := exists_last_ge hs (List.getElem?_eq_getElem hk)
  have := h l hl
  simp only [decide_eq_true_eq] at hfits
  omega

theorem find?_isSome_of_within (h : ∃ l ∈ c.capacityTiers.getLast?, n ≤ l.maxSegmentSize) :
    ∃ u, c.capacityTiers.find? (n ≤ ·.maxSegmentSize) = some u := by
  obtain ⟨l, hl, hfits⟩ := h
  cases hf : c.capacityTiers.find? (n ≤ ·.maxSegmentSize) with
  | some u => exact ⟨u, rfl⟩
  | none =>
    have := List.find?_eq_none.mp hf l (List.mem_of_getLast? hl)
    simp [hfits] at this

/-- The count of a size served by a tier is that tier's count. -/
theorem segmentsPerSlab_of_serves (hs : (c.capacityTiers.map (·.maxSegmentSize)).Pairwise (· < ·))
    (ht : c.capacityTiers[i]? = some t) (hi : c.TierServes i n) :
    c.segmentsPerSlab n = t.segmentsPerSlab := by
  -- the lookup finds some tier, which serves the size, so it is tier `i`
  have hfits : n ≤ t.maxSegmentSize := by
    obtain ⟨⟨u, hu, hn⟩, -⟩ := hi
    rw [ht] at hu
    cases hu
    exact hn
  obtain ⟨l, hl, hle⟩ := exists_last_ge hs ht
  obtain ⟨u, hu⟩ := find?_isSome_of_within ⟨l, hl, Nat.le_trans hfits hle⟩
  obtain ⟨j, hj, hserves⟩ := serves_of_find? hu
  rw [TierServes.unique hs hi hserves, hj] at ht
  cases ht
  simp [segmentsPerSlab, segmentsFor, hu]

theorem segmentsPerSlab_of_above (hs : (c.capacityTiers.map (·.maxSegmentSize)).Pairwise (· < ·))
    (h : ∀ l ∈ c.capacityTiers.getLast?, l.maxSegmentSize < n) :
    c.segmentsPerSlab n = c.fallbackSegmentsPerSlab := by
  simp [segmentsPerSlab, segmentsFor, find?_eq_none_of_above hs h]

theorem segmentsPerSlab_pos (hc : c.Valid) (n : Nat) : 0 < c.segmentsPerSlab n := by
  unfold segmentsPerSlab segmentsFor
  split
  · rename_i u hu
    exact hc.2.1 u (List.mem_of_find?_eq_some hu)
  · exact hc.1

end PoolConfig

/-- On a valid configuration, the count of a size is positive, so the pool's raise of a zero
count to one never changes it. A size is served by one tier at most, and by exactly one unless
it lies above the last tier; the count is that tier's count, and the fallback count above the
last tier. -/
theorem segmentsPerSlab_by_serving_tier {c : PoolConfig} (hc : c.validate = .ok ()) (n : Nat) :
    0 < c.segmentsPerSlab n ∧
    (∀ p, Pool.ofConfig c = .ok p → max (p.capacity n) 1 = c.segmentsPerSlab n) ∧
    ((∃! i, c.TierServes i n) ∨ ∀ l ∈ c.capacityTiers.getLast?, l.maxSegmentSize < n) ∧
    (∀ i t, c.capacityTiers[i]? = some t → c.TierServes i n →
      c.segmentsPerSlab n = t.segmentsPerSlab) ∧
    ((∀ l ∈ c.capacityTiers.getLast?, l.maxSegmentSize < n) →
      c.segmentsPerSlab n = c.fallbackSegmentsPerSlab) := by
  have hvalid := PoolConfig.validate_eq_ok_iff.mp hc
  have hs := hvalid.2.2
  have hpos := PoolConfig.segmentsPerSlab_pos hvalid n
  refine ⟨hpos, ?_, ?_, fun i t ht hi => PoolConfig.segmentsPerSlab_of_serves hs ht hi,
    PoolConfig.segmentsPerSlab_of_above hs⟩
  · intro p hp
    obtain ⟨-, rfl⟩ := (Pool.ofConfig_eq_ok_iff c p).mp hp
    exact Nat.max_eq_left hpos
  · -- within the last tier the tier the lookup finds serves the size, and no other does
    by_cases habove : ∀ l ∈ c.capacityTiers.getLast?, l.maxSegmentSize < n
    · exact .inr habove
    · refine .inl ?_
      obtain ⟨u, hu⟩ := PoolConfig.find?_isSome_of_within (c := c) (n := n) <| by
        simpa using habove
      obtain ⟨i, -, hi⟩ := PoolConfig.serves_of_find? hu
      exact ⟨i, hi, fun j hj => PoolConfig.TierServes.unique hs hj hi⟩

-- the bounds are inclusive: 64 bytes is the first tier's, 65 the second's, 4097 the fallback's
example : PoolConfig.default.segmentsPerSlab 64 = 32 ∧ PoolConfig.default.segmentsPerSlab 65 = 16 ∧
    PoolConfig.default.segmentsPerSlab 4097 = 4 := by decide

/-- The default configuration is valid, and its tiers serve a size of 100 bytes as stated. -/
theorem default_segmentsPerSlab_by_serving_tier :
    PoolConfig.default.validate = .ok () ∧
    (0 < PoolConfig.default.segmentsPerSlab 100 ∧
    (∀ p, Pool.ofConfig PoolConfig.default = .ok p →
      max (p.capacity 100) 1 = PoolConfig.default.segmentsPerSlab 100) ∧
    ((∃! i, PoolConfig.default.TierServes i 100) ∨
      ∀ l ∈ PoolConfig.default.capacityTiers.getLast?, l.maxSegmentSize < 100) ∧
    (∀ i t, PoolConfig.default.capacityTiers[i]? = some t → PoolConfig.default.TierServes i 100 →
      PoolConfig.default.segmentsPerSlab 100 = t.segmentsPerSlab) ∧
    ((∀ l ∈ PoolConfig.default.capacityTiers.getLast?, l.maxSegmentSize < 100) →
      PoolConfig.default.segmentsPerSlab 100 = PoolConfig.default.fallbackSegmentsPerSlab)) :=
  ⟨rfl, segmentsPerSlab_by_serving_tier rfl 100⟩

end KeyCustody
