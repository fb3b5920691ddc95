import KeyCustody.Json.Read

/-!
# Pool configuration

How many segments a new slab gets is decided by capacity tiers: the first tier whose largest
segment size is at least the requested size gives the count, and sizes above every tier get the
fallback count. A configuration is valid when the fallback count is positive, every tier's count
is positive, and the tiers' largest sizes strictly increase; the checks run in that order, tier by
tier, and the first failure is reported.

A configuration is read from JSON text: an object with the optional fields `capacityTiers`
(a list of tiers, each an object with `maxSegmentSize` and `segmentsPerSlab`),
`fallbackSegmentsPerSlab`, `lockMemory` and `traceLifecycle`, or a list of the same values in
that order. Unknown fields are skipped; a field given twice is refused. Reading a configuration
also validates it.
-/

namespace KeyCustody

/-- Slabs for segments up to `maxSegmentSize` bytes get `segmentsPerSlab` segments. -/
structure CapacityTier where
  maxSegmentSize : Nat
  segmentsPerSlab : Nat
  deriving DecidableEq, Repr

/-- Settings of a slab pool. -/
structure PoolConfig where
  capacityTiers : List CapacityTier
  fallbackSegmentsPerSlab : Nat
  lockMemory : Bool
  traceLifecycle : Bool
  deriving DecidableEq, Repr

namespace PoolConfig

/-- The tiers tuned for keys, digests and signatures: up to 64 bytes 32 segments, up to 256
bytes 16, up to 4096 bytes 8. -/
def defaultTiers : List CapacityTier := [⟨64, 32⟩, ⟨256, 16⟩, ⟨4096, 8⟩]

/-- The default settings: the default tiers, 4 segments above them, memory locked, no tracing. -/
def default : PoolConfig := ⟨defaultTiers, 4, true, false⟩

/-- The default configuration. -/
instance : Inhabited PoolConfig := ⟨default⟩

end PoolConfig

/-- Why a configuration is refused. -/
inductive ConfigError where
  | unreadable (e : Json.Error)
  | zeroFallback
  | zeroSegments (maxSegmentSize : Nat)
  | tiersNotIncreasing

/-- The text of a configuration error. -/
def ConfigError.describe : ConfigError → String
  | unreadable e => e.message
  | zeroFallback => "fallbackSegmentsPerSlab must be greater than zero"
  | zeroSegments m => "tier for sizes up to " ++ toString m ++ " has zero segments per slab"
  | tiersNotIncreasing => "capacity tiers must have strictly increasing maxSegmentSize"

/-- The segment count for `size` under `tiers`, or `fallback` above every tier. -/
def segmentsFor (tiers : List CapacityTier) (fallback size : Nat) : Nat :=
  match tiers.find? (size ≤ ·.maxSegmentSize) with
  | some t => t.segmentsPerSlab
  | none => fallback

/-- Checks the tiers in order, each against the largest size of the one before. -/
def checkTiers : Option Nat → List CapacityTier → Except ConfigError Unit
  | _, [] => .ok ()
  | previous, t :: rest =>
    if t.segmentsPerSlab = 0 then .error (.zeroSegments t.maxSegmentSize)
    else if previous.any (t.maxSegmentSize ≤ ·) then .error .tiersNotIncreasing
    else checkTiers (some t.maxSegmentSize) rest

namespace PoolConfig

/-- The segment count this configuration gives a slab of `size`-byte segments. -/
def segmentsPerSlab (c : PoolConfig) (size : Nat) : Nat :=
  segmentsFor c.capacityTiers c.fallbackSegmentsPerSlab size

/-- Checks the fallback count, then the tiers. -/
def validate (c : PoolConfig) : Except ConfigError Unit :=
  if c.fallbackSegmentsPerSlab = 0 then .error .zeroFallback
  else checkTiers none c.capacityTiers

/-- The fields of a configuration object seen so far. -/
structure Fields where
  capacityTiers : Option (List CapacityTier) := none
  fallbackSegmentsPerSlab : Option Nat := none
  lockMemory : Option Bool := none
  traceLifecycle : Option Bool := none

/-- The configuration of the fields seen, the default for each one missing. -/
def Fields.finish (f : Fields) : PoolConfig :=
  ⟨f.capacityTiers.getD defaultTiers, f.fallbackSegmentsPerSlab.getD 4,
    f.lockMemory.getD true, f.traceLifecycle.getD false⟩

end PoolConfig

namespace CapacityTier

/-- What a tier written as a list must hold. -/
def listShape : String := "struct CapacityTier with 2 elements"

/-- A tier written as a list `[maxSegmentSize, segmentsPerSlab]`. -/
def readList : Json.Parse CapacityTier := do
  let some m ← Json.element? (Json.readWord "usize") true
    | Json.failData (.invalidLength 0 listShape)
  let some s ← Json.element? (Json.readWord "usize") false
    | Json.failData (.invalidLength 1 listShape)
  return ⟨m, s⟩

/-- One entry of a tier written as an object. -/
def entry (key : String) (seen : Option Nat × Option Nat) : Json.Parse (Option Nat × Option Nat) := do
  if key = "maxSegmentSize" then
    return (some (← Json.fieldOnce key seen.1 (Json.readWord "usize")), seen.2)
  else if key = "segmentsPerSlab" then
    return (seen.1, some (← Json.fieldOnce key seen.2 (Json.readWord "usize")))
  else do Json.colon; Json.skipValue; return seen

/-- A tier written as an object. -/
def readObject : Json.Parse CapacityTier := do
  let (m, s) ← Json.objectEntries entry (← Json.budget) true (none, none)
  let some m := m | Json.failData (.missingField "maxSegmentSize")
  let some s := s | Json.failData (.missingField "segmentsPerSlab")
  return ⟨m, s⟩

/-- A tier. -/
def read : Json.Parse CapacityTier :=
  Json.readRecord "struct CapacityTier" readList readObject

end CapacityTier

namespace PoolConfig

/-- A configuration written as a list of its fields in order; missing ones take their default. -/
def readList : Json.Parse PoolConfig := do
  let some tiers ← Json.element? (Json.readList CapacityTier.read) true
    | return default
  let some fallback ← Json.element? (Json.readWord "usize") false
    | return { default with capacityTiers := tiers }
  let some lock ← Json.element? Json.readBool false
    | return ⟨tiers, fallback, true, false⟩
  let some trace ← Json.element? Json.readBool false
    | return ⟨tiers, fallback, lock, false⟩
  return ⟨tiers, fallback, lock, trace⟩

/-- One entry of a configuration object. -/
def entry (key : String) (f : Fields) : Json.Parse Fields := do
  if key = "capacityTiers" then
    let v ← Json.fieldOnce key f.capacityTiers (Json.readList CapacityTier.read)
    return { f with capacityTiers := some v }
  else if key = "fallbackSegmentsPerSlab" then
    let v ← Json.fieldOnce key f.fallbackSegmentsPerSlab (Json.readWord "usize")
    return { f with fallbackSegmentsPerSlab := some v }
  else if key = "lockMemory" then
    let v ← Json.fieldOnce key f.lockMemory Json.readBool
    return { f with lockMemory := some v }
  else if key = "traceLifecycle" then
    let v ← Json.fieldOnce key f.traceLifecycle Json.readBool
    return { f with traceLifecycle := some v }
  else do Json.colon; Json.skipValue; return f

/-- A configuration written as an object. -/
def readObject : Json.Parse PoolConfig := do
  let f ← Json.objectEntries entry (← Json.budget) true {}
  return f.finish

/-- A configuration, as a list or an object. -/
def read : Json.Parse PoolConfig :=
  Json.readRecord "struct PoolConfig" readList readObject

/-- Reads a configuration from JSON text and validates it. -/
def ofJson (text : String) : Except ConfigError PoolConfig := do
  let c ← (Json.readAll read text).mapError ConfigError.unreadable
  c.validate
  return c

end PoolConfig

end KeyCustody
