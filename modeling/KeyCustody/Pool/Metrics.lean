import KeyCustody.Decimal.Binary

/-!
# Pool layout and metrics

The layout of a pool counts its slabs, segments, rented segments and arena bytes; its efficiency
is the share of segments rented, or zero without segments. The metrics are counters of rents,
returns, trimmed slabs and failed returns; a histogram of requested sizes with cumulative buckets
up to 16, 32, …, 8192 bytes; and gauges that hold the layout as last recorded, each capped at the
largest signed 64-bit value.
-/

namespace KeyCustody

/-- What a pool holds. -/
structure Layout where
  slabs : Nat := 0
  segments : Nat := 0
  active : Nat := 0
  bytes : Nat := 0
  deriving DecidableEq, Repr

/-- The share of segments rented, as a binary64 quotient; zero without segments. -/
def Layout.efficiency (l : Layout) : Float :=
  if l.segments = 0 then 0.0 else Binary64.ofNat l.active / Binary64.ofNat l.segments

/-- The upper bounds of the size histogram's buckets. -/
def sizeBounds : List Nat := [16, 32, 64, 128, 256, 512, 1024, 2048, 4096, 8192]

/-- Requested sizes: how many, their binary64 sum, and per bound how many were at most it. -/
structure Histogram where
  count : Nat := 0
  sum : Float := 0.0
  buckets : List Nat := sizeBounds.map fun _ => 0

/-- Records one requested size. -/
def Histogram.observe (h : Histogram) (size : Nat) : Histogram :=
  { count := h.count + 1
    sum := h.sum + Binary64.ofNat size
    buckets := (sizeBounds.zip h.buckets).map fun (b, n) => if size ≤ b then n + 1 else n }

/-- The largest signed 64-bit value, where gauges stop. -/
def gaugeLimit : Nat := Nat.pow 2 63 - 1

/-- The layout as last recorded. -/
structure Gauges where
  slabs : Nat := 0
  active : Nat := 0
  bytes : Nat := 0
  efficiency : Float := 0.0

/-- The gauges of a layout. -/
def Gauges.ofLayout (l : Layout) : Gauges :=
  ⟨min l.slabs gaugeLimit, min l.active gaugeLimit, min l.bytes gaugeLimit, l.efficiency⟩

/-- Everything a pool reports about itself. -/
structure Metrics where
  rents : Nat := 0
  returns : Nat := 0
  slabsTrimmed : Nat := 0
  releaseFailures : Nat := 0
  requestedSizes : Histogram := {}
  gauges : Gauges := {}

end KeyCustody
