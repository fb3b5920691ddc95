import KeyCustody.Pool.Slab
import KeyCustody.Pool.Metrics

/-!
# Slab pools

A slab pool hands out fixed-size segments of zeroed memory as leases. Slabs are kept in creation
order; a rent of `n` bytes takes the top free segment of the first slab of `n`-byte segments that
has one, and only when all of them are full makes one new slab, with as many segments as the
capacity strategy gives for `n` (at least one) and the next slab id, which is never reused.

A lease reads and writes the bytes of its segment in the slab's arena until it is returned. A
returning lease zeroes its segment first, whatever becomes of the return. Trimming removes the
slabs whose segments are all free, zeroing those segments. Disposing zeroes the free segments of
every slab and empties the pool; the arenas stay readable through the leases into them.
Afterwards rents and trims are refused, and every return is refused but still stops counting the
lease as active.

Every rent request of a positive size made while the pool is live is recorded in the size
histogram, also when making the slab then fails; the gauges are recorded after every change of
the layout.

Calls are made one at a time, each seeing the directory as the last one left it, so the pool's
lock is never found poisoned. Locking pages in memory and tracing change no answer and are left
out.
-/

namespace KeyCustody

/-- A rented segment: its size, the slab and index it came from, and where it lies. -/
structure Lease where
  segmentSize : Nat
  slab : Nat
  index : Nat
  /-- The key of the arena the segment lies in. -/
  arena : Nat
  /-- Where the segment starts in its arena. -/
  offset : Nat
  deriving DecidableEq

/-- How a lease is shown; its bytes never are. -/
def Lease.describe (l : Lease) : String :=
  "SegmentLease \x7b slab: " ++ toString l.slab ++ ", segment: " ++ toString l.index ++ ", len: " ++
    toString l.segmentSize ++ ", bytes: *** \x7d"

/-- A pool of slabs. -/
structure Pool where
  disposed : Bool := false
  slabs : List Slab := []
  nextSlabId : Nat := 0
  layout : Layout := {}
  /-- The bytes of every arena made so far, by key. -/
  arenas : Nat → List UInt8 := fun _ => []
  /-- How many segments a new slab of a given segment size gets, before raising zero to one. -/
  capacity : Nat → Nat
  metrics : Metrics := {}

/-- The statistics of a pool. -/
structure Statistics where
  slabs : Nat
  totalSegments : Nat
  activeRentals : Nat
  allocatedBytes : Nat
  efficiency : Float
  rents : Nat
  returns : Nat

namespace Pool

/-- An empty pool that sizes slabs with `capacity`. Of the configuration the pool would keep only
whether to lock its pages in memory and whether to trace its lifecycle, and neither changes what
a pool call answers, so neither is kept. -/
def withStrategy (_config : PoolConfig) (capacity : Nat → Nat) : Pool :=
  { capacity }

/-- An empty pool that sizes slabs by the configuration's tiers, if the configuration is valid. -/
def ofConfig (config : PoolConfig) : Except MemoryError Pool :=
  match config.validate with
  | .ok () => .ok (withStrategy config config.segmentsPerSlab)
  | .error e => .error (.config e)

/-- Records the layout in the gauges. -/
def recordLayout (p : Pool) : Pool :=
  { p with metrics := { p.metrics with gauges := Gauges.ofLayout p.layout } }

/-- The bytes of a lease's segment. -/
def read (p : Pool) (l : Lease) : List UInt8 := Arena.read (p.arenas l.arena) l.offset l.segmentSize

/-- Writes `data` into a lease's segment from byte `offset` of the segment on. -/
def writeLease (p : Pool) (l : Lease) (offset : Nat) (data : List UInt8) : Pool :=
  { p with arenas := Arena.modify p.arenas l.arena (Arena.write · (l.offset + offset) data) }

/-- Zeroes a lease's segment. -/
def zeroLease (p : Pool) (l : Lease) : Pool :=
  { p with arenas := Arena.modify p.arenas l.arena (Arena.zero · l.offset l.segmentSize) }

/-- Rents from the first slab of `size`-byte segments that has a free one. -/
def rentFromSlabs (size : Nat) : List Slab → Option (Nat × Nat × List Slab)
  | [] => none
  | s :: rest =>
    if s.segmentSize = size then
      match s.rent? with
      | some (i, s') => some (s.id, i, s' :: rest)
      | none => (rentFromSlabs size rest).map fun (id, i, rest') => (id, i, s :: rest')
    else (rentFromSlabs size rest).map fun (id, i, rest') => (id, i, s :: rest')

/-- Records a requested size in the histogram. -/
def observe (p : Pool) (size : Nat) : Pool :=
  { p with metrics := { p.metrics with requestedSizes := p.metrics.requestedSizes.observe size } }

/-- Counts one more lease out. -/
def countRent (p : Pool) : Pool :=
  { p with
    layout := { p.layout with active := p.layout.active + 1 }
    metrics := { p.metrics with rents := p.metrics.rents + 1 } }

/-- Gives a new slab a zeroed arena under its key, counts it in the layout and moves the next id
on. The slab itself joins the list once a segment is rented from it. -/
def provision (p : Pool) (slab : Slab) : Pool :=
  { p with
    nextSlabId := p.nextSlabId + 1
    layout := { p.layout with
      slabs := p.layout.slabs + 1
      segments := p.layout.segments + slab.segmentCount
      bytes := p.layout.bytes + slab.byteLength }
    arenas := Arena.modify p.arenas slab.arena fun _ => List.replicate slab.byteLength 0 }

/-- Makes the lease of segment `index` of slab `id`, found again among the slabs of `size`-byte
segments, and counts the rent. -/
def issue (p : Pool) (size id index : Nat) : Except MemoryError Lease × Pool :=
  match p.slabs.find? (fun s => s.segmentSize = size ∧ s.id = id) with
  | none => (.error (.corruption ("slab " ++ toString id ++ " vanished")), p)
  | some s =>
    match s.offsetOf? index with
    | none => (.error (.corruption ("segment " ++ toString index ++ " out of range")), p)
    | some offset => (.ok ⟨size, id, index, s.arena, offset⟩, p.countRent.recordLayout)

/-- Rents a zeroed segment of `size` bytes. -/
def rent (p : Pool) (size : Nat) : Except MemoryError Lease × Pool :=
  if size = 0 then (.error (.invalid .zeroSize), p)
  else if p.disposed then (.error (.disposed .pool), p)
  else
    let p := p.observe size
    match rentFromSlabs size p.slabs with
    | some (id, i, slabs) => issue { p with slabs } size id i
    | none =>
      let count := max (p.capacity size) 1
      match Slab.create p.nextSlabId size count with
      | .error e => (.error e, p)
      | .ok slab =>
        let p := p.provision slab
        match slab.rent? with
        | none => (.error (.corruption ("fresh slab for size " ++ toString size ++
            " had no free segment")), { p with slabs := p.slabs ++ [slab] })
        | some (i, slab') => issue { p with slabs := p.slabs ++ [slab'] } size slab.id i

/-- Puts the segment of a lease back into the first slab of its size and id, which must own the
lease's arena. -/
def releaseIn (l : Lease) : List Slab → Option (Except MemoryError (List Slab))
  | [] => none
  | s :: rest =>
    if s.segmentSize = l.segmentSize ∧ s.id = l.slab then
      if s.arena = l.arena then some ((s.release l.index).map (· :: rest))
      else some (.error (.corruption ("segment " ++ toString l.index ++
        " does not belong to slab " ++ toString l.slab)))
    else (releaseIn l rest).map fun r => r.map (s :: ·)

/-- Counts a failed return. -/
def countFailure (p : Pool) : Pool :=
  { p with metrics := { p.metrics with releaseFailures := p.metrics.releaseFailures + 1 } }

/-- Takes back the segment of a lease, zeroing it first; the lease is gone afterwards. -/
def giveBack (p : Pool) (l : Lease) : Except MemoryError Unit × Pool :=
  let p := p.zeroLease l
  if p.disposed then
    let p := { p with layout := { p.layout with active := p.layout.active - 1 } }
    (.error (.disposed .pool), p.recordLayout.countFailure)
  else
    match releaseIn l p.slabs with
    | none =>
      (.error (.corruption ("segment returned to unknown slab " ++ toString l.slab ++ " (size " ++
        toString l.segmentSize ++ ")")), p.countFailure)
    | some (.error e) => (.error e, p.countFailure)
    | some (.ok slabs) =>
      let p := { p with
        slabs
        layout := { p.layout with active := p.layout.active - 1 }
        metrics := { p.metrics with returns := p.metrics.returns + 1 } }
      (.ok (), p.recordLayout)

/-- Removes every slab whose segments are all free and gives their number. -/
def trim (p : Pool) : Except MemoryError Nat × Pool :=
  if p.disposed then (.error (.disposed .pool), p)
  else
    let idle := p.slabs.filter Slab.isIdle
    let p := { p with
      slabs := p.slabs.filter (!·.isIdle)
      arenas := idle.foldl (fun arenas (s : Slab) => s.zeroFree arenas) p.arenas
      layout := { p.layout with
        slabs := p.layout.slabs - idle.length
        segments := p.layout.segments - (idle.map Slab.segmentCount).foldr (· + ·) 0
        bytes := p.layout.bytes - (idle.map Slab.byteLength).foldr (· + ·) 0 }
      metrics := { p.metrics with slabsTrimmed := p.metrics.slabsTrimmed + idle.length } }
    (.ok idle.length, p.recordLayout)

/-- Empties the pool for good; outstanding leases stay counted as active. -/
def dispose (p : Pool) : Pool :=
  if p.disposed then p
  else
    let p := { p with
      disposed := true
      slabs := []
      arenas := p.slabs.foldl (fun arenas (s : Slab) => s.zeroFree arenas) p.arenas
      layout := { active := p.layout.active } }
    p.recordLayout

/-- The statistics of the pool. -/
def statistics (p : Pool) : Statistics :=
  { slabs := p.layout.slabs
    totalSegments := p.layout.segments
    activeRentals := p.layout.active
    allocatedBytes := p.layout.bytes
    efficiency := p.layout.efficiency
    rents := p.metrics.rents
    returns := p.metrics.returns }

/-- How a pool is shown. -/
def describe (p : Pool) : String :=
  "SlabPool \x7b slabs: " ++ toString p.layout.slabs ++ ", active_rentals: " ++
    toString p.layout.active ++ ", allocated_bytes: " ++ toString p.layout.bytes ++ " \x7d"

end Pool

end KeyCustody
