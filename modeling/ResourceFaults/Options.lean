import ResourceFaults.Clock

/-!
# Options of a fault

Both kinds of fault take the same options, and each ignores what is meant for
the other.  The size of a block has a limit: a larger size counts as
`Options.maxBlockMib`.
-/

namespace ResourceFaults

/-- The options of one fault. -/
structure Options where
  durationSecs : UInt64 := 60
  threads : UInt64 := 1
  blockMib : UInt32 := 1
  sleepMs : UInt64 := 2000
  keep : Bool := false
  deriving DecidableEq, Repr, Inhabited

/-- What a memory worker does: how large its blocks are, how long it waits
between two of them, and whether it keeps them. -/
structure MemoryPlan where
  blockBytes : UInt64
  interval : Nanos
  keep : Bool
  deriving DecidableEq, Repr, Inhabited

namespace Options

/-- The largest block, in MiB. -/
def maxBlockMib : UInt32 := 2047

/-- With the size of a block within its limit. -/
def clamped (o : Options) : Options :=
  { o with blockMib := min o.blockMib maxBlockMib }

/-- How long a fault lasts. -/
def duration (o : Options) : Nanos :=
  Nanos.ofSeconds o.durationSecs.toNat

/-- The size of a block in bytes. -/
def blockBytes (o : Options) : UInt64 :=
  (min o.blockMib maxBlockMib).toUInt64 * 1048576

/-- The plan of a memory worker. -/
def memoryPlan (o : Options) : MemoryPlan where
  blockBytes := o.blockBytes
  interval := Nanos.ofMillis o.sleepMs.toNat
  keep := o.keep

end Options

end ResourceFaults
