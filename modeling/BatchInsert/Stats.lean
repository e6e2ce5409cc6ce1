import BatchInsert.Binary.Number

/-!
# Statistics

Counters of a writer. They have 64 bits and wrap around.
-/

namespace BatchInsert

/-- Whole seconds and the nanoseconds of one more. -/
structure Duration where
  seconds : Nat
  nanos : Nat
deriving DecidableEq

def Duration.millis (d : Duration) : Nat := d.seconds * 1000 + d.nanos / 1000000

structure Stats where
  /-- Records taken into a batch. -/
  written : UInt64
  /-- Records that could not be bound or taken into the batch. -/
  rejected : UInt64
  /-- Records in batches that were executed. -/
  flushed : UInt64
  /-- Records in batches whose execution failed. -/
  failed : UInt64
  batchesFlushed : UInt64
  batchesFailed : UInt64
  /-- Milliseconds spent in executing batches, each execution rounded down. -/
  flushMillis : UInt64
deriving DecidableEq

namespace Stats

def zero : Stats := ⟨0, 0, 0, 0, 0, 0, 0⟩

def write (s : Stats) : Stats := { s with written := s.written + 1 }

def reject (s : Stats) : Stats := { s with rejected := s.rejected + 1 }

def flush (s : Stats) (records : UInt64) (time : Duration) : Stats :=
  { s with
    flushed := s.flushed + records
    batchesFlushed := s.batchesFlushed + 1
    flushMillis := s.flushMillis + UInt64.ofNat time.millis }

def fail (s : Stats) (records : UInt64) : Stats :=
  { s with failed := s.failed + records, batchesFailed := s.batchesFailed + 1 }

/-- Executed records per second of execution, zero as long as no time has passed. -/
def perSecond (s : Stats) : Binary.Binary64 :=
  let number (n : Nat) := Binary.Number.ofRatio .double false n 1
  if s.flushMillis = 0 then Binary.Number.zero .double
  else ((number s.flushed.toNat).mul (number 1000)).div (number s.flushMillis.toNat)

end Stats

end BatchInsert
