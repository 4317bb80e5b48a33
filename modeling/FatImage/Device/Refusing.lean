import FatImage.Device

/-!
# Devices that fail

A plan of failures decides, call by call, which calls a device refuses. A refused call does not
reach the device underneath, so it has no effect on what is stored there. The plan may look at the
call and at what it remembers of the calls before, and so can fail any single call of a run; it may
also make the device lie about its size.

`SectorFaults` is the plan of a worn disk: bad sectors, a limited number of writes, a flush that
never succeeds, an unknown or wrong size.
-/

namespace FatImage.Device

/-- Which calls a device refuses; `φ` is what is remembered between calls. -/
structure FaultPlan (φ : Type) where
  /-- Whether a call is refused, and what is remembered after it. -/
  refuses : Call → φ → Bool × φ
  /-- The number of sectors that the device claims, if not the true one. -/
  claims : φ → Option Nat

/-- The device `d` with the failures of a plan. -/
def refusing (d : Device σ) (plan : FaultPlan φ) : Device (σ × φ) where
  medium := d.medium
  sectorSize := d.sectorSize
  answer c
    | (s, memory) =>
      match plan.refuses c memory with
      | (true, memory) => (.error .broken, s, memory)
      | (false, memory) =>
        match d.answer c s with
        | (.error e, s) => (.error e, s, memory)
        | (.ok a, s) => match c, plan.claims memory with
          | .count, some n => (.ok n, s, memory)
          | _, _ => (.ok a, s, memory)

/-- The failures of a worn disk. -/
structure SectorFaults where
  /-- Sectors that cannot be read. -/
  badReads : List Nat := []
  /-- Sectors that cannot be written. -/
  badWrites : List Nat := []
  flushFails : Bool := false
  sizeUnknown : Bool := false
  claimedSectors : Option Nat := none
  /-- How many more writes reach the disk, if there is a limit. -/
  writesLeft : Option Nat := none

namespace SectorFaults

/-- Whether one of the sectors is among the `bytes` from `lba` on. -/
def hits (sectorSize : Nat) (bad : List Nat) (lba bytes : Nat) : Bool :=
  bad.any fun sector => lba ≤ sector && sector < lba + bytes / sectorSize

/-- Whether a call is refused. A write to a bad sector does not count against the limit. -/
def refuses (sectorSize : Nat) (c : Call) (f : SectorFaults) : Bool × SectorFaults :=
  match c with
  | .count => (f.sizeUnknown, f)
  | .flush => (f.flushFails, f)
  | .read lba bytes => (hits sectorSize f.badReads lba bytes, f)
  | .write lba data =>
    if hits sectorSize f.badWrites lba data.size then (true, f)
    else match f.writesLeft with
      | none => (false, f)
      | some 0 => (true, f)
      | some (n + 1) => (false, { f with writesLeft := some n })

/-- The plan of a worn disk with sectors of this size. -/
def plan (sectorSize : Nat) : FaultPlan SectorFaults where
  refuses := refuses sectorSize
  claims := claimedSectors

end SectorFaults

end FatImage.Device
