import Ksa64.Library.Checked
import Ksa64.Core.GlobalNumeric

/-!
# Time scales

UTC is given by days, seconds and parts of a second; a table of leap seconds says by how much TAI is
ahead of it on each day.  On the day before the offset rises there is one second more.
-/

namespace Ksa64.Core

open Ksa64.Library

def maxLeapTransitions : Nat := 32

def secondsPerDay : Int64 := 86400

structure UtcInstant where
  unixDay : Int32
  secondOfDay : UInt32
  subsecondQ16 : UInt16
deriving DecidableEq

/-- From the day on, the offset is in force. -/
structure LeapSecondTransition where
  effectiveUnixDay : Int32
  taiMinusUtcAfter : Int16
deriving DecidableEq

def LeapSecondTransition.zero : LeapSecondTransition where
  effectiveUnixDay := 0
  taiMinusUtcAfter := 0

structure LeapSecondTable where
  count : UInt8
  initialTaiMinusUtc : Int16
  transitions : Vector LeapSecondTransition maxLeapTransitions
deriving DecidableEq

inductive TimeError where
  | table
  | reserved
  | coverage
  | second
  | leapSecond
  | negativeElapsed
  | missionDuration
deriving DecidableEq

namespace LeapSecondTable

/-- The transitions in use. -/
def used (t : LeapSecondTable) : List LeapSecondTransition :=
  t.transitions.toList.take t.count.toNat

/-- Each transition comes after the one before it, and the offset rises by one. -/
def checkRising (previousDay : Int32) (previousOffset : Int16) :
    List LeapSecondTransition → Except TimeError Unit
  | [] => pure ()
  | transition :: rest => do
      reject (transition.effectiveUnixDay ≤ previousDay
        ∨ transition.taiMinusUtcAfter ≠ previousOffset + 1) .table
      checkRising transition.effectiveUnixDay transition.taiMinusUtcAfter rest

def validate (t : LeapSecondTable) : Except TimeError Unit := do
  reject (maxLeapTransitions < t.count.toNat) .table
  checkRising Int32.minValue t.initialTaiMinusUtc t.used
  reject ((t.transitions.toList.drop t.count.toNat).any (· ≠ .zero)) .reserved

/-- The offset after the transitions up to a day. -/
def offsetFrom (offset : Int16) (unixDay : Int32) : List LeapSecondTransition → Int16
  | [] => offset
  | transition :: rest =>
      if unixDay < transition.effectiveUnixDay then offset
      else offsetFrom transition.taiMinusUtcAfter unixDay rest

def offsetAtDay (t : LeapSecondTable) (unixDay : Int32) : Except TimeError Int16 := do
  t.validate
  pure (offsetFrom t.initialTaiMinusUtc unixDay t.used)

def isPositiveLeapDay (t : LeapSecondTable) (unixDay : Int32) : Except TimeError Bool := do
  t.validate
  pure (t.used.any fun entry ↦ entry.effectiveUnixDay = unixDay + 1)

/-- The whole seconds of TAI. -/
def wholeSeconds (utc : UtcInstant) (offset : Int16) : Int64 :=
  utc.unixDay.toInt64 * secondsPerDay + utc.secondOfDay.toUInt64.toInt64 + offset.toInt64

def utcToTaiQ16 (t : LeapSecondTable) (utc : UtcInstant) : Except TimeError Int64 := do
  reject (86400 < utc.secondOfDay) .second
  if utc.secondOfDay = 86400 then
    let leapDay ← t.isPositiveLeapDay utc.unixDay
    reject (leapDay = false) .leapSecond
  let offset ← t.offsetAtDay utc.unixDay
  pure ((wholeSeconds utc offset <<< 16) + utc.subsecondQ16.toUInt64.toInt64)

end LeapSecondTable

/-- The difference, if it fits. -/
def checkedSubI64 (a b : Int64) : Option Int64 :=
  if a.toInt - b.toInt < -2 ^ 63 ∨ 2 ^ 63 ≤ a.toInt - b.toInt then none else some (a - b)

def elapsedTai (table : LeapSecondTable) (epoch instant : UtcInstant) :
    Except TimeError MissionTimeQ16 := do
  let epochQ16 ← table.utcToTaiQ16 epoch
  let instantQ16 ← table.utcToTaiQ16 instant
  match checkedSubI64 instantQ16 epochQ16 with
  | none => throw .negativeElapsed
  | some elapsed =>
      reject (elapsed < 0) .negativeElapsed
      reject (0xffffffff < elapsed) .missionDuration
      match MissionTimeQ16.fromRaw elapsed.toUInt64.toUInt32 with
      | none => throw .missionDuration
      | some time => pure time

/-! ## UT1 -/

/-- From Q24 to Q16.  The shift rounds down, also below zero. -/
def dut1Correction (dut1Q24 : Int32) : Int64 :=
  if 0 ≤ dut1Q24 then (dut1Q24.toInt64 + 128) >>> 8 else (dut1Q24.toInt64 - 128) >>> 8

def utcToUt1Q16 (utcQ16 : Int64) (dut1Q24 : Int32) : Except TimeError Int64 :=
  match checkedAdd64 utcQ16 (dut1Correction dut1Q24) with
  | none => .error .missionDuration
  | some ut1 => .ok ut1

end Ksa64.Core
