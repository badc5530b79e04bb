import Ksa64.Library.Filling
import Ksa64.Library.Words
import Ksa64.Sim.Archive
import Ksa64.Sim.HistoryCodec
import Ksa64.Sim.ReuProbe
import Ksa64.Sim.StockRetention

/-!
# Plans of the storage

What is kept of a campaign depends on the capacity of the expansion unit: the summaries of its runs,
then full histories and then compact ones, as many as fit.  Without a unit a few summaries are kept
and one compact history.  Each phase has a planner of its own, with other sizes and with checks in
other places.

The operations are those of 32-bit words, on the numbers that the words stand for.
-/

namespace Ksa64.Sim

open Ksa64.Library

inductive ReuPreference
  | auto
  | disabled
  | capKiB (cap : UInt32)
deriving DecidableEq

inductive StorageMode
  | stock
  | reu
deriving DecidableEq

/-- The plan of a phase. -/
@[ext]
structure StoragePlan where
  mode : StorageMode
  detectedKib : Nat
  effectiveKib : Nat
  summarySlots : Nat
  fullHistories : Nat
  compactHistories : Nat
  usedBytes : Nat
  freeBytes : Nat
deriving DecidableEq

inductive StoragePlanError
  | unsupportedCapacity
  | sizeOverflow
deriving DecidableEq

inductive Phase8StoragePlanError
  | unsupportedCapacity
  | overflow
deriving DecidableEq

/-- The capacity that is used of the one that is there. -/
def effective (detectedKib : UInt32) : ReuPreference → UInt32
  | .disabled => 0
  | .auto => detectedKib
  | .capKiB cap => min detectedKib cap

/-- The plan of a stock computer. -/
def stockPlan (detectedKib runCount compactPoints : UInt32) (usedBytes : Nat) : StoragePlan where
  mode := .stock
  detectedKib := detectedKib.toNat
  effectiveKib := 0
  summarySlots := min runCount.toNat stockInterestingSummaries
  fullHistories := 0
  compactHistories := if compactPoints = 0 then 0 else 1
  usedBytes := usedBytes
  freeBytes := 0

section Planners

variable (detectedKib : UInt32) (preference : ReuPreference)
  (runCount detailFrames compactPoints : UInt32)

/-! ## Phase 4 -/

def runSummaryLength : Nat := 128
def archiveBaseBytes : Nat :=
  archiveSuperblockLength + archiveRecordHeaderLength * 3 + 128

def checkedHistorySize (header record : Nat) (count : UInt32) :
    ExceptT StoragePlanError Option Nat := do
  let records ← checked .sizeOverflow (record * count.toNat)
  checked .sizeOverflow (header + records)

def StoragePlan.compute : ExceptT StoragePlanError Option StoragePlan :=
  if detectedKib ≠ 0 ∧ detectedKib ∉ supportedReuKib then throw .unsupportedCapacity
  else if effective detectedKib preference = 0 then do
    let plot ← checkedHistorySize 64 8 compactPoints
    let summaryBytes ← plain (min runCount.toNat stockInterestingSummaries * runSummaryLength)
    let usedBytes ← plain (summaryBytes + plot)
    pure (stockPlan detectedKib runCount compactPoints usedBytes)
  else do
    let capacity ← checked .sizeOverflow ((effective detectedKib preference).toNat * 1024)
    let summarySlots := min runCount.toNat (capacity / 4 / runSummaryLength)
    let summaryBytes ← checked .sizeOverflow (summarySlots * runSummaryLength)
    let fullPayload ← checkedHistorySize 96 160 detailFrames
    let compactPayload ← checkedHistorySize 64 8 compactPoints
    let fullCost ← plain (fullPayload + archiveRecordHeaderLength)
    let compactCost ← plain (compactPayload + archiveRecordHeaderLength)
    let used ← checked .sizeOverflow (archiveBaseBytes + summaryBytes)
    let used ← checked .sizeOverflow (used + archiveRecordHeaderLength)
    if used > capacity then throw .sizeOverflow
    else do
      let full ← fillDivided capacity used fullCost runCount.toNat
      let compact ← fillDivided capacity full.2 compactCost (runCount.toNat - full.1)
      let freeBytes ← plainSub capacity compact.2
      pure ⟨.reu, detectedKib.toNat, (effective detectedKib preference).toNat, summarySlots,
        full.1, compact.1, compact.2, freeBytes⟩

/-! ## Phase 5 -/

namespace Phase5StoragePlan

def ksr5Length : Nat := 160
def phase5TelemetryHeaderLength : Nat := 96
def phase5TelemetryFrameLength : Nat := 424
def archiveSuperblockBytes : Nat := 256
def aggregateBytes : Nat := 128
def archiveRecordHeaderBytes : Nat := 32

def historyBytes (points : UInt32) : ExceptT Phase5HistoryError Option Nat := do
  let bytes ← checked .capacity (points.toNat * kph5PointLength)
  checked .capacity (kph5HeaderLength + bytes)

/-- The bytes that are used without any history. -/
def baseBytes (summaryBytes : Nat) : ExceptT Phase5HistoryError Option Nat := do
  let used ← checked .capacity (archiveSuperblockBytes + aggregateBytes)
  let used ← checked .capacity (used + summaryBytes)
  checked .capacity (used + 3 * archiveRecordHeaderBytes)

def compute : ExceptT Phase5HistoryError Option StoragePlan :=
  if detectedKib ≠ 0 ∧ detectedKib ∉ supportedReuKib then throw .capacity
  else do
    let compactBytes ← historyBytes compactPoints
    if effective detectedKib preference = 0 then do
      let summaryBytes ← plain (min runCount.toNat stockInterestingSummaries * ksr5Length)
      let usedBytes ← plain (summaryBytes + compactBytes)
      pure (stockPlan detectedKib runCount compactPoints usedBytes)
    else do
      -- the shift drops what does not fit into the word
      let capacity := (effective detectedKib preference).toNat * 1024 % 2 ^ 32
      let summaries ← fillLoop .capacity (capacity / 4) ksr5Length runCount.toNat 0 0
      let used ← baseBytes summaries.2
      if used > capacity then throw .capacity
      else do
        let frames ← checked .capacity (detailFrames.toNat * phase5TelemetryFrameLength)
        let fullPayload ← checked .capacity (phase5TelemetryHeaderLength + frames)
        let fullCost ← checked .capacity (fullPayload + archiveRecordHeaderBytes)
        let compactCost ← checked .capacity (compactBytes + archiveRecordHeaderBytes)
        let full ← fillLoop .capacity capacity fullCost
          (if detailFrames = 0 then 0 else runCount.toNat) 0 used
        let compact ← fillLoop .capacity capacity compactCost
          (if compactPoints = 0 then 0 else runCount.toNat - full.1) 0 full.2
        let freeBytes ← plainSub capacity compact.2
        pure ⟨.reu, detectedKib.toNat, (effective detectedKib preference).toNat, summaries.1,
          full.1, compact.1, compact.2, freeBytes⟩

/-- The payloads that fit, one after the other. -/
def fillExact (capacity : Nat) :
    List UInt32 → Nat → Nat → ExceptT Phase5HistoryError Option (Nat × Nat)
  | [], full, used => pure (full, used)
  | payload :: payloads, full, used =>
      if payload.toNat < phase5TelemetryHeaderLength + phase5TelemetryFrameLength
      then throw .length
      else do
        let cost ← checked .capacity (payload.toNat + archiveRecordHeaderBytes)
        let room ← plainSub capacity used
        if cost > room then pure (full, used)
        else do
          let used ← plain (used + cost)
          fillExact capacity payloads (full + 1) used

/-- The compact histories that fit, if there is anything in them. -/
def fillCompact (capacity used compactCost left : Nat) :
    ExceptT Phase5HistoryError Option (Nat × Nat) :=
  if compactPoints = 0 then pure (0, used) else fillDivided capacity used compactCost left

def computeExact (fullHistoryBytes : List UInt32) :
    ExceptT Phase5HistoryError Option StoragePlan := do
  let plan ← compute detectedKib preference runCount 0 compactPoints
  if plan.mode = .stock then pure plan
  else do
    let capacity ← checked .capacity (plan.effectiveKib * 1024)
    let summaryBytes ← checked .capacity (plan.summarySlots * ksr5Length)
    let used ← baseBytes summaryBytes
    let full ← fillExact capacity (fullHistoryBytes.take runCount.toNat) 0 used
    let compactBytes ← historyBytes compactPoints
    let compactCost ← checked .capacity (compactBytes + archiveRecordHeaderBytes)
    let compact ← fillCompact compactPoints capacity full.2 compactCost (runCount.toNat - full.1)
    let freeBytes ← plainSub capacity compact.2
    pure { plan with
      fullHistories := full.1
      compactHistories := compact.1
      usedBytes := compact.2
      freeBytes }

end Phase5StoragePlan

/-! ## Phase 8 -/

namespace Phase8StoragePlan

def ksr8Length : Nat := 256
def archiveOverhead : Nat := 512

def history (header stride : Nat) (count : UInt32) :
    ExceptT Phase8StoragePlanError Option Nat := do
  let records ← checked .overflow (stride * count.toNat)
  let bytes ← checked .overflow (header + records)
  checked .overflow (bytes + 4)

def compute : ExceptT Phase8StoragePlanError Option StoragePlan :=
  if ¬(detectedKib = 0 ∨ detectedKib ∈ supportedReuKib) then throw .unsupportedCapacity
  else do
    let compact ← history 64 24 compactPoints
    if effective detectedKib preference = 0 then do
      let summaryBytes ← plain (min runCount.toNat stockInterestingSummaries * ksr8Length)
      let usedBytes ← plain (summaryBytes + compact)
      pure (stockPlan detectedKib runCount compactPoints usedBytes)
    else do
      let capacity ← checked .overflow ((effective detectedKib preference).toNat * 1024)
      let summaries := min runCount.toNat (capacity / 4 / ksr8Length)
      let summaryBytes ← plain (summaries * ksr8Length)
      let used ← checked .overflow (archiveOverhead + summaryBytes)
      if used > capacity then throw .overflow
      else do
        let full ← history 128 160 detailFrames
        let full ← plain (full + 8)
        let compact ← plain (compact + 8)
        let fullCount ← fillDivided capacity used full runCount.toNat
        let compactCount ← fillDivided capacity fullCount.2 compact (runCount.toNat - fullCount.1)
        let freeBytes ← plainSub capacity compactCount.2
        pure ⟨.reu, detectedKib.toNat, (effective detectedKib preference).toNat, summaries,
          fullCount.1, compactCount.1, compactCount.2, freeBytes⟩

end Phase8StoragePlan

end Planners

/-! ## What the planners compute -/

section Results

variable {detectedKib : UInt32} {preference : ReuPreference}
  {runCount detailFrames compactPoints : UInt32}

/-- The capacities that a planner takes. -/
def Supported (detectedKib : UInt32) : Prop := detectedKib = 0 ∨ detectedKib ∈ supportedReuKib

theorem supported_guard :
    (detectedKib ≠ 0 ∧ detectedKib ∉ supportedReuKib) ↔ ¬Supported detectedKib :=
  not_or.symm

theorem effective_le (h : Supported detectedKib) (preference : ReuPreference) :
    (effective detectedKib preference).toNat ≤ 16384 := by
  have hdetected : detectedKib.toNat ≤ 16384 := by
    rcases h with rfl | h
    · exact Nat.zero_le _
    · have hall : ∀ capacity ∈ supportedReuKib, capacity.toNat ≤ 16384 := by
        simp [supportedReuKib]
      exact hall _ h
  cases preference with
  | auto => exact hdetected
  | disabled => exact Nat.zero_le _
  | capKiB cap =>
      show (min detectedKib cap).toNat ≤ _
      rw [toNat_min32]
      exact (min_le_left _ _).trans hdetected

/-- A plan that fills the unit. -/
def reuPlan (detectedKib effectiveKib summarySlots base fullCost fullLimit compactCost : Nat)
    (compactLimit : Nat → Nat) : StoragePlan :=
  let capacity := effectiveKib * 1024
  let full := min ((capacity - base) / fullCost) fullLimit
  let used := base + full * fullCost
  let compact := min ((capacity - used) / compactCost) (compactLimit full)
  ⟨.reu, detectedKib, effectiveKib, summarySlots, full, compact, used + compact * compactCost,
    capacity - (used + compact * compactCost)⟩

theorem checkedHistorySize_bind {header record : Nat} {count : UInt32} {β : Type}
    (f : Nat → ExceptT StoragePlanError Option β) : (checkedHistorySize header record count >>= f)
      = if header + record * count.toNat < 2 ^ 32 then f (header + record * count.toNat)
        else throw .sizeOverflow := by
  unfold checkedHistorySize
  rw [bind_assoc]
  by_cases hrecords : record * count.toNat < 2 ^ 32
  · rw [checked_bind _ hrecords]
    split_ifs with hsize
    · exact checked_bind _ hsize
    · exact checked_bind_of_le _ (Nat.not_lt.mp hsize)
  · rw [checked_bind_of_le _ (Nat.not_lt.mp hrecords), if_neg (by omega)]

/-- The plan of Phase 4 for a stock computer. -/
theorem compute4_stock (h : Supported detectedKib) (hnone : effective detectedKib preference = 0) :
    StoragePlan.compute detectedKib preference runCount detailFrames compactPoints
      = if 64 + 8 * compactPoints.toNat < 2 ^ 32
        then if min runCount.toNat 5 * 128 + (64 + 8 * compactPoints.toNat) < 2 ^ 32
          then pure (stockPlan detectedKib runCount compactPoints
            (min runCount.toNat 5 * 128 + (64 + 8 * compactPoints.toNat)))
          else overflow
        else throw .sizeOverflow := by
  have hmin : min runCount.toNat 5 ≤ 5 := min_le_right _ _
  unfold StoragePlan.compute
  rw [if_neg (mt supported_guard.mp (not_not_intro h)), if_pos hnone, checkedHistorySize_bind]
  refine if_congr Iff.rfl ?_ rfl
  unfold stockInterestingSummaries runSummaryLength
  rw [plain_bind _ (by omega)]
  split_ifs with hused
  · exact plain_bind _ hused
  · exact plain_bind_of_le _ (Nat.not_lt.mp hused)

/-- The histories that are found by division, and the plan with them. -/
theorem fillDivided_plan {ε : Type} {effectiveKib slots base fullCost fullLimit compactCost : Nat}
    {compactLimit : Nat → Nat} (hkib : effectiveKib ≤ 16384) (hbase : base ≤ effectiveKib * 1024)
    (hfull : 0 < fullCost) (hcompact : 0 < compactCost) :
    (do
      let full ← fillDivided (effectiveKib * 1024) base fullCost fullLimit
      let compact ← fillDivided (effectiveKib * 1024) full.2 compactCost (compactLimit full.1)
      let freeBytes ← plainSub (effectiveKib * 1024) compact.2
      pure ⟨.reu, detectedKib.toNat, effectiveKib, slots, full.1, compact.1, compact.2, freeBytes⟩
        : ExceptT ε Option StoragePlan)
      = pure (reuPlan detectedKib.toNat effectiveKib slots base fullCost fullLimit compactCost
        compactLimit) := by
  have hfulls := (@filled_min _ _ _ fullLimit hbase hfull).used_le
  have hcompacts := (@filled_min _ _ _ (compactLimit
    (min ((effectiveKib * 1024 - base) / fullCost) fullLimit)) hfulls hcompact).used_le
  rw [fillDivided_eq (by omega) hbase hfull, pure_bind, fillDivided_eq (by omega) hfulls hcompact,
    pure_bind, plainSub_bind _ hcompacts]
  rfl

/-- The slots of the summaries, a quarter of the unit at most. -/
theorem slots_bytes_le {runCount capacity length : Nat} :
    min runCount (capacity / 4 / length) * length ≤ capacity / 4 :=
  (Nat.mul_le_mul_right length (min_le_right _ _)).trans (Nat.div_mul_le_self _ _)

/-- The plan of Phase 4 for a unit. -/
theorem compute4_reu (h : Supported detectedKib) (hreu : effective detectedKib preference ≠ 0) :
    StoragePlan.compute detectedKib preference runCount detailFrames compactPoints
      = let capacity := (effective detectedKib preference).toNat * 1024
        let slots := min runCount.toNat (capacity / 4 / 128)
        if 96 + 160 * detailFrames.toNat < 2 ^ 32 ∧ 64 + 8 * compactPoints.toNat < 2 ^ 32 then
          if 64 + 8 * compactPoints.toNat + 32 < 2 ^ 32 then
            if 512 + slots * 128 ≤ capacity then
              pure (reuPlan detectedKib.toNat (effective detectedKib preference).toNat slots
                (512 + slots * 128) (96 + 160 * detailFrames.toNat + 32) runCount.toNat
                (64 + 8 * compactPoints.toNat + 32) (runCount.toNat - ·))
            else throw .sizeOverflow
          else overflow
        else throw .sizeOverflow := by
  have hkib := effective_le h preference
  have hslots := @slots_bytes_le runCount.toNat ((effective detectedKib preference).toNat * 1024) 128
  dsimp only
  unfold StoragePlan.compute runSummaryLength archiveBaseBytes archiveSuperblockLength
    archiveRecordHeaderLength
  rw [if_neg (mt supported_guard.mp (not_not_intro h)), if_neg hreu, checked_bind _ (by omega),
    checked_bind _ (by omega), checkedHistorySize_bind]
  generalize min runCount.toNat ((effective detectedKib preference).toNat * 1024 / 4 / 128) = slots
    at hslots ⊢
  have hbytes : 256 + 32 * 3 + 128 + slots * 128 + 32 = 512 + slots * 128 := by omega
  by_cases hfull : 96 + 160 * detailFrames.toNat < 2 ^ 32
  · rw [if_pos hfull, checkedHistorySize_bind]
    refine (if_congr (and_iff_right hfull).symm ?_ rfl)
    rw [plain_bind _ (by omega)]
    split_ifs with hcompact hbase
    · rw [plain_bind _ hcompact, checked_bind _ (by omega), checked_bind _ (by omega), hbytes,
        if_neg (Nat.not_lt.mpr hbase)]
      exact fillDivided_plan hkib hbase (by omega) (by omega)
    · rw [plain_bind _ hcompact, checked_bind _ (by omega), checked_bind _ (by omega), hbytes,
        if_pos (Nat.lt_of_not_le hbase)]
    · exact plain_bind_of_le _ (Nat.not_lt.mp hcompact)
  · rw [if_neg hfull, if_neg fun h ↦ hfull h.1]

theorem history_bind {header stride : Nat} {count : UInt32} {β : Type}
    (f : Nat → ExceptT Phase8StoragePlanError Option β) :
    (Phase8StoragePlan.history header stride count >>= f)
      = if header + stride * count.toNat + 4 < 2 ^ 32 then f (header + stride * count.toNat + 4)
        else throw .overflow := by
  unfold Phase8StoragePlan.history
  rw [bind_assoc]
  by_cases hrecords : stride * count.toNat < 2 ^ 32
  · rw [checked_bind _ hrecords, bind_assoc]
    by_cases hbytes : header + stride * count.toNat < 2 ^ 32
    · rw [checked_bind _ hbytes]
      split_ifs with hsize
      · exact checked_bind _ hsize
      · exact checked_bind_of_le _ (Nat.not_lt.mp hsize)
    · rw [checked_bind_of_le _ (Nat.not_lt.mp hbytes), if_neg (by omega)]
  · rw [checked_bind_of_le _ (Nat.not_lt.mp hrecords), if_neg (by omega)]

/-- The plan of Phase 8 for a stock computer. -/
theorem compute8_stock (h : Supported detectedKib) (hnone : effective detectedKib preference = 0) :
    Phase8StoragePlan.compute detectedKib preference runCount detailFrames compactPoints
      = if 64 + 24 * compactPoints.toNat + 4 < 2 ^ 32
        then if min runCount.toNat 5 * 256 + (64 + 24 * compactPoints.toNat + 4) < 2 ^ 32
          then pure (stockPlan detectedKib runCount compactPoints
            (min runCount.toNat 5 * 256 + (64 + 24 * compactPoints.toNat + 4)))
          else overflow
        else throw .overflow := by
  have hmin : min runCount.toNat 5 ≤ 5 := min_le_right _ _
  have hguard : ¬¬(detectedKib = 0 ∨ detectedKib ∈ supportedReuKib) := not_not_intro h
  unfold Phase8StoragePlan.compute
  rw [if_neg hguard, history_bind]
  refine if_congr Iff.rfl ?_ rfl
  unfold stockInterestingSummaries Phase8StoragePlan.ksr8Length
  rw [if_pos hnone, plain_bind _ (by omega)]
  split_ifs with hused
  · exact plain_bind _ hused
  · exact plain_bind_of_le _ (Nat.not_lt.mp hused)

/-- The plan of Phase 8 for a unit. -/
theorem compute8_reu (h : Supported detectedKib) (hreu : effective detectedKib preference ≠ 0) :
    Phase8StoragePlan.compute detectedKib preference runCount detailFrames compactPoints
      = let capacity := (effective detectedKib preference).toNat * 1024
        let slots := min runCount.toNat (capacity / 4 / 256)
        if 64 + 24 * compactPoints.toNat + 4 < 2 ^ 32 ∧ 512 + slots * 256 ≤ capacity
            ∧ 128 + 160 * detailFrames.toNat + 4 < 2 ^ 32 then
          pure (reuPlan detectedKib.toNat (effective detectedKib preference).toNat slots
            (512 + slots * 256) (128 + 160 * detailFrames.toNat + 4 + 8) runCount.toNat
            (64 + 24 * compactPoints.toNat + 4 + 8) (runCount.toNat - ·))
        else throw .overflow := by
  have hkib := effective_le h preference
  have hslots := @slots_bytes_le runCount.toNat ((effective detectedKib preference).toNat * 1024) 256
  have hguard : ¬¬(detectedKib = 0 ∨ detectedKib ∈ supportedReuKib) := not_not_intro h
  dsimp only
  unfold Phase8StoragePlan.compute Phase8StoragePlan.ksr8Length Phase8StoragePlan.archiveOverhead
  rw [if_neg hguard, history_bind]
  by_cases hcompact : 64 + 24 * compactPoints.toNat + 4 < 2 ^ 32
  · rw [if_pos hcompact, if_neg hreu, checked_bind _ (by omega)]
    dsimp only
    generalize min runCount.toNat ((effective detectedKib preference).toNat * 1024 / 4 / 256) = slots
      at hslots ⊢
    rw [plain_bind _ (by omega), checked_bind _ (by omega)]
    by_cases hbase : 512 + slots * 256 ≤ (effective detectedKib preference).toNat * 1024
    · rw [if_neg (Nat.not_lt.mpr hbase), history_bind]
      by_cases hfull : 128 + 160 * detailFrames.toNat + 4 < 2 ^ 32
      · rw [if_pos hfull, if_pos ⟨hcompact, hbase, hfull⟩, plain_bind _ (by omega),
          plain_bind _ (by omega)]
        exact fillDivided_plan hkib hbase (by omega) (by omega)
      · rw [if_neg hfull, if_neg fun h ↦ hfull h.2.2]
    · rw [if_pos (Nat.lt_of_not_le hbase), if_neg fun h ↦ hbase h.2.1]
  · rw [if_neg hcompact, if_neg fun h ↦ hcompact h.1]

/-! ### Phase 5 -/

namespace Phase5StoragePlan

/-- What a full history takes, with the header of its record. -/
def fullCost (detailFrames : UInt32) : Nat := 96 + detailFrames.toNat * 424 + 32

def compactCost (compactPoints : UInt32) : Nat := 80 + compactPoints.toNat * 16 + 32

/-- As many histories as runs, if there is anything in them. -/
def fullLimit (runCount detailFrames : UInt32) : Nat :=
  if detailFrames = 0 then 0 else runCount.toNat

def compactLimit (runCount compactPoints : UInt32) (full : Nat) : Nat :=
  if compactPoints = 0 then 0 else runCount.toNat - full

/-- The summaries that fit into a quarter of the unit. -/
def summarySlots (capacity : Nat) (runCount : UInt32) : Nat := min (capacity / 4 / 160) runCount.toNat

/-- What is used of the unit before the histories. -/
def usedBefore (capacity : Nat) (runCount : UInt32) : Nat := 480 + summarySlots capacity runCount * 160

/-- What is used of the unit with the full histories. -/
def usedFull (capacity : Nat) (runCount detailFrames : UInt32) : Nat :=
  usedBefore capacity runCount + min ((capacity - usedBefore capacity runCount) / fullCost detailFrames)
    (fullLimit runCount detailFrames) * fullCost detailFrames

/-- A history that does not fit into a word stops the planner. -/
def Stops (capacity : Nat) (runCount detailFrames compactPoints : UInt32) : Prop :=
  FillingStops capacity (usedBefore capacity runCount) (fullCost detailFrames)
      (fullLimit runCount detailFrames) ∨
    FillingStops capacity (usedFull capacity runCount detailFrames) (compactCost compactPoints)
      (compactLimit runCount compactPoints
        (min ((capacity - usedBefore capacity runCount) / fullCost detailFrames)
          (fullLimit runCount detailFrames)))

/-- The sizes that are refused before the histories are filled in. -/
def Refused (capacity : Nat) (runCount detailFrames compactPoints : UInt32) : Prop :=
  2 ^ 32 ≤ compactCost compactPoints ∨ capacity < usedBefore capacity runCount ∨
    2 ^ 32 ≤ 96 + detailFrames.toNat * 424

theorem historyBytes_bind {β : Type} (f : Nat → ExceptT Phase5HistoryError Option β) :
    (historyBytes compactPoints >>= f)
      = if 80 + compactPoints.toNat * 16 < 2 ^ 32 then f (80 + compactPoints.toNat * 16)
        else throw .capacity := by
  unfold historyBytes kph5PointLength kph5HeaderLength
  rw [bind_assoc]
  by_cases hbytes : compactPoints.toNat * 16 < 2 ^ 32
  · rw [checked_bind _ hbytes]
    split_ifs with hsize
    · exact checked_bind _ hsize
    · exact checked_bind_of_le _ (Nat.not_lt.mp hsize)
  · rw [checked_bind_of_le _ (Nat.not_lt.mp hbytes), if_neg (by omega)]

theorem baseBytes_bind {β : Type} {summaryBytes : Nat} (h : summaryBytes ≤ 2 ^ 24)
    (f : Nat → ExceptT Phase5HistoryError Option β) :
    (baseBytes summaryBytes >>= f) = f (480 + summaryBytes) := by
  unfold baseBytes archiveSuperblockBytes aggregateBytes archiveRecordHeaderBytes
  rw [bind_assoc, checked_bind _ (by omega), bind_assoc, checked_bind _ (by omega),
    checked_bind _ (by omega)]
  exact congrArg f (by omega)

/-- The plan of Phase 5 for a stock computer. -/
theorem compute_stock (h : Supported detectedKib) (hnone : effective detectedKib preference = 0) :
    compute detectedKib preference runCount detailFrames compactPoints
      = if 80 + compactPoints.toNat * 16 < 2 ^ 32
        then if min runCount.toNat 5 * 160 + (80 + compactPoints.toNat * 16) < 2 ^ 32
          then pure (stockPlan detectedKib runCount compactPoints
            (min runCount.toNat 5 * 160 + (80 + compactPoints.toNat * 16)))
          else overflow
        else throw .capacity := by
  have hmin : min runCount.toNat 5 ≤ 5 := min_le_right _ _
  unfold compute
  rw [if_neg (mt supported_guard.mp (not_not_intro h)), historyBytes_bind]
  refine if_congr Iff.rfl ?_ rfl
  unfold stockInterestingSummaries ksr5Length
  rw [if_pos hnone, plain_bind _ (by omega)]
  split_ifs with hused
  · exact plain_bind _ hused
  · exact plain_bind_of_le _ (Nat.not_lt.mp hused)

/-- The bytes that are used before the histories leave room. -/
theorem slots_le {capacity : Nat} : summarySlots capacity runCount * 160 ≤ capacity / 4 :=
  (Nat.mul_le_mul_right 160 (min_le_left _ _)).trans (Nat.div_mul_le_self _ _)

/-- The loop over the summaries. -/
theorem summaries_eq {capacity : Nat} (hcapacity : capacity ≤ 2 ^ 24) :
    fillLoop Phase5HistoryError.capacity (capacity / 4) ksr5Length runCount.toNat 0 0
      = pure (summarySlots capacity runCount, summarySlots capacity runCount * 160) := by
  have hfits : ¬FillingStops (capacity / 4) 0 160 runCount.toNat := by
    intro h
    have hlarge := ((@fillingStops_iff (capacity / 4) 0 160 _ (by omega) (Nat.zero_le _)).mp h).2
    omega
  unfold ksr5Length
  rw [fillLoop_eq (by omega) (by decide) _ _ _ (Nat.zero_le _), if_neg hfits, Nat.zero_add,
    Nat.zero_add, Nat.sub_zero]
  rfl

/-- The histories that the loops fill in, and the plan with them. -/
theorem histories_eq {kib capacity : Nat} (hkib : kib ≤ 16384) (hcapacity : capacity = kib * 1024)
    (hbase : usedBefore capacity runCount ≤ capacity) (slots : Nat) :
    (Stops capacity runCount detailFrames compactPoints → (do
        let full ← fillLoop .capacity capacity (fullCost detailFrames)
          (fullLimit runCount detailFrames) 0 (usedBefore capacity runCount)
        let compact ← fillLoop .capacity capacity (compactCost compactPoints)
          (compactLimit runCount compactPoints full.1) 0 full.2
        let freeBytes ← plainSub capacity compact.2
        pure ⟨.reu, detectedKib.toNat, kib, slots, full.1, compact.1, compact.2, freeBytes⟩
          : ExceptT Phase5HistoryError Option StoragePlan) = throw .capacity) ∧
    (¬Stops capacity runCount detailFrames compactPoints → (do
        let full ← fillLoop .capacity capacity (fullCost detailFrames)
          (fullLimit runCount detailFrames) 0 (usedBefore capacity runCount)
        let compact ← fillLoop .capacity capacity (compactCost compactPoints)
          (compactLimit runCount compactPoints full.1) 0 full.2
        let freeBytes ← plainSub capacity compact.2
        pure ⟨.reu, detectedKib.toNat, kib, slots, full.1, compact.1, compact.2, freeBytes⟩
          : ExceptT Phase5HistoryError Option StoragePlan)
        = pure (reuPlan detectedKib.toNat kib slots (usedBefore capacity runCount)
          (fullCost detailFrames) (fullLimit runCount detailFrames) (compactCost compactPoints)
          (compactLimit runCount compactPoints))) := by
  subst hcapacity
  have hcost : 0 < fullCost detailFrames := Nat.add_pos_right _ (by decide)
  have hcost' : 0 < compactCost compactPoints := Nat.add_pos_right _ (by decide)
  have hfulls := (@filled_min _ _ _ (fullLimit runCount detailFrames) hbase hcost).used_le
  have hcompacts := (@filled_min _ _ _ (compactLimit runCount compactPoints
    (min ((kib * 1024 - usedBefore (kib * 1024) runCount) / fullCost detailFrames)
      (fullLimit runCount detailFrames))) hfulls hcost').used_le
  unfold Stops usedFull
  rw [fillLoop_eq (by omega) hcost _ _ _ hbase]
  by_cases hfull : FillingStops (kib * 1024) (usedBefore (kib * 1024) runCount)
      (fullCost detailFrames) (fullLimit runCount detailFrames)
  · rw [if_pos hfull]
    exact ⟨fun _ ↦ rfl, fun h ↦ absurd (.inl hfull) h⟩
  · rw [if_neg hfull, pure_bind, Nat.zero_add, fillLoop_eq (by omega) hcost' _ _ _ hfulls]
    constructor
    · intro h
      rw [if_pos (h.resolve_left hfull)]
      rfl
    · intro h
      rw [if_neg fun hcompact ↦ h (.inr hcompact), pure_bind, Nat.zero_add,
        plainSub_bind _ hcompacts]
      rfl

/-- The plan of Phase 5 for a unit. -/
theorem compute_reu (h : Supported detectedKib) (hreu : effective detectedKib preference ≠ 0)
    {capacity : Nat} (hcapacity : capacity = (effective detectedKib preference).toNat * 1024) :
    (Refused capacity runCount detailFrames compactPoints ∨
        Stops capacity runCount detailFrames compactPoints →
      compute detectedKib preference runCount detailFrames compactPoints = throw .capacity) ∧
    (¬(Refused capacity runCount detailFrames compactPoints ∨
        Stops capacity runCount detailFrames compactPoints) →
      compute detectedKib preference runCount detailFrames compactPoints
        = pure (reuPlan detectedKib.toNat (effective detectedKib preference).toNat
          (summarySlots capacity runCount) (usedBefore capacity runCount) (fullCost detailFrames)
          (fullLimit runCount detailFrames) (compactCost compactPoints)
          (compactLimit runCount compactPoints))) := by
  have hkib := effective_le h preference
  have hslots := @slots_le runCount capacity
  have hshift : (effective detectedKib preference).toNat * 1024 % 2 ^ 32 = capacity := by
    rw [← hcapacity]
    exact Nat.mod_eq_of_lt (by omega)
  have hbefore : usedBefore capacity runCount = 480 + summarySlots capacity runCount * 160 := rfl
  have hcost : fullCost detailFrames = 96 + detailFrames.toNat * 424 + 32 := rfl
  have hcost' : compactCost compactPoints = 80 + compactPoints.toNat * 16 + 32 := rfl
  unfold compute Refused
  rw [if_neg (mt supported_guard.mp (not_not_intro h)), historyBytes_bind, if_neg hreu]
  dsimp only
  rw [hshift, summaries_eq (by omega), pure_bind, baseBytes_bind (by omega), ← hbefore]
  by_cases hcompact : 80 + compactPoints.toNat * 16 < 2 ^ 32
  · rw [if_pos hcompact]
    by_cases hbase : usedBefore capacity runCount ≤ capacity
    · rw [if_neg (Nat.not_lt.mpr hbase)]
      unfold phase5TelemetryFrameLength phase5TelemetryHeaderLength archiveRecordHeaderBytes
      by_cases hsizes : 96 + detailFrames.toNat * 424 < 2 ^ 32 ∧ compactCost compactPoints < 2 ^ 32
      · obtain ⟨hfull, hcompact'⟩ := hsizes
        obtain ⟨hstops, hfits⟩ := @histories_eq detectedKib runCount detailFrames compactPoints _
          capacity hkib hcapacity hbase (summarySlots capacity runCount)
        rw [checked_bind _ (by omega), checked_bind _ hfull, checked_bind _ (by omega),
          checked_bind _ (by omega)]
        refine ⟨fun h ↦ hstops (h.resolve_left fun hrefused ↦ ?_), fun h ↦ hfits (mt .inr h)⟩
        omega
      · refine ⟨fun _ ↦ ?_, fun h ↦ absurd (.inl (by omega)) h⟩
        by_cases hframes : detailFrames.toNat * 424 < 2 ^ 32
        · rw [checked_bind _ hframes]
          by_cases hfull : 96 + detailFrames.toNat * 424 < 2 ^ 32
          · rw [checked_bind _ hfull, checked_bind _ (by omega), checked_bind_of_le _ (by omega)]
          · exact checked_bind_of_le _ (Nat.not_lt.mp hfull)
        · exact checked_bind_of_le _ (Nat.not_lt.mp hframes)
    · rw [if_pos (Nat.lt_of_not_le hbase)]
      exact ⟨fun _ ↦ rfl, fun h ↦ absurd (.inl (.inr (.inl (Nat.lt_of_not_le hbase)))) h⟩
  · rw [if_neg hcompact]
    exact ⟨fun _ ↦ rfl, fun h ↦ absurd (.inl (.inl (by omega))) h⟩

/-! ### Exact payloads -/

/-- Payloads of one size are filled in as by division. -/
theorem fillExact_replicate {capacity : Nat} {payload : UInt32} (hcapacity : capacity < 2 ^ 32)
    (hlength : 520 ≤ payload.toNat) (hcost : payload.toNat + 32 < 2 ^ 32) (left full used : Nat)
    (hused : used ≤ capacity) :
    fillExact capacity (List.replicate left payload) full used
      = pure (full + min ((capacity - used) / (payload.toNat + 32)) left,
        used + min ((capacity - used) / (payload.toNat + 32)) left * (payload.toNat + 32)) := by
  induction left generalizing full used with
  | zero =>
      rw [Nat.min_zero, Nat.zero_mul]
      rfl
  | succ left ih =>
      rw [List.replicate_succ]
      unfold fillExact phase5TelemetryHeaderLength phase5TelemetryFrameLength archiveRecordHeaderBytes
      rw [if_neg (by omega), checked_bind _ hcost, plainSub_bind _ hused]
      by_cases hfits : used + (payload.toNat + 32) ≤ capacity
      · rw [if_neg (by omega), plain_bind _ (by omega), ih _ _ hfits,
          div_of_fits (by omega) hfits, Nat.add_min_add_right, Nat.add_mul, Nat.one_mul,
          Nat.add_right_comm full, Nat.add_right_comm used, Nat.add_assoc full, Nat.add_assoc used]
      · rw [if_pos (by omega), div_of_not_fits (Nat.lt_of_not_le hfits) hused, Nat.zero_min,
          Nat.zero_mul]
        rfl

/-- The payloads of the runs: a history without frames has none. -/
def payloads (runCount detailFrames payload : UInt32) : List UInt32 :=
  if detailFrames = 0 then [] else List.replicate runCount.toNat payload

theorem fillExact_payloads {capacity base : Nat} {payload : UInt32} (hcapacity : capacity ≤ 2 ^ 24)
    (hbase : base ≤ capacity) (hpayload : payload.toNat = 96 + detailFrames.toNat * 424) :
    fillExact capacity ((payloads runCount detailFrames payload).take runCount.toNat) 0 base
      = pure (min ((capacity - base) / fullCost detailFrames) (fullLimit runCount detailFrames),
        base + min ((capacity - base) / fullCost detailFrames) (fullLimit runCount detailFrames)
          * fullCost detailFrames) := by
  have hcost : fullCost detailFrames = payload.toNat + 32 := congrArg (· + 32) hpayload.symm
  have hlt := payload.toNat_lt
  unfold payloads fullLimit
  by_cases hnone : detailFrames = 0
  · rw [if_pos hnone, if_pos hnone, List.take_nil, Nat.min_zero, Nat.zero_mul]
    rfl
  · have hframes : detailFrames.toNat ≠ 0 := fun h ↦ hnone (UInt32.toNat_inj.mp h)
    rw [if_neg hnone, if_neg hnone, List.take_replicate, Nat.min_self, hcost,
      fillExact_replicate (by omega) (by omega) (by omega) _ _ _ hbase, Nat.zero_add]

/-- The compact histories, by division. -/
theorem fillCompact_eq {capacity used full : Nat} (hcapacity : capacity ≤ 2 ^ 24)
    (hused : used ≤ capacity) :
    fillCompact compactPoints capacity used (compactCost compactPoints) (runCount.toNat - full)
      = pure (min ((capacity - used) / compactCost compactPoints)
          (compactLimit runCount compactPoints full),
        used + min ((capacity - used) / compactCost compactPoints)
          (compactLimit runCount compactPoints full) * compactCost compactPoints) := by
  unfold compactLimit fillCompact
  by_cases hnone : compactPoints = 0
  · rw [if_pos hnone, if_pos hnone, Nat.min_zero, Nat.zero_mul]
    rfl
  · rw [if_neg hnone, if_neg hnone]
    exact fillDivided_eq (by omega) hused (Nat.add_pos_right _ (by decide))

/-- The plan with payloads of one size. -/
theorem computeExact_reu (h : Supported detectedKib) (hreu : effective detectedKib preference ≠ 0)
    {capacity : Nat} (hcapacity : capacity = (effective detectedKib preference).toNat * 1024)
    {payload : UInt32} (hpayload : payload.toNat = 96 + detailFrames.toNat * 424) :
    (Refused capacity runCount 0 compactPoints ∨ Stops capacity runCount 0 compactPoints →
      computeExact detectedKib preference runCount compactPoints
        (payloads runCount detailFrames payload) = throw .capacity) ∧
    (¬(Refused capacity runCount 0 compactPoints ∨ Stops capacity runCount 0 compactPoints) →
      computeExact detectedKib preference runCount compactPoints
          (payloads runCount detailFrames payload)
        = pure (reuPlan detectedKib.toNat (effective detectedKib preference).toNat
          (summarySlots capacity runCount) (usedBefore capacity runCount) (fullCost detailFrames)
          (fullLimit runCount detailFrames) (compactCost compactPoints)
          (compactLimit runCount compactPoints))) := by
  have hkib := effective_le h preference
  obtain ⟨hthrow, hpure⟩ := @compute_reu detectedKib preference runCount 0 compactPoints h hreu
    capacity hcapacity
  unfold computeExact
  constructor
  · intro hstops
    rw [hthrow hstops]
    rfl
  · intro hfits
    have hslots := @slots_le runCount capacity
    have hbase : usedBefore capacity runCount ≤ capacity :=
      Nat.not_lt.mp fun h ↦ hfits (.inl (.inr (.inl h)))
    have hcompact : compactCost compactPoints < 2 ^ 32 :=
      Nat.not_le.mp fun h ↦ hfits (.inl (.inl h))
    have hpoints : 80 + compactPoints.toNat * 16 < 2 ^ 32 := (Nat.le_add_right _ 32).trans_lt hcompact
    have hcost : 0 < fullCost detailFrames := Nat.add_pos_right _ (by decide)
    have hfulls := (@filled_min _ _ _ (fullLimit runCount detailFrames) hbase hcost).used_le
    have hcompacts := (@filled_min _ _ _ (compactLimit runCount compactPoints
      (min ((capacity - usedBefore capacity runCount) / fullCost detailFrames)
        (fullLimit runCount detailFrames))) hfulls
      (show 0 < compactCost compactPoints from Nat.add_pos_right _ (by decide))).used_le
    rw [hpure hfits, pure_bind, if_neg (by rintro ⟨⟩)]
    show (checked Phase5HistoryError.capacity ((effective detectedKib preference).toNat * 1024) >>= _) = _
    rw [← hcapacity, checked_bind _ (by omega)]
    show (checked Phase5HistoryError.capacity (summarySlots capacity runCount * 160) >>= _) = _
    rw [checked_bind _ (by omega), baseBytes_bind (by omega)]
    show (fillExact capacity _ 0 (usedBefore capacity runCount) >>= _) = _
    rw [fillExact_payloads (by omega) hbase hpayload, pure_bind, historyBytes_bind, if_pos hpoints]
    show (checked Phase5HistoryError.capacity (compactCost compactPoints) >>= _) = _
    rw [checked_bind _ hcompact]
    dsimp only
    rw [fillCompact_eq (by omega) hfulls, pure_bind, plainSub_bind _ hcompacts]
    unfold reuPlan
    rw [← hcapacity]

end Phase5StoragePlan

end Results

end Ksa64.Sim
