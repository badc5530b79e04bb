import Ksa64.Library.Attempt
import Ksa64.Library.Run
import Ksa64.Library.Words

/-!
# The exact event clock

Times are raw Q18 seconds.  The clock releases the avionics once in every period, and cuts the time
up to a physical deadline at the releases.  An executor moves to the end of each segment that it is
given.
-/

namespace Ksa64.Core

open Ksa64.Library

def avionicsPeriodRawQ18 : Int32 := 8192

inductive ExactClockError where
  | negativeTime
  | nonIncreasingDeadline
  | releasePending
  | timeMismatch
  | epochOverflow
deriving DecidableEq

structure ExactSegment where
  start : Int32
  stop : Int32
  endsAtRelease : Bool
  endsAtPhysicalDeadline : Bool
deriving DecidableEq

structure ExactEventClock where
  epoch : UInt32
  nextReleaseRaw : Int32
deriving DecidableEq

/-- The epoch as a signed word, if it is one. -/
def i32OfU32 (value : UInt32) : Option Int32 :=
  if 0x7fffffff < value then none else some value.toInt32

/-- The product fits 32 bits. -/
def checkedMulI32 (a b : Int32) : Option Int32 :=
  if a.toInt * b.toInt < -2 ^ 31 ∨ 2 ^ 31 ≤ a.toInt * b.toInt then none else some (a * b)

namespace ExactEventClock

def new : ExactEventClock where
  epoch := 0
  nextReleaseRaw := 0

def releaseDue (c : ExactEventClock) (now : Int32) : Bool := now = c.nextReleaseRaw

/-- The time of a release, if it is a word. -/
def releaseTime (epoch : UInt32) : Option Int32 :=
  (i32OfU32 epoch).bind (checkedMulI32 · avionicsPeriodRawQ18)

/-- The counter moves on before the next release is known to have a time. -/
def consumeRelease (c : ExactEventClock) (now : Int32) :
    Attempt ExactClockError ExactEventClock UInt32 :=
  if now < 0 then (.error .negativeTime, c)
  else if now ≠ c.nextReleaseRaw then (.error .timeMismatch, c)
  else
    match checkedAdd32 c.epoch 1 with
    | none => (.error .epochOverflow, c)
    | some epoch =>
        match releaseTime epoch with
        | none => (.error .epochOverflow, { c with epoch := epoch })
        | some next => (.ok c.epoch, ⟨epoch, next⟩)

def nextSegment (c : ExactEventClock) (now physicalDeadline : Int32) :
    Except ExactClockError ExactSegment :=
  if now < 0 then .error .negativeTime
  else if physicalDeadline ≤ now then .error .nonIncreasingDeadline
  else if c.releaseDue now then .error .releasePending
  else
    let endRaw := min physicalDeadline c.nextReleaseRaw
    if endRaw ≤ now then .error .timeMismatch
    else .ok {
      start := now
      stop := endRaw
      endsAtRelease := endRaw = c.nextReleaseRaw
      endsAtPhysicalDeadline := endRaw = physicalDeadline }

end ExactEventClock

/-! ## An executor -/

inductive ClockCall where
  | consumeRelease
  | nextSegment (physicalDeadline : Int32)
deriving DecidableEq

/-- The clock, the time that has been reached, the segments that led there with the deadlines they
were asked for, and the releases with their times. -/
structure ClockExecutor where
  clock : ExactEventClock
  now : Int32
  segments : List (ExactSegment × Int32)
  releases : List (UInt32 × Int32)
deriving DecidableEq

namespace ClockExecutor

def start (now : Int32) : ClockExecutor where
  clock := .new
  now := now
  segments := []
  releases := []

def step (e : ClockExecutor) : ClockCall → ClockExecutor
  | .consumeRelease =>
      match e.clock.consumeRelease e.now with
      | (.ok released, clock) => { e with
          clock := clock
          releases := e.releases ++ [(released, e.now)] }
      | (.error _, clock) => { e with clock := clock }
  | .nextSegment physicalDeadline =>
      match e.clock.nextSegment e.now physicalDeadline with
      | .ok segment => { e with
          now := segment.stop
          segments := e.segments ++ [(segment, physicalDeadline)] }
      | .error _ => e

/-- The call returns an error. -/
def Fails (e : ClockExecutor) : ClockCall → Prop
  | .consumeRelease => (e.clock.consumeRelease e.now).Failed
  | .nextSegment physicalDeadline => ∃ error, e.clock.nextSegment e.now physicalDeadline = .error error

/-- A call that fails leaves the clock as it was. -/
def KeepsClock (e : ClockExecutor) (call : ClockCall) : Prop :=
  e.Fails call → (e.step call).clock = e.clock

/-- The last release has no successor with a time. -/
def lastRelease : Nat := 262143

/-- The call does not consume the last release. -/
def BeforeLast (e : ClockExecutor) (call : ClockCall) : Prop :=
  call = .consumeRelease → e.clock.releaseDue e.now = true → e.clock.epoch.toNat < lastRelease

/-- The segments lead from one time to another, each from where the one before it ends. -/
def Tiles (now : Int32) : List (ExactSegment × Int32) → Int32 → Prop
  | [], stop => now = stop
  | (segment, _) :: rest, stop =>
      segment.start = now ∧ segment.start < segment.stop ∧ Tiles segment.stop rest stop

/-- No release lies inside the segment, and it ends by its deadline. -/
def Uncut (segment : ExactSegment × Int32) : Prop :=
  segment.1.stop ≤ segment.2
    ∧ ∀ k : Nat, ¬(segment.1.start.toInt < k * 8192 ∧ k * 8192 < segment.1.stop.toInt)

/-- The segments tile the time, every release that it goes over happens once, in its order and at
its time, and no segment crosses a release or its deadline. -/
structure Exact (first : Int32) (e : ClockExecutor) : Prop where
  tiles : Tiles first e.segments e.now
  released : e.releases.map (fun release ↦ (release.1.toNat, release.2.toInt)) =
    (List.range e.releases.length).map fun k : Nat ↦ ((k, k * 8192) : Nat × Int)
  every : ∀ k : Nat, first.toInt ≤ k * 8192 → k * 8192 < e.now.toInt → k < e.releases.length
  uncut : ∀ segment ∈ e.segments, Uncut segment

/-! ## What a call does -/

theorem releaseTime_eq_some {epoch : UInt32} {time : Int32} :
    ExactEventClock.releaseTime epoch = some time ↔
      epoch.toNat ≤ lastRelease ∧ time.toInt = epoch.toNat * 8192 := by
  unfold ExactEventClock.releaseTime i32OfU32 lastRelease
  by_cases hlarge : 0x7fffffff < epoch
  · rw [if_pos hlarge, Option.bind_none]
    rw [UInt32.lt_iff_toNat_lt, show (0x7fffffff : UInt32).toNat = 2147483647 from rfl] at hlarge
    refine iff_of_false (by rintro ⟨⟩) ?_
    omega
  · rw [if_neg hlarge, Option.bind_some]
    rw [UInt32.lt_iff_toNat_lt, show (0x7fffffff : UInt32).toNat = 2147483647 from rfl] at hlarge
    have hint : epoch.toInt32.toInt = epoch.toNat := by
      show epoch.toBitVec.toInt = _
      exact BitVec.toInt_eq_toNat_of_lt (by show 2 * epoch.toNat < 2 ^ 32; omega)
    unfold checkedMulI32
    rw [hint, show avionicsPeriodRawQ18.toInt = 8192 from rfl]
    by_cases hfits : (epoch.toNat : Int) * 8192 < -2 ^ 31 ∨ 2 ^ 31 ≤ (epoch.toNat : Int) * 8192
    · rw [if_pos hfits]
      refine iff_of_false (by rintro ⟨⟩) ?_
      omega
    · have hproduct : (epoch.toInt32 * avionicsPeriodRawQ18).toInt = epoch.toNat * 8192 := by
        rw [Int32.toInt_mul, hint, show avionicsPeriodRawQ18.toInt = 8192 from rfl]
        exact Int.bmod_eq_of_le (by omega) (by omega)
      rw [if_neg hfits, Option.some.injEq]
      constructor
      · rintro rfl
        exact ⟨by omega, hproduct⟩
      · rintro ⟨-, htime⟩
        exact Int32.toInt_inj.mp (hproduct.trans htime.symm)

/-- What consuming a release can do. -/
inductive ConsumeResult (c : ExactEventClock) (now : Int32) :
    Attempt ExactClockError ExactEventClock UInt32 → Prop where
  | refused (error : ExactClockError) (hearly : c.nextReleaseRaw ≠ now ∨ now < 0
      ∨ lastRelease < c.epoch.toNat) : ConsumeResult c now (.error error, c)
  | overflowed (hdue : c.nextReleaseRaw = now) (hlast : lastRelease ≤ c.epoch.toNat)
      (hfits : c.epoch.toNat + 1 < 2 ^ 32) :
      ConsumeResult c now (.error .epochOverflow, { c with epoch := c.epoch + 1 })
  | released (next : Int32) (hdue : c.nextReleaseRaw = now) (hstarted : 0 ≤ now.toInt)
      (hbefore : c.epoch.toNat < lastRelease) (hnext : next.toInt = (c.epoch.toNat + 1) * 8192) :
      ConsumeResult c now (.ok c.epoch, ⟨c.epoch + 1, next⟩)

theorem consumeRelease_result (c : ExactEventClock) (now : Int32) :
    ConsumeResult c now (c.consumeRelease now) := by
  unfold ExactEventClock.consumeRelease
  by_cases hnegative : now < 0
  · rw [if_pos hnegative]
    exact .refused _ (.inr (.inl hnegative))
  · rw [if_neg hnegative]
    by_cases hother : now ≠ c.nextReleaseRaw
    · rw [if_pos hother]
      exact .refused _ (.inl hother.symm)
    · rw [if_neg hother]
      have hdue := (not_not.mp hother).symm
      unfold checkedAdd32
      rw [show (1 : UInt32).toNat = 1 from rfl]
      by_cases hfull : ¬c.epoch.toNat + 1 < 2 ^ 32
      · rw [if_neg hfull]
        exact .refused _ (.inr (.inr (by unfold lastRelease; omega)))
      · rw [if_pos (not_not.mp hfull)]
        have hsucc : (c.epoch + 1).toNat = c.epoch.toNat + 1 := by
          rw [UInt32.toNat_add]
          exact Nat.mod_eq_of_lt (not_not.mp hfull)
        dsimp only
        cases htime : ExactEventClock.releaseTime (c.epoch + 1) with
        | none =>
            refine .overflowed hdue ?_ (by omega)
            by_contra hbefore
            have hfits : ∃ time, ExactEventClock.releaseTime (c.epoch + 1) = some time :=
              ⟨Int32.ofInt ((c.epoch + 1).toNat * 8192), releaseTime_eq_some.mpr
                ⟨by omega, by
                  unfold lastRelease at hbefore
                  exact Int32.toInt_ofInt_of_le (by omega) (by omega)⟩⟩
            obtain ⟨time, hsome⟩ := hfits
            cases htime.symm.trans hsome
        | some next =>
            obtain ⟨hbound, hnext⟩ := releaseTime_eq_some.mp htime
            rw [Int32.lt_iff_toInt_lt, not_lt] at hnegative
            exact .released next hdue hnegative (by omega) (by rw [hnext, hsucc]; rfl)

/-- What asking for a segment can do. -/
theorem nextSegment_eq_ok {c : ExactEventClock} {now deadline : Int32} {segment : ExactSegment}
    (h : c.nextSegment now deadline = .ok segment) :
    0 ≤ now.toInt ∧ segment.start = now ∧ now.toInt < segment.stop.toInt
      ∧ segment.stop.toInt ≤ deadline.toInt ∧ segment.stop.toInt ≤ c.nextReleaseRaw.toInt := by
  unfold ExactEventClock.nextSegment at h
  by_cases hnegative : now < 0
  · rw [if_pos hnegative] at h
    cases h
  · rw [if_neg hnegative] at h
    by_cases hdeadline : deadline ≤ now
    · rw [if_pos hdeadline] at h
      cases h
    · rw [if_neg hdeadline] at h
      by_cases hpending : c.releaseDue now = true
      · rw [if_pos hpending] at h
        cases h
      · rw [if_neg hpending] at h
        dsimp only at h
        by_cases hlate : min deadline c.nextReleaseRaw ≤ now
        · rw [if_pos hlate] at h
          cases h
        · rw [if_neg hlate] at h
          cases h
          rw [Int32.lt_iff_toInt_lt, not_lt] at hnegative
          rw [Int32.le_iff_toInt_le, not_le] at hlate
          rw [toInt_minI32] at hlate
          refine ⟨hnegative, rfl, ?_, ?_, ?_⟩
          · rwa [toInt_minI32]
          · exact (toInt_minI32 _ _).trans_le (min_le_left _ _)
          · exact (toInt_minI32 _ _).trans_le (min_le_right _ _)

/-! ## Runs -/

section Runs

variable {first : Int32} {e : ClockExecutor} {call : ClockCall}

/-- The tiling goes on with a segment that starts where it ends. -/
theorem Tiles.concat {now stop : Int32} {segments : List (ExactSegment × Int32)}
    (h : Tiles now segments stop) {segment : ExactSegment} (hstart : segment.start = stop)
    (hlonger : segment.start < segment.stop) (deadline : Int32) :
    Tiles now (segments ++ [(segment, deadline)]) segment.stop := by
  induction segments generalizing now with
  | nil =>
      obtain rfl : now = stop := h
      exact ⟨hstart, hlonger, rfl⟩
  | cons head rest ih => exact ⟨h.1, h.2.1, ih h.2.2⟩

/-- The clock counts the releases until the last one, and the time lies between the release before
and the next one. -/
structure Paced (first : Int32) (e : ClockExecutor) : Prop where
  tiles : Tiles first e.segments e.now
  released : e.releases.map (fun release ↦ (release.1.toNat, release.2.toInt)) =
    (List.range e.releases.length).map fun k : Nat ↦ ((k, k * 8192) : Nat × Int)
  uncut : ∀ segment ∈ e.segments, Uncut segment
  next : e.clock.nextReleaseRaw.toInt = e.releases.length * 8192
  epoch : e.clock.epoch.toNat = e.releases.length
    ∨ e.releases.length = lastRelease ∧ lastRelease ≤ e.clock.epoch.toNat
  now : e.releases = [] ∧ e.now = first
    ∨ first = 0 ∧ e.releases.length * 8192 ≤ e.now.toInt + 8192
      ∧ e.now.toInt ≤ e.releases.length * 8192

theorem paced_start : Paced first (start first) where
  tiles := rfl
  released := rfl
  uncut := by rintro segment ⟨⟩
  next := by simp [start, ExactEventClock.new]
  epoch := .inl rfl
  now := .inl ⟨rfl, rfl⟩

theorem Paced.exact (h : Paced first e) : Exact first e where
  tiles := h.tiles
  released := h.released
  uncut := h.uncut
  every := by
    intro k hfirst hpast
    obtain ⟨hnone, hnow⟩ | ⟨-, -, hnow⟩ := h.now
    · rw [hnow] at hpast
      omega
    · omega

/-- A release is counted at its time. -/
theorem Paced.release (h : Paced first e) {next : Int32} (hdue : e.clock.nextReleaseRaw = e.now)
    (hbefore : e.clock.epoch.toNat < lastRelease)
    (hnext : next.toInt = (e.clock.epoch.toNat + 1) * 8192) :
    Paced first { e with
      clock := ⟨e.clock.epoch + 1, next⟩
      releases := e.releases ++ [(e.clock.epoch, e.now)] } := by
  have hepoch : e.clock.epoch.toNat = e.releases.length :=
    h.epoch.resolve_right fun hlast ↦ absurd hlast.2 (Nat.not_le.mpr hbefore)
  have hsucc : (e.clock.epoch + 1).toNat = e.clock.epoch.toNat + 1 := by
    rw [UInt32.toNat_add]
    unfold lastRelease at hbefore
    exact Nat.mod_eq_of_lt (by show e.clock.epoch.toNat + 1 < 2 ^ 32; omega)
  have htime : e.now.toInt = e.releases.length * 8192 := hdue ▸ h.next
  refine ⟨h.tiles, ?_, h.uncut, ?_, .inl ?_, .inr ⟨?_, ?_, ?_⟩⟩
  · rw [List.map_append, h.released, List.length_append, List.length_singleton, List.range_succ,
      List.map_append, List.map_singleton, List.map_singleton, hepoch, htime]
  · simpa [hepoch] using hnext
  · simpa [hepoch] using hsucc
  · obtain ⟨hnone, hnow⟩ | ⟨hzero, -⟩ := h.now
    · rw [hnone] at htime
      exact Int32.toInt_inj.mp (hnow ▸ htime)
    · exact hzero
  · simp only [htime, List.length_append, List.length_singleton]
    omega
  · simp only [htime, List.length_append, List.length_singleton]
    omega

/-- There are no more releases than have a time. -/
theorem Paced.length_le (h : Paced first e) : e.releases.length ≤ lastRelease := by
  have hnext := h.next
  have hlt := e.clock.nextReleaseRaw.toInt_lt
  unfold lastRelease
  omega

/-- The counter moves on past the last release. -/
theorem Paced.overflow (h : Paced first e) (hlast : lastRelease ≤ e.clock.epoch.toNat)
    (hfits : e.clock.epoch.toNat + 1 < 2 ^ 32) :
    Paced first { e with clock := { e.clock with epoch := e.clock.epoch + 1 } } := by
  have hsucc : (e.clock.epoch + 1).toNat = e.clock.epoch.toNat + 1 := by
    rw [UInt32.toNat_add]
    exact Nat.mod_eq_of_lt hfits
  refine ⟨h.tiles, h.released, h.uncut, h.next, .inr ⟨?_, ?_⟩, h.now⟩
  · obtain hcount | ⟨hfull, -⟩ := h.epoch
    · exact le_antisymm h.length_le (hcount ▸ hlast)
    · exact hfull
  · show lastRelease ≤ (e.clock.epoch + 1).toNat
    rw [hsucc]
    exact hlast.trans (Nat.le_succ _)

/-- A segment leads to the next release at most. -/
theorem Paced.advance (h : Paced first e) {segment : ExactSegment} {deadline : Int32}
    (hsegment : e.clock.nextSegment e.now deadline = .ok segment) :
    Paced first { e with
      now := segment.stop
      segments := e.segments ++ [(segment, deadline)] } := by
  obtain ⟨hstarted, hstart, hlonger, hdeadline, hrelease⟩ := nextSegment_eq_ok hsegment
  have hnext := h.next
  have hmoves : first = 0 ∧ e.releases.length * 8192 ≤ e.now.toInt + 8192
      ∧ e.now.toInt ≤ e.releases.length * 8192 := by
    refine h.now.resolve_left ?_
    rintro ⟨hnone, -⟩
    rw [hnone] at hnext
    have hzero : e.clock.nextReleaseRaw.toInt = 0 := hnext
    omega
  refine ⟨h.tiles.concat hstart ?_ deadline, h.released, ?_, hnext, h.epoch, .inr ⟨hmoves.1, ?_, ?_⟩⟩
  · rw [hstart, Int32.lt_iff_toInt_lt]
    exact hlonger
  · intro piece hpiece
    obtain hbefore | hlast := List.mem_append.mp hpiece
    · exact h.uncut piece hbefore
    · obtain rfl := List.mem_singleton.mp hlast
      refine ⟨Int32.le_iff_toInt_le.mpr hdeadline, ?_⟩
      rintro k ⟨hafter, hwithin⟩
      rw [hstart] at hafter
      dsimp only at hwithin
      omega
  · exact hmoves.2.1.trans (Int.add_le_add_right hlonger.le _)
  · exact hnext ▸ hrelease

theorem Paced.step (h : Paced first e) (call : ClockCall) : Paced first (e.step call) := by
  cases call with
  | nextSegment deadline =>
      cases hsegment : e.clock.nextSegment e.now deadline with
      | ok segment =>
          rw [ClockExecutor.step, hsegment]
          exact h.advance hsegment
      | error error =>
          rw [ClockExecutor.step, hsegment]
          exact h
  | consumeRelease =>
      rw [ClockExecutor.step]
      have hresult := consumeRelease_result e.clock e.now
      generalize e.clock.consumeRelease e.now = result at hresult
      cases hresult with
      | refused error hearly => exact h
      | overflowed hdue hlast hfits => exact h.overflow hlast hfits
      | released next hdue hstarted hbefore hnext => exact h.release hdue hbefore hnext

/-- Only consuming the last release moves the counter in vain. -/
theorem Paced.keepsClock_iff (h : Paced first e) (hcount : e.clock.epoch.toNat ≤ lastRelease)
    (call : ClockCall) : e.KeepsClock call ↔ e.BeforeLast call := by
  cases call with
  | nextSegment deadline =>
      refine iff_of_true (fun hfails ↦ ?_) (by rintro ⟨⟩)
      obtain ⟨error, herror⟩ := hfails
      rw [ClockExecutor.step, herror]
  | consumeRelease =>
      unfold KeepsClock BeforeLast Fails ExactEventClock.releaseDue
      rw [ClockExecutor.step]
      have hresult := consumeRelease_result e.clock e.now
      generalize e.clock.consumeRelease e.now = result at hresult
      cases hresult with
      | refused error hearly =>
          refine iff_of_true (fun _ ↦ rfl) fun _ hdue ↦ ?_
          obtain hother | hnegative | hpast := hearly
          · exact absurd (of_decide_eq_true hdue).symm hother
          · have hnext := h.next
            rw [Int32.lt_iff_toInt_lt, of_decide_eq_true hdue, hnext] at hnegative
            rw [show (0 : Int32).toInt = 0 from rfl] at hnegative
            omega
          · exact absurd hcount (Nat.not_le.mpr hpast)
      | overflowed hdue hlast hfits =>
          refine iff_of_false (fun hkeeps ↦ ?_) fun hbefore ↦ ?_
          · have hclock : { e.clock with epoch := e.clock.epoch + 1 } = e.clock :=
              hkeeps ⟨_, rfl⟩
            have hsame := congrArg (fun c ↦ c.epoch.toNat) hclock
            rw [show _ = (e.clock.epoch + 1).toNat from rfl, UInt32.toNat_add,
              show (1 : UInt32).toNat = 1 from rfl, Nat.mod_eq_of_lt hfits] at hsame
            exact Nat.succ_ne_self _ hsame
          · exact absurd (hbefore rfl (decide_eq_true hdue.symm)) (Nat.not_lt.mpr hlast)
      | released next hdue hstarted hbefore hnext =>
          refine iff_of_true ?_ fun _ _ ↦ hbefore
          rintro ⟨error, ⟨⟩⟩

/-- The counter stays with the releases as long as the last one is not consumed. -/
theorem count_step (hcount : e.clock.epoch.toNat ≤ lastRelease)
    (hbefore : e.BeforeLast call) : (e.step call).clock.epoch.toNat ≤ lastRelease := by
  cases call with
  | nextSegment deadline =>
      rw [ClockExecutor.step]
      split <;> exact hcount
  | consumeRelease =>
      rw [ClockExecutor.step]
      unfold BeforeLast ExactEventClock.releaseDue at hbefore
      have hresult := consumeRelease_result e.clock e.now
      generalize e.clock.consumeRelease e.now = result at hresult
      cases hresult with
      | refused error hearly => exact hcount
      | overflowed hdue hlast hfits =>
          exact absurd (hbefore rfl (decide_eq_true hdue.symm)) (Nat.not_lt.mpr hlast)
      | released next hdue hstarted hbefore hnext =>
          show (e.clock.epoch + 1).toNat ≤ lastRelease
          rw [UInt32.toNat_add]
          exact (Nat.mod_le _ _).trans hbefore

/-- From any time on, and whatever is called: the segments tile the time, every release happens once
at its time, and no segment crosses a release or its deadline.  The calls that fail leave the clock
as it was iff the last release is not consumed. -/
theorem exact_iff (first : Int32) (calls : List ClockCall) :
    (Exact first (run step (start first) calls) ∧ Meets step KeepsClock (start first) calls)
      ↔ Meets step BeforeLast (start first) calls := by
  have hexact : Exact first (run step (start first) calls) :=
    (run_invariant step (Paced first) (fun _ call h ↦ h.step call) paced_start calls).exact
  refine (and_iff_right hexact).trans ?_
  refine meets_iff_of_invariant (fun e ↦ Paced first e ∧ e.clock.epoch.toNat ≤ lastRelease)
    (fun e call h hbefore ↦ ⟨h.1.step call, count_step h.2 hbefore⟩)
    (fun e call h ↦ h.1.keepsClock_iff h.2 call) ⟨paced_start, Nat.zero_le _⟩ calls

end Runs

/-! ### The last release -/

/-- Up to the latest deadline, a segment ends at the next release. -/
theorem nextSegment_latest {c : ExactEventClock} {now : Int32} (hstarted : 0 ≤ now.toInt)
    (hbefore : now.toInt < c.nextReleaseRaw.toInt) :
    ∃ segment, c.nextSegment now 0x7fffffff = .ok segment ∧ segment.stop = c.nextReleaseRaw := by
  have hlt := c.nextReleaseRaw.toInt_lt
  have hmax : (0x7fffffff : Int32).toInt = 2147483647 := rfl
  have hmin : min (0x7fffffff : Int32) c.nextReleaseRaw = c.nextReleaseRaw := by
    rw [← Int32.toInt_inj, toInt_minI32, hmax]
    exact min_eq_right (by omega)
  unfold ExactEventClock.nextSegment
  have hpending : ¬c.releaseDue now = true := by
    intro hdue
    rw [of_decide_eq_true hdue] at hbefore
    exact lt_irrefl _ hbefore
  rw [if_neg (by rw [Int32.lt_iff_toInt_lt, not_lt]; exact hstarted),
    if_neg (by rw [Int32.le_iff_toInt_le, hmax]; omega), if_neg hpending, hmin,
    if_neg (by rw [Int32.le_iff_toInt_le, not_le]; exact hbefore)]
  exact ⟨_, rfl, rfl⟩

/-- A release, and the segment to the next one. -/
def releaseRound : List ClockCall := [.consumeRelease, .nextSegment 0x7fffffff]

/-- The executor is at a release. -/
def AtRelease (n : Nat) (e : ClockExecutor) : Prop :=
  e.clock.epoch.toNat = n ∧ e.clock.nextReleaseRaw.toInt = n * 8192 ∧ e.now = e.clock.nextReleaseRaw

theorem AtRelease.round {n : Nat} {e : ClockExecutor} (h : AtRelease n e) (hn : n < lastRelease) :
    AtRelease (n + 1) (run step e releaseRound) := by
  obtain ⟨hepoch, hnext, hnow⟩ := h
  rw [releaseRound, run_cons, run_cons, run_nil]
  have hconsumed : ∃ next : Int32, e.step .consumeRelease = { e with
      clock := ⟨e.clock.epoch + 1, next⟩
      releases := e.releases ++ [(e.clock.epoch, e.now)] }
        ∧ next.toInt = (e.clock.epoch.toNat + 1) * 8192 := by
    rw [step]
    have hresult := consumeRelease_result e.clock e.now
    generalize e.clock.consumeRelease e.now = result at hresult
    cases hresult with
    | refused error hearly =>
        obtain hother | hnegative | hpast := hearly
        · exact absurd hnow.symm hother
        · rw [Int32.lt_iff_toInt_lt, hnow, hnext, show (0 : Int32).toInt = 0 from rfl] at hnegative
          omega
        · omega
    | overflowed hdue hlast hfits => omega
    | released next hdue hstarted hbefore hafter => exact ⟨next, rfl, hafter⟩
  obtain ⟨next, hstep, hafter⟩ := hconsumed
  obtain ⟨segment, hsegment, hstop⟩ := @nextSegment_latest ⟨e.clock.epoch + 1, next⟩ e.now
    (by rw [hnow, hnext]; omega) (by rw [hnow, hnext, hafter, hepoch]; omega)
  rw [hstep, step]
  dsimp only
  rw [hsegment]
  refine ⟨?_, ?_, hstop⟩
  · show (e.clock.epoch + 1).toNat = n + 1
    rw [UInt32.toNat_add, hepoch]
    unfold lastRelease at hn
    exact Nat.mod_eq_of_lt (by show n + 1 < 2 ^ 32; omega)
  · show next.toInt = _
    rw [hafter, hepoch]
    omega

theorem atRelease_rounds {n : Nat} (hn : n ≤ lastRelease) :
    AtRelease n (run step (start 0) (List.replicate n releaseRound).flatten) := by
  induction n with
  | zero => exact ⟨rfl, rfl, rfl⟩
  | succ n ih =>
      rw [List.replicate_succ', List.flatten_append, List.flatten_singleton, run_append]
      exact (ih (Nat.le_of_succ_le hn)).round hn

/-- Consuming the last release fails and moves the counter. -/
theorem last_release_moves :
    ∃ first calls, ¬(Exact first (run step (start first) calls)
      ∧ Meets step KeepsClock (start first) calls) := by
  refine ⟨0, (List.replicate lastRelease releaseRound).flatten ++ [.consumeRelease], fun h ↦ ?_⟩
  have hkeeps := (meets_append.mp h.2).2.1
  obtain ⟨hepoch, -, hnow⟩ := atRelease_rounds le_rfl
  have hpaced : Paced 0 (run step (start 0) (List.replicate lastRelease releaseRound).flatten) :=
    run_invariant step (Paced 0) (fun _ call h ↦ h.step call) paced_start _
  have hbefore := (hpaced.keepsClock_iff hepoch.le _).mp hkeeps rfl (decide_eq_true hnow)
  exact absurd hbefore (Nat.not_lt.mpr hepoch.ge)

end ClockExecutor

end Ksa64.Core
