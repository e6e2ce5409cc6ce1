import BatchInsert.Stats
import Mathlib.Algebra.GroupWithZero.Nat
import Mathlib.Tactic.Lemma

/-!
# The time that flushes take

Every flush is counted with the whole milliseconds it took, and what it took beyond them is lost.
So the time shown falls short of the time spent by the sum of these rests. Each is less than a
millisecond, but there is one for every flush, and while no flush takes a millisecond by itself the
rests are all there is.
-/

namespace BatchInsert.Proofs

/-! ### Times -/

def nanoseconds (d : Duration) : Nat := d.seconds * 1000000000 + d.nanos

def spent (times : List Duration) : Nat := (times.map nanoseconds).sum

/-- What each of the times has beyond its whole milliseconds, taken together. -/
def rests (times : List Duration) : Nat := (times.map fun d => nanoseconds d % 1000000).sum

def wholeMillis (times : List Duration) : Nat := (times.map Duration.millis).sum

lemma millis_eq (d : Duration) : d.millis = nanoseconds d / 1000000 := by
  simp only [Duration.millis, nanoseconds]
  omega

lemma spent_eq (times : List Duration) :
    spent times = wholeMillis times * 1000000 + rests times := by
  induction times with
  | nil => rfl
  | cons d times ih =>
    have hd := Nat.div_add_mod (nanoseconds d) 1000000
    simp only [spent, wholeMillis, rests] at ih
    simp only [spent, wholeMillis, rests, List.map_cons, List.sum_cons, millis_eq d]
    omega

lemma rests_le (times : List Duration) : rests times ≤ times.length * 999999 := by
  induction times with
  | nil => exact Nat.le_refl 0
  | cons d times ih =>
    have hd : nanoseconds d % 1000000 < 1000000 := Nat.mod_lt _ (by decide)
    simp only [rests] at ih
    simp only [rests, List.map_cons, List.sum_cons, List.length_cons]
    omega

lemma wholeMillis_eq_zero_iff (times : List Duration) :
    wholeMillis times = 0 ↔ ∀ d ∈ times, nanoseconds d < 1000000 := by
  induction times with
  | nil => simp [wholeMillis]
  | cons d times ih =>
    have hd : d.millis = 0 ↔ nanoseconds d < 1000000 := by
      rw [millis_eq]
      omega
    simp only [wholeMillis] at ih
    simp only [wholeMillis, List.map_cons, List.sum_cons, Nat.add_eq_zero_iff, hd, ih,
      List.forall_mem_cons]

/-! ### Counting -/

/-- What is counted. -/
inductive Counting
  | write
  | reject
  | flush (records : UInt64) (time : Duration)
  | fail (records : UInt64)

namespace Counting

def apply (s : Stats) : Counting → Stats
  | write => s.write
  | reject => s.reject
  | flush records time => s.flush records time
  | fail records => s.fail records

def flushTime? : Counting → Option Duration
  | flush _ time => some time
  | _ => none

end Counting

def counted (counts : List Counting) : Stats := counts.foldl Counting.apply .zero

def flushTimes (counts : List Counting) : List Duration := counts.filterMap Counting.flushTime?

lemma flushMillis_apply (s : Stats) (c : Counting) :
    (c.apply s).flushMillis = s.flushMillis + .ofNat (wholeMillis c.flushTime?.toList) := by
  cases c with
  | flush records time => simp [Counting.apply, Stats.flush, Counting.flushTime?, wholeMillis]
  | write | reject | fail records => exact (UInt64.add_zero _).symm

lemma flushMillis_foldl (counts : List Counting) (s : Stats) :
    (counts.foldl Counting.apply s).flushMillis =
      s.flushMillis + .ofNat (wholeMillis (flushTimes counts)) := by
  induction counts generalizing s with
  | nil => exact (UInt64.add_zero _).symm
  | cons c counts ih =>
    have htimes : wholeMillis (flushTimes (c :: counts)) =
        wholeMillis c.flushTime?.toList + wholeMillis (flushTimes counts) := by
      cases hc : c.flushTime? <;> simp [flushTimes, hc, wholeMillis]
    rw [List.foldl_cons, ih, flushMillis_apply, htimes, UInt64.ofNat_add, UInt64.add_assoc]

lemma flushMillis_counted (counts : List Counting) :
    (counted counts).flushMillis = .ofNat (wholeMillis (flushTimes counts)) :=
  (flushMillis_foldl counts .zero).trans (UInt64.zero_add _)

/-- As long as the time spent fits the counter, it is the time shown and the rests of the flushes,
each less than a millisecond. The time shown is the whole milliseconds of the time spent exactly
when the rests do not make up another one, and neither a time nor a rate is shown as long as no
flush by itself has taken a millisecond. -/
theorem flush_time_less_rests (counts : List Counting)
    (hspent : spent (flushTimes counts) < UInt64.size * 1000000) :
    let times := flushTimes counts
    let s := counted counts
    let shown := s.flushMillis.toNat
    spent times = shown * 1000000 + rests times ∧
      rests times ≤ times.length * 999999 ∧
      (shown = spent times / 1000000 ↔ rests times < 1000000) ∧
      (shown = 0 ↔ ∀ d ∈ times, nanoseconds d < 1000000) ∧
      (shown = 0 → s.perSecond = Binary.Number.zero .double) := by
  intro times s shown
  have hparts := spent_eq times
  have hshown : shown = wholeMillis times := by
    have hfits : wholeMillis times < UInt64.size := by
      change spent times < _ at hspent
      omega
    simp only [shown, s, flushMillis_counted]
    exact UInt64.toNat_ofNat_of_lt' hfits
  rw [hshown]
  refine ⟨hparts, rests_le times, ?_, wholeMillis_eq_zero_iff times, fun hzero => ?_⟩
  · omega
  · have hs : s.flushMillis = 0 := UInt64.toNat_inj.mp (hshown.trans hzero)
    rw [Stats.perSecond, if_pos hs]

/-- A flush of two milliseconds but a little and two of less than one, with other counts between:
more than three milliseconds are spent and one is shown. -/
def unevenCounts : List Counting :=
  [.write, .flush 1 ⟨0, 1900000⟩, .reject, .flush 3 ⟨0, 600000⟩, .fail 2, .flush 1 ⟨0, 600000⟩]

theorem flush_time_less_rests_uneven :
    spent (flushTimes unevenCounts) < UInt64.size * 1000000 ∧
      spent (flushTimes unevenCounts) = 3100000 ∧
      3100000 = (counted unevenCounts).flushMillis.toNat * 1000000 + 2100000 ∧
      (counted unevenCounts).flushMillis.toNat ≠ 3100000 / 1000000 := by
  have hspent : spent (flushTimes unevenCounts) < UInt64.size * 1000000 := by decide
  obtain ⟨hparts, -, hexact, -⟩ := flush_time_less_rests unevenCounts hspent
  exact ⟨hspent, by decide, hparts, fun h => absurd (hexact.mp h) (by decide)⟩

/-- Two flushes take more than a millisecond together, and no time is shown. -/
theorem short_flushes_not_shown :
    let counts : List Counting := [.flush 1 ⟨0, 600000⟩, .flush 1 ⟨0, 600000⟩]
    spent (flushTimes counts) / 1000000 = 1 ∧ (counted counts).flushMillis.toNat = 0 ∧
      (counted counts).flushed = 2 ∧
      (counted counts).perSecond = Binary.Number.zero .double := by
  decide

/-- The shortfall grows with the number of flushes, without bound. -/
theorem flush_time_shortfall (n : Nat) :
    let counts := List.replicate n (Counting.flush 1 ⟨0, 999999⟩)
    (counted counts).flushMillis = 0 ∧ spent (flushTimes counts) = n * 999999 := by
  have htimes : flushTimes (List.replicate n (.flush 1 ⟨0, 999999⟩)) =
      List.replicate n ⟨0, 999999⟩ := List.filterMap_replicate_of_some rfl
  refine ⟨?_, ?_⟩
  · rw [flushMillis_counted, htimes, (wholeMillis_eq_zero_iff _).mpr]
    · rfl
    · intro d hd
      rw [List.eq_of_mem_replicate hd]
      decide
  · rw [htimes]
    simp [spent, nanoseconds]

end BatchInsert.Proofs
