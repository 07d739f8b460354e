import FlyDpi.Lib.Calendar
import FlyDpi.Lib.Decimal
import FlyDpi.Orchestrator.GoStd

/-!
# GoTime — instants in a location

A `time.Time` is an instant together with the offset from UTC that its location has then.  The order
of times looks at the instants only; formatting looks at the reading of the local clocks only.
-/

namespace FlyDpi
namespace Orchestrator

open Lib Lib.Bytes Lib.Calendar Lib.Decimal

/-- `t.Before(u)`. -/
def Time.before (t u : Time) : Bool :=
  decide (t.sec < u.sec ∨ (t.sec = u.sec ∧ t.nsec < u.nsec))

structure ZonedTime where
  instant : Time
  /-- Seconds east of UTC. -/
  offset : Int
  nsec_lt : instant.nsec < 1000000000
  deriving DecidableEq

namespace ZonedTime

/-- `t.UTC()`. -/
def utc (t : ZonedTime) : ZonedTime :=
  { t with offset := 0 }

/-- What the clocks of the location show: the seconds, counted as if they showed UTC, and the
nanoseconds. -/
def reading (t : ZonedTime) : Int × Nat :=
  (t.instant.sec + t.offset, t.instant.nsec)

/-- The days of the reading, and the seconds of its last day. -/
def date (t : ZonedTime) : CivilDate :=
  civilFromDays (t.reading.1 / 86400)

def clock (t : ZonedTime) : Nat :=
  (t.reading.1 % 86400).toNat

/-- `t.Format("0102-150405.000000000")`. -/
def formatAfterYear (t : ZonedTime) : Bytes :=
  zeroPadded 2 t.date.month ++ (zeroPadded 2 t.date.day ++ (0x2d :: (zeroPadded 2 (t.clock / 3600) ++
    (zeroPadded 2 (t.clock % 3600 / 60) ++ (zeroPadded 2 (t.clock % 60) ++
      (0x2e :: zeroPadded 9 t.reading.2))))))

/-- `t.Format("20060102-150405.000000000")`. -/
def formatStamp (t : ZonedTime) : Bytes :=
  appendInt 4 t.date.year ++ t.formatAfterYear

end ZonedTime

/-! ## Order -/

theorem Time.before_asymm {t u : Time} (h : t.before u = true) : u.before t = false := by
  simp only [Time.before, decide_eq_true_eq, decide_eq_false_iff_not] at *
  omega

/-! “Not after” is a total order up to equal times; it is stated with Booleans, as sorting uses it. -/

theorem Time.not_before_trans {t u v : Time} (htu : (!u.before t) = true)
    (huv : (!v.before u) = true) : (!v.before t) = true := by
  simp only [Time.before, Bool.not_eq_true', decide_eq_false_iff_not] at *
  omega

theorem Time.not_before_total (t u : Time) : (!u.before t || !t.before u) = true := by
  simp only [Time.before, Bool.or_eq_true, Bool.not_eq_true', decide_eq_false_iff_not]
  omega

/-! ## What a stamp tells -/

namespace ZonedTime

/-- Two fixed-width fields, one behind the other, are read back one by one. -/
theorem field_append_inj {width m n : Nat} {xs ys : Bytes} (hm : m < 10 ^ width)
    (hn : n < 10 ^ width) (h : zeroPadded width m ++ xs = zeroPadded width n ++ ys) :
    m = n ∧ xs = ys := by
  have hlength : (zeroPadded width m).length = (zeroPadded width n).length := by
    rw [length_zeroPadded hm, length_zeroPadded hn]
  rcases List.append_inj h hlength with ⟨hfield, hrest⟩
  exact ⟨zeroPadded_inj.1 hfield, hrest⟩

theorem clock_lt (t : ZonedTime) : t.clock < 86400 := by
  unfold clock
  omega

/-- Every field of the stamp but the year fits its width. -/
structure FieldsFit (t : ZonedTime) : Prop where
  month : t.date.month < 10 ^ 2
  day : t.date.day < 10 ^ 2
  hour : t.clock / 3600 < 10 ^ 2
  minute : t.clock % 3600 / 60 < 10 ^ 2
  second : t.clock % 60 < 10 ^ 2
  nano : t.reading.2 < 10 ^ 9

theorem fieldsFit (t : ZonedTime) : t.FieldsFit := by
  have hclock := t.clock_lt
  constructor
  · exact Nat.lt_trans (month_civilFromDays_lt _) (by decide)
  · exact Nat.lt_trans (day_civilFromDays_lt _) (by decide)
  · omega
  · omega
  · omega
  · exact t.nsec_lt

theorem length_formatAfterYear (t : ZonedTime) : t.formatAfterYear.length = 21 := by
  have h := t.fieldsFit
  simp only [formatAfterYear, List.length_append, List.length_cons, length_zeroPadded h.month,
    length_zeroPadded h.day, length_zeroPadded h.hour, length_zeroPadded h.minute,
    length_zeroPadded h.second, length_zeroPadded h.nano]

theorem formatAfterYear_inj {t u : ZonedTime} (h : t.formatAfterYear = u.formatAfterYear) :
    t.date.month = u.date.month ∧ t.date.day = u.date.day ∧ t.clock = u.clock ∧
      t.reading.2 = u.reading.2 := by
  have ht := t.fieldsFit
  have hu := u.fieldsFit
  rcases field_append_inj ht.month hu.month h with ⟨hmonth, h⟩
  rcases field_append_inj ht.day hu.day h with ⟨hday, h⟩
  rcases field_append_inj ht.hour hu.hour (List.cons.inj h).2 with ⟨hhour, h⟩
  rcases field_append_inj ht.minute hu.minute h with ⟨hminute, h⟩
  rcases field_append_inj ht.second hu.second h with ⟨hsecond, h⟩
  have hnano := zeroPadded_inj.1 (List.cons.inj h).2
  have hclock : t.clock = u.clock := by
    omega
  exact ⟨hmonth, hday, hclock, hnano⟩

/-- The stamp of a time is determined by the reading of its clocks and determines it. -/
theorem formatStamp_inj {t u : ZonedTime} :
    t.formatStamp = u.formatStamp ↔ t.reading = u.reading := by
  constructor
  · intro h
    -- the year has any number of digits, what follows it has a fixed length
    have hlength : t.formatAfterYear.length = u.formatAfterYear.length := by
      rw [length_formatAfterYear, length_formatAfterYear]
    rcases List.append_inj' h hlength with ⟨hyear, hrest⟩
    rcases formatAfterYear_inj hrest with ⟨hmonth, hday, hclock, hnano⟩
    have hdate : t.date = u.date := CivilDate.ext (appendInt_inj.1 hyear) hmonth hday
    have hdays : t.reading.1 / 86400 = u.reading.1 / 86400 := civilFromDays_inj.1 hdate
    have hsec : t.reading.1 = u.reading.1 := by
      unfold clock at hclock
      omega
    exact Prod.ext hsec hnano
  · intro h
    rw [formatStamp, formatStamp, formatAfterYear, formatAfterYear, date, date, clock, clock, h]

end ZonedTime
end Orchestrator
end FlyDpi
