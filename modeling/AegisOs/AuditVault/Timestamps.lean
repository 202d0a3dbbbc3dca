/-
# `AegisOs.AuditVault.Timestamps` — timestamps as they are written

`Logger` counts a `datetime` in microseconds.  Here it has its fields, as
Python's `datetime` keeps them, and `_format_utc_timestamp` is computed from
them: the zone's offset is taken off (`normalize`), the fields are written with
fixed widths (`isoformat`), and the zone `+00:00` is written `Z`.

Three orders are the same:

    the fields, one by one            what the logger compares
    the microseconds                  `timedelta_lt_iff`
    the written texts                 `stamp_le_iff`

and taking off the offset does to the fields what `normalize_timestamp` does to
the microseconds (`normalize_eq`): it raises exactly when the year is not
between 1 and 9999.  Every time that a run of the logger stamps has been read
from a clock or given (`Conf.run_times`), so that a log whose clocks show such
years is sorted by its texts as by its times (`sort_by_text`).
-/
import AegisOs.Lib.FixedWidth
import AegisOs.Lib.Calendar
import AegisOs.AuditVault.Stream
import Mathlib.Data.String.Basic

namespace AegisOs

open Lib

/-! ## The fields of a `datetime` -/

/-- The microseconds of a day. -/
def day_micros : ℤ := 86400000000

/-- `date.max.toordinal()`. -/
def MAXORDINAL : ℕ := 3652059

/-- The offset of a zone from UTC, in microseconds. -/
structure UtcOffset where
  micros : ℤ
  bound : -day_micros < micros ∧ micros < day_micros

theorem utc_bound : -day_micros < 0 ∧ 0 < day_micros := by decide

/-- `datetime.UTC`. -/
def UTC : UtcOffset := ⟨0, utc_bound⟩

/-- The fields of a `datetime`, with the offset of its zone if it has one. -/
structure DatetimeFields where
  date : Date
  time : TimeOfDay
  tzinfo : Option UtcOffset
  year_le : date.year ≤ 9999

/-- A day that `datetime` can show. -/
theorem year_le_of_days {days : ℤ} (h : 0 < days ∧ days ≤ MAXORDINAL) :
    (Date.ofOrdinal days.toNat).year ≤ 9999 := by
  rw [Date.year_le_iff (by decide), Date.ordinal_ofOrdinal (by omega)]
  have hmax : days_before_year (9999 + 1) = MAXORDINAL := by decide
  omega

namespace DatetimeFields

/-- `timedelta(self.toordinal(), hours=…, minutes=…, seconds=…, microseconds=…)`. -/
def timedelta (t : DatetimeFields) : ℤ := t.date.ordinal * day_micros + t.time.micros

/-- The `datetime` of its days and microseconds. -/
def of_timedelta (delta : ℤ) (tzinfo : Option UtcOffset) : Except Exc DatetimeFields :=
  if h : 0 < delta / day_micros ∧ delta / day_micros ≤ MAXORDINAL then
    .ok {
      date := .ofOrdinal (delta / day_micros).toNat
      time := .ofMicros (delta % day_micros).toNat
      tzinfo := tzinfo
      year_le := year_le_of_days h }
  else .error ⟨.other "OverflowError", "date value out of range"⟩

/-- `self + timedelta(microseconds=delta)`. -/
def add (t : DatetimeFields) (delta : ℤ) : Except Exc DatetimeFields :=
  of_timedelta (t.timedelta + delta) t.tzinfo

/-- `self.replace(tzinfo=tzinfo)`. -/
def replace_tzinfo (t : DatetimeFields) (tzinfo : UtcOffset) : DatetimeFields :=
  { t with tzinfo := some tzinfo }

/-- `self.astimezone(UTC)`, for a zone with this offset. -/
def astimezone_utc (t : DatetimeFields) (offset : UtcOffset) : Except Exc DatetimeFields := do
  let utc ← t.add (-offset.micros)
  -- `UTC.fromutc`
  (utc.replace_tzinfo UTC).add UTC.micros

/-- `_normalize_timestamp`: a naive value is taken as UTC. -/
def normalize (value : DatetimeFields) : Except Exc DatetimeFields :=
  match value.tzinfo with
  | some offset => value.astimezone_utc offset
  | none => .ok (value.replace_tzinfo UTC)

/-- Year, month, day, hour, minute, second and microsecond, in this order of importance. -/
def key (t : DatetimeFields) : (ℕ ×ₗ ℕ ×ₗ ℕ) ×ₗ (ℕ ×ₗ ℕ ×ₗ ℕ ×ₗ ℕ) := toLex (t.date.key, t.time.key)

/-- `self < other`, of two values in one zone: their fields are compared. -/
def lt (t other : DatetimeFields) : Bool := decide (t.key < other.key)

end DatetimeFields

/-! ## Text -/

/-- `"%0wd" % n`. -/
def zero_padded (w n : ℕ) : List Char := List.leftpad w '0' (Nat.toDigits 10 n)

/-- `text.replace(old, new)`, with `skip` symbols of the last occurrence still to come. -/
def str_replace (old new : List Char) : (skip : ℕ) → List Char → List Char
  | _, [] => []
  | skip + 1, _ :: text => str_replace old new skip text
  | 0, c :: text =>
      if old.isPrefixOf (c :: text) then new ++ str_replace old new (old.length - 1) text
      else c :: str_replace old new 0 text

/-- `_format_offset`. -/
def format_offset (offset : UtcOffset) : List Char :=
  let off := offset.micros.natAbs
  let hh := off / 3600000000
  let mm := off % 3600000000 / 60000000
  let ss := off % 60000000 / 1000000
  let us := off % 1000000
  (if offset.micros < 0 then '-' else '+') :: zero_padded 2 hh ++ ':' :: zero_padded 2 mm ++
    (if ss ≠ 0 ∨ us ≠ 0 then ':' :: zero_padded 2 ss else []) ++
    (if us ≠ 0 then '.' :: zero_padded 6 us else [])

namespace DatetimeFields

/-- `self.isoformat(timespec="microseconds")`. -/
def isoformat (t : DatetimeFields) : List Char :=
  zero_padded 4 t.date.year ++ '-' :: (zero_padded 2 t.date.month ++ '-' ::
    zero_padded 2 t.date.day) ++
  'T' :: (zero_padded 2 t.time.hour ++ ':' :: (zero_padded 2 t.time.minute ++ ':' ::
    (zero_padded 2 t.time.second ++ '.' :: zero_padded 6 t.time.microsecond))) ++
  (t.tzinfo.map format_offset).getD []

end DatetimeFields

/-- `_format_utc_timestamp`. -/
def format_utc_timestamp (value : DatetimeFields) : Except Exc String := do
  let normalized ← value.normalize
  return String.ofList (str_replace "+00:00".toList "Z".toList 0 normalized.isoformat)

/-! ## The order of the fields is that of the microseconds -/

namespace DatetimeFields

/-- The `datetime` as the logger counts it. -/
def datetime (t : DatetimeFields) : Datetime := ⟨t.timedelta, t.tzinfo.map (·.micros)⟩

theorem timedelta_strictMono {t t' : DatetimeFields} (h : t.key < t'.key) :
    t.timedelta < t'.timedelta := by
  have ht := t.time.micros_lt
  unfold timedelta day_micros
  obtain hdate | ⟨hdate, htime⟩ := Prod.Lex.toLex_lt_toLex.mp h
  · have := Date.ordinal_strictMono hdate
    omega
  · have := TimeOfDay.micros_strictMono htime
    rw [Date.ext_key hdate]
    omega

theorem timedelta_lt_iff {t t' : DatetimeFields} : t.timedelta < t'.timedelta ↔ t.key < t'.key := by
  refine ⟨fun h => ?_, timedelta_strictMono⟩
  rcases lt_trichotomy t.key t'.key with hlt | heq | hgt
  · exact hlt
  · obtain ⟨hdate, htime⟩ : t.date.key = t'.date.key ∧ t.time.key = t'.time.key := by
      simpa [key] using heq
    rw [timedelta, timedelta, Date.ext_key hdate, TimeOfDay.ext_key htime] at h
    exact absurd h (lt_irrefl _)
  · exact absurd h (timedelta_strictMono hgt).asymm

theorem timedelta_le_iff {t t' : DatetimeFields} : t.timedelta ≤ t'.timedelta ↔ t.key ≤ t'.key := by
  rw [← not_lt, timedelta_lt_iff, not_lt]

/-! ## Microseconds that a `datetime` shows -/

/-- The microseconds of the years from 1 to 9999. -/
def InYears (delta : ℤ) : Prop := day_micros ≤ delta ∧ delta < (MAXORDINAL + 1) * day_micros

instance (delta : ℤ) : Decidable (InYears delta) :=
  inferInstanceAs (Decidable (day_micros ≤ delta ∧ delta < (MAXORDINAL + 1) * day_micros))

theorem days_bounds_iff {delta : ℤ} :
    (0 < delta / day_micros ∧ delta / day_micros ≤ MAXORDINAL) ↔ InYears delta := by
  unfold InYears day_micros MAXORDINAL
  omega

theorem inYears_timedelta (t : DatetimeFields) : InYears t.timedelta := by
  have hpos := t.date.ordinal_pos
  have hmax : days_before_year (9999 + 1) = MAXORDINAL := by decide
  have hle := (Date.year_le_iff (by decide)).mp t.year_le
  have htime := t.time.micros_lt
  unfold InYears timedelta day_micros
  omega

theorem of_timedelta_ok {delta : ℤ} (h : InYears delta) (tzinfo : Option UtcOffset) :
    ∃ t, of_timedelta delta tzinfo = .ok t ∧ t.timedelta = delta ∧ t.tzinfo = tzinfo := by
  have hdays := days_bounds_iff.mpr h
  refine ⟨_, dif_pos hdays, ?_, rfl⟩
  have hrest : 0 ≤ delta % day_micros ∧ delta % day_micros < day_micros := by
    unfold day_micros
    omega
  have hsplit := Int.mul_ediv_add_emod delta day_micros
  unfold timedelta
  dsimp only
  rw [Date.ordinal_ofOrdinal (by omega), TimeOfDay.micros_ofMicros (by unfold day_micros at *; omega)]
  rw [Int.toNat_of_nonneg (by omega), Int.toNat_of_nonneg hrest.1]
  linarith

theorem of_timedelta_error {delta : ℤ} (h : ¬InYears delta) (tzinfo : Option UtcOffset) :
    of_timedelta delta tzinfo = .error ⟨.other "OverflowError", "date value out of range"⟩ :=
  dif_neg (mt days_bounds_iff.mp h)

/-- The microseconds of a value show the value. -/
theorem of_timedelta_timedelta (t : DatetimeFields) : of_timedelta t.timedelta t.tzinfo = .ok t := by
  have htime := t.time.micros_lt
  have hdays : t.timedelta / day_micros = t.date.ordinal := by
    unfold timedelta day_micros
    omega
  have hrest : t.timedelta % day_micros = t.time.micros := by
    unfold timedelta day_micros
    omega
  rw [of_timedelta, dif_pos (days_bounds_iff.mpr t.inYears_timedelta)]
  simp only [hdays, hrest, Int.toNat_natCast, Date.ofOrdinal_ordinal, TimeOfDay.ofMicros_micros]

@[simp] theorem replace_tzinfo_timedelta (t : DatetimeFields) (tzinfo : UtcOffset) :
    (t.replace_tzinfo tzinfo).timedelta = t.timedelta := rfl

@[simp] theorem replace_tzinfo_tzinfo (t : DatetimeFields) (tzinfo : UtcOffset) :
    (t.replace_tzinfo tzinfo).tzinfo = some tzinfo := rfl

theorem normalize_timestamp_naive {t : DatetimeFields} (h : t.tzinfo = none) :
    normalize_timestamp t.datetime = t.timedelta := by
  rw [normalize_timestamp, datetime, h, Option.map_none, Option.getD_none, sub_zero]

theorem normalize_timestamp_aware {t : DatetimeFields} {offset : UtcOffset}
    (h : t.tzinfo = some offset) :
    normalize_timestamp t.datetime = t.timedelta + -offset.micros := by
  rw [normalize_timestamp, datetime, h, Option.map_some, Option.getD_some, sub_eq_add_neg]

/-- **Normalising the fields is normalising the microseconds**: the same value, or an overflow. -/
theorem normalize_eq (t : DatetimeFields) :
    t.normalize = of_timedelta (normalize_timestamp t.datetime) (some UTC) := by
  unfold normalize
  cases htz : t.tzinfo with
  | none =>
      rw [normalize_timestamp_naive htz, ← replace_tzinfo_timedelta t UTC]
      exact (of_timedelta_timedelta (t.replace_tzinfo UTC)).symm
  | some offset =>
      dsimp only [astimezone_utc, add]
      rw [normalize_timestamp_aware htz]
      by_cases hin : InYears (t.timedelta + -offset.micros)
      · obtain ⟨u, hu, htime, -⟩ := of_timedelta_ok hin t.tzinfo
        have hzero : (u.replace_tzinfo UTC).timedelta + UTC.micros = t.timedelta + -offset.micros := by
          rw [replace_tzinfo_timedelta, htime, UTC, add_zero]
        rw [hu]
        refine (pure_bind u _).trans ?_
        rw [hzero, replace_tzinfo_tzinfo]
      · rw [of_timedelta_error hin, of_timedelta_error hin]
        rfl

end DatetimeFields

/-! ## The order of the texts is that of the fields -/

theorem leftpad_concat (w : ℕ) (a c : Char) (l : List Char) :
    List.leftpad (w + 1) a (l ++ [c]) = List.leftpad w a l ++ [c] := by
  simp [List.leftpad]

/-- A number that fits is written with its last `w` digits. -/
theorem zero_padded_eq {w n : ℕ} (hw : 0 < w) (hn : n < 10 ^ w) :
    zero_padded w n = numeral 10 Nat.digitChar w n := by
  induction w, hw using Nat.le_induction generalizing n with
  | base =>
      have hn : n < 10 := by simpa using hn
      rw [zero_padded, Nat.toDigits_of_lt_base hn, numeral, numeral, Nat.mod_eq_of_lt hn]
      rfl
  | succ w hw ih =>
      rw [numeral, ← ih (by rw [pow_succ] at hn; omega), zero_padded, zero_padded,
        ← leftpad_concat]
      by_cases hlt : n < 10
      · -- one digit: the zero before it is padding
        rw [Nat.div_eq_of_lt hlt, Nat.mod_eq_of_lt hlt, Nat.toDigits_of_lt_base hlt, leftpad_concat]
        obtain ⟨k, rfl⟩ := Nat.exists_eq_add_of_le' hw
        simp [List.leftpad, List.replicate_succ']
      · rw [Nat.toDigits_of_base_le (by decide) (not_lt.mp hlt)]

theorem str_replace_skip (old new : List Char) {skip : ℕ} {text : List Char}
    (h : text.length ≤ skip) : str_replace old new skip text = [] := by
  induction text generalizing skip with
  | nil => cases skip <;> rfl
  | cons c text ih =>
      cases skip with
      | zero => simp at h
      | succ skip => exact ih (by simpa using h)

/-- The only occurrence, at the end. -/
theorem str_replace_end {o : Char} {os new text : List Char} (h : o ∉ text) :
    str_replace (o :: os) new 0 (text ++ o :: os) = text ++ new := by
  induction text with
  | nil =>
      rw [List.nil_append, str_replace, if_pos (by simp),
        str_replace_skip _ _ (by simp), List.append_nil, List.nil_append]
  | cons c text ih =>
      obtain ⟨hc, hrest⟩ := List.ne_and_not_mem_of_not_mem_cons h
      rw [List.cons_append, str_replace, if_neg (by simp [List.isPrefixOf, hc]), ih hrest,
        List.cons_append]

/-- The last `w` decimal digits. -/
def digits (w n : ℕ) : List Char := numeral 10 Nat.digitChar w n

theorem fixedWidth_digits (w : ℕ) : FixedWidth (Set.Iio (10 ^ w)) (digits w) w := by
  have hsym : ∀ a < 10, ∀ b < 10, a < b → Nat.digitChar a < Nat.digitChar b := by decide
  exact .numeral (by decide) (fun a ha b hb hab => hsym a ha b hb hab) w

theorem plus_not_mem_digits (w n : ℕ) : '+' ∉ digits w n := by
  have hsym : ∀ d < 10, Nat.digitChar d ≠ '+' := by decide
  intro h
  obtain ⟨d, hd, heq⟩ := mem_numeral (by decide) h
  exact hsym d hd heq

/-- A date as it is written. -/
def date_text (p : ℕ ×ₗ ℕ ×ₗ ℕ) : List Char :=
  digits 4 (ofLex p).1 ++ '-' :: (digits 2 (ofLex (ofLex p).2).1 ++ '-' ::
    digits 2 (ofLex (ofLex p).2).2)

/-- A time of the day as it is written. -/
def time_text (p : ℕ ×ₗ ℕ ×ₗ ℕ ×ₗ ℕ) : List Char :=
  digits 2 (ofLex p).1 ++ ':' :: (digits 2 (ofLex (ofLex p).2).1 ++ ':' ::
    (digits 2 (ofLex (ofLex (ofLex p).2).2).1 ++ '.' :: digits 6 (ofLex (ofLex (ofLex p).2).2).2))

/-- A timestamp as it is written. -/
def stamp_text (p : (ℕ ×ₗ ℕ ×ₗ ℕ) ×ₗ (ℕ ×ₗ ℕ ×ₗ ℕ ×ₗ ℕ)) : List Char :=
  date_text (ofLex p).1 ++ 'T' :: time_text (ofLex p).2 ++ ['Z']

theorem plus_not_mem_stamp (p : ℕ ×ₗ ℕ ×ₗ ℕ) (q : ℕ ×ₗ ℕ ×ₗ ℕ ×ₗ ℕ) :
    '+' ∉ date_text p ++ 'T' :: time_text q := by
  simp [date_text, time_text, plus_not_mem_digits]

/-- The dates that fit. -/
def DateFits (p : ℕ ×ₗ ℕ ×ₗ ℕ) : Prop :=
  (ofLex p).1 < 10 ^ 4 ∧ (ofLex (ofLex p).2).1 < 10 ^ 2 ∧ (ofLex (ofLex p).2).2 < 10 ^ 2

/-- The times of the day that fit. -/
def TimeFits (p : ℕ ×ₗ ℕ ×ₗ ℕ ×ₗ ℕ) : Prop :=
  (ofLex p).1 < 10 ^ 2 ∧ (ofLex (ofLex p).2).1 < 10 ^ 2 ∧
    (ofLex (ofLex (ofLex p).2).2).1 < 10 ^ 2 ∧ (ofLex (ofLex (ofLex p).2).2).2 < 10 ^ 6

theorem fixedWidth_date_text : FixedWidth {p | DateFits p} date_text 10 :=
  (fixedWidth_digits 4).pair
    (((fixedWidth_digits 2).pair ((fixedWidth_digits 2).cons '-')).cons '-')

theorem fixedWidth_time_text : FixedWidth {p | TimeFits p} time_text 15 :=
  (fixedWidth_digits 2).pair (((fixedWidth_digits 2).pair
    (((fixedWidth_digits 2).pair ((fixedWidth_digits 6).cons '.')).cons ':')).cons ':')

theorem fixedWidth_stamp_text :
    FixedWidth {p | DateFits (ofLex p).1 ∧ TimeFits (ofLex p).2} stamp_text 27 :=
  (fixedWidth_date_text.pair (fixedWidth_time_text.cons 'T')).append ['Z']

namespace DatetimeFields

theorem date_fits (t : DatetimeFields) : DateFits t.date.key := by
  obtain ⟨-, -, hm, -, hd⟩ := t.date.valid
  have hday := days_in_month_le (is_leap t.date.year) t.date.month hm
  have hyear := t.year_le
  exact ⟨show t.date.year < 10000 by omega, show t.date.month < 100 by omega,
    show t.date.day < 100 by omega⟩

theorem time_fits (t : DatetimeFields) : TimeFits t.time.key := by
  obtain ⟨hh, hm, hs, hu⟩ := t.time.valid
  exact ⟨show t.time.hour < 100 by omega, show t.time.minute < 100 by omega,
    show t.time.second < 100 by omega, hu⟩

theorem isoformat_utc {t : DatetimeFields} (h : t.tzinfo = some UTC) :
    t.isoformat = date_text t.date.key ++ 'T' :: time_text t.time.key ++ "+00:00".toList := by
  have hdate : t.date.year < 10 ^ 4 ∧ t.date.month < 10 ^ 2 ∧ t.date.day < 10 ^ 2 := t.date_fits
  have htime : t.time.hour < 10 ^ 2 ∧ t.time.minute < 10 ^ 2 ∧ t.time.second < 10 ^ 2 ∧
      t.time.microsecond < 10 ^ 6 := t.time_fits
  obtain ⟨hy, hmo, hd⟩ := hdate
  obtain ⟨hh, hmi, hs, hu⟩ := htime
  have hoffset : format_offset UTC = "+00:00".toList := by decide
  rw [isoformat, h, Option.map_some, Option.getD_some, hoffset, zero_padded_eq (by decide) hy,
    zero_padded_eq (by decide) hmo, zero_padded_eq (by decide) hd, zero_padded_eq (by decide) hh,
    zero_padded_eq (by decide) hmi, zero_padded_eq (by decide) hs, zero_padded_eq (by decide) hu]
  rfl

/-- The text of a value in UTC. -/
theorem text_utc {t : DatetimeFields} (h : t.tzinfo = some UTC) :
    str_replace "+00:00".toList "Z".toList 0 t.isoformat = stamp_text t.key := by
  rw [isoformat_utc h]
  exact str_replace_end (plus_not_mem_stamp t.date.key t.time.key)

theorem tzinfo_of_timedelta {delta : ℤ} {tzinfo : Option UtcOffset} {t : DatetimeFields}
    (h : of_timedelta delta tzinfo = .ok t) : t.tzinfo = tzinfo := by
  by_cases hin : InYears delta
  · obtain ⟨u, hu, -, htz⟩ := of_timedelta_ok hin tzinfo
    rw [hu, Except.ok.injEq] at h
    rw [← h, htz]
  · rw [of_timedelta_error hin] at h
    cases h

theorem normalize_timestamp_utc {t : DatetimeFields} (h : t.tzinfo = some UTC) :
    normalize_timestamp t.datetime = t.timedelta := by
  rw [normalize_timestamp_aware h, UTC, neg_zero, add_zero]

/-- A value in UTC stays as it is. -/
theorem normalize_utc {t : DatetimeFields} (h : t.tzinfo = some UTC) : t.normalize = .ok t := by
  rw [normalize_eq, normalize_timestamp_utc h, ← h, of_timedelta_timedelta]

/-- A value and its normalised value have one text. -/
theorem format_normalize (t : DatetimeFields) :
    t.normalize >>= format_utc_timestamp = format_utc_timestamp t := by
  cases hn : t.normalize with
  | error x =>
      rw [format_utc_timestamp, hn]
      rfl
  | ok u =>
      have hu : u.normalize = .ok u := normalize_utc (tzinfo_of_timedelta (t.normalize_eq ▸ hn))
      have hbind : (Except.ok u : Except Exc _) >>= format_utc_timestamp = format_utc_timestamp u :=
        pure_bind u _
      rw [hbind, format_utc_timestamp, format_utc_timestamp, hn, hu]

/-- A value that shows an instant, with its text. -/
theorem format_of_inYears {t : DatetimeFields} (h : InYears (normalize_timestamp t.datetime)) :
    ∃ u, t.normalize = .ok u ∧ u.timedelta = normalize_timestamp t.datetime ∧
      format_utc_timestamp t = .ok (String.ofList (stamp_text u.key)) := by
  obtain ⟨u, hu, htime, htz⟩ := of_timedelta_ok h (some UTC)
  have hnorm : t.normalize = .ok u := t.normalize_eq.trans hu
  refine ⟨u, hnorm, htime, ?_⟩
  rw [format_utc_timestamp, hnorm]
  refine (pure_bind u _).trans ?_
  rw [text_utc htz]
  rfl

theorem stamp_le_iff (u v : DatetimeFields) : String.ofList (stamp_text u.key) ≤
    String.ofList (stamp_text v.key) ↔ u.timedelta ≤ v.timedelta := by
  rw [timedelta_le_iff, String.le_iff_toList_le, String.toList_ofList, String.toList_ofList]
  exact fixedWidth_stamp_text.le_iff ⟨u.date_fits, u.time_fits⟩ ⟨v.date_fits, v.time_fits⟩

end DatetimeFields

/-! ## The timestamps of a log -/

/-- `_format_utc_timestamp(effective)`, of the value in UTC that shows the instant. -/
def written_timestamp (effective : ℤ) : Except Exc String := do
  format_utc_timestamp (← DatetimeFields.of_timedelta effective (some UTC))

/-- The field `timestamp` as it is written, if the logger set it. -/
def Entry.timestamp_text (e : Entry) : Option String :=
  e.timestamp.bind fun t => (written_timestamp t).toOption

/-- It is the text of every value for the instant. -/
theorem written_timestamp_normalize (t : DatetimeFields) :
    written_timestamp (normalize_timestamp t.datetime) = format_utc_timestamp t := by
  rw [written_timestamp, ← t.normalize_eq, t.format_normalize]

theorem written_of_inYears {t : ℤ} (h : DatetimeFields.InYears t) : ∃ u : DatetimeFields,
    u.timedelta = t ∧ written_timestamp t = .ok (String.ofList (stamp_text u.key)) := by
  obtain ⟨u, -, rfl, htz⟩ := DatetimeFields.of_timedelta_ok h (some UTC)
  have hinst := DatetimeFields.normalize_timestamp_utc htz
  obtain ⟨v, hv, htime, htext⟩ := DatetimeFields.format_of_inYears (hinst.symm ▸ h)
  refine ⟨v, htime.trans hinst, ?_⟩
  rw [← hinst, written_timestamp_normalize, htext]

/-- The texts of two entries that the logger stamped have the order of their timestamps. -/
theorem timestamp_text_le_iff {e e' : Entry} {t t' : ℤ} (he : e.timestamp = some t)
    (he' : e'.timestamp = some t') (ht : DatetimeFields.InYears t)
    (ht' : DatetimeFields.InYears t') : ∃ s s', e.timestamp_text = some s ∧
      e'.timestamp_text = some s' ∧ (s ≤ s' ↔ t ≤ t') := by
  obtain ⟨u, rfl, hu⟩ := written_of_inYears ht
  obtain ⟨v, rfl, hv⟩ := written_of_inYears ht'
  refine ⟨_, _, ?_, ?_, DatetimeFields.stamp_le_iff u v⟩
  · rw [Entry.timestamp_text, he, Option.bind_some, hu, Except.toOption]
  · rw [Entry.timestamp_text, he', Option.bind_some, hv, Except.toOption]

namespace AuditLogger

/-! ### What a run stamps -/

/-- An extra field is no timestamp of the logger. -/
theorem timestamp_of_fields {e : Entry} {base : List (String × Value)}
    {extra : List (String × Field)} {t t' : ℤ} (hfields : e.fields = base ++ TaskCall.kwargs extra)
    (hbase : base.reverse.lookup "timestamp" = some (.time t)) (h : e.timestamp = some t') :
    t' = t := by
  unfold Entry.timestamp Entry.get at h
  rw [hfields, List.reverse_append, List.lookup_append, hbase] at h
  cases hextra : (TaskCall.kwargs extra).reverse.lookup "timestamp" with
  | none =>
      rw [hextra, Option.none_or] at h
      exact (Option.some.inj h).symm
  | some v =>
      have hmem : ("timestamp", v) ∈ TaskCall.kwargs extra := by
        obtain ⟨l₁, l₂, heq, -⟩ := List.lookup_eq_some_iff.mp hextra
        rw [← List.mem_reverse, heq]
        simp
      obtain ⟨kv, -, heq⟩ := List.mem_map.mp hmem
      rw [hextra, Option.some_or, ← (Prod.mk.inj heq).2] at h
      cases h

/-- The only time an entry is stamped with is the one reserved for it. -/
theorem timestamp_entry {call : TaskCall} {n : ℕ} {t t' : ℤ}
    (h : (call.entry n t).timestamp = some t') : t' = t := by
  cases call with
  | stage_event => exact timestamp_of_fields rfl rfl h
  | lifecycle_event => exact timestamp_of_fields rfl rfl h

theorem timestamp_entries {call : TaskCall} {n : ℕ} {t t' : ℤ} {w : Option WarningPayload} {e : Entry}
    (he : e ∈ entries call n t w) (h : e.timestamp = some t') :
    t' = t ∨ ∃ p, w = some p ∧ t' = p.timestamp := by
  obtain he | he := List.mem_append.mp he
  · cases w with
    | none => simp at he
    | some p =>
        obtain rfl : e = skew_warning call p := by simpa using he
        rw [(get_skew_warning call p).2.2] at h
        exact .inr ⟨p, rfl, (Option.some.inj h).symm⟩
  · rw [List.mem_singleton.mp he] at h
    exact .inl (timestamp_entry h)

/-- The times that the logger and its callers hold have property `P`. -/
structure Conf.Times (P : ℤ → Prop) (c : Conf) : Prop where
  waiting : ∀ p ∈ c.waiting, P p.2
  last : ∀ task_id t, c.logger.last_timestamps task_id = some t → P t
  handed : ∀ e ∈ c.handed, ∀ t, e.timestamp = some t → P t

/-- What is stamped under the lock is the candidate or the task's last timestamp. -/
theorem reserve_times {P : ℤ → Prop} {call : TaskCall} {cand : ℤ} {l l' : AuditLogger} {n : ℕ} {t : ℤ}
    {w : Option WarningPayload} (hcand : P cand)
    (hlast : ∀ task_id t, l.last_timestamps task_id = some t → P t)
    (hr : reserve call.task_id call.timestamp_override cand l = .ok (n, t, w) l') :
    (∀ task_id t, l'.last_timestamps task_id = some t → P t) ∧
      ∀ e ∈ entries call n t w, ∀ t', e.timestamp = some t' → P t' := by
  have hadvanced : ∀ k t, P t → ∀ task_id u,
      (l.advanced call.task_id k t).last_timestamps task_id = some u → P u := by
    intro k t ht task_id u hu
    by_cases htask : task_id = call.task_id
    · subst htask
      rw [advanced_last, Option.some.injEq] at hu
      exact hu ▸ ht
    · rw [(advanced_other l htask k t).2] at hu
      exact hlast task_id u hu
  obtain ⟨_, _, _, _, he⟩ | ⟨previous, hprev, _, _, he⟩ | ⟨_, he⟩ :=
    reserve_cases call.task_id call.timestamp_override cand l
  · rw [he] at hr
    cases hr
  · rw [he] at hr
    cases hr
    refine ⟨hadvanced 2 t (hlast _ _ hprev), fun e hmem t' ht' => ?_⟩
    obtain rfl | ⟨p, hp, rfl⟩ := timestamp_entries hmem ht'
    · exact hlast _ _ hprev
    · cases hp
      exact hlast _ _ hprev
  · rw [he] at hr
    cases hr
    refine ⟨hadvanced 1 cand hcand, fun e hmem t' ht' => ?_⟩
    obtain rfl | ⟨p, hp, -⟩ := timestamp_entries hmem ht'
    · exact hcand
    · cases hp

/-- **One act keeps the times.** -/
theorem Conf.Times.step {P : ℤ → Prop} {c : Conf} (h : c.Times P) {act : Act}
    (hact : ∀ call now, act = .read call now → P (candidate call.timestamp_override now)) :
    (c.step act).Times P := by
  obtain ⟨call, now, rfl, hstep⟩ | ⟨call, cand, n, t, w, hmem, hr, hsub, hhanded⟩ |
    ⟨hlogger, hsub, hhanded⟩ := c.step_cases act
  · rw [hstep]
    refine ⟨fun p hp => ?_, h.last, h.handed⟩
    obtain hp | hp := List.mem_append.mp hp
    · exact h.waiting p hp
    · rw [List.mem_singleton.mp hp]
      exact hact call now rfl
  · obtain ⟨hlast, hentries⟩ := reserve_times (h.waiting _ hmem) h.last hr
    refine ⟨fun p hp => h.waiting p (hsub hp), hlast, fun e he => ?_⟩
    rw [hhanded] at he
    obtain he | he := List.mem_append.mp he
    · exact h.handed e he
    · exact hentries e he
  · exact ⟨fun p hp => h.waiting p (hsub hp), hlogger ▸ h.last,
      fun e he => h.handed e (hhanded.subset he)⟩

/-- **Any run**: what is stamped has been read from the clock or given. -/
theorem Conf.run_times {P : ℤ → Prop} {acts : List Act}
    (h : ∀ call now, Act.read call now ∈ acts → P (candidate call.timestamp_override now)) :
    (Conf.run acts).Times P := by
  have hinit : Conf.Times P {} := by
    refine ⟨by simp, fun task_id t ht => ?_, by simp [Conf.handed]⟩
    cases ht
  exact List.foldlRecOn acts Conf.step hinit fun c hc act hact =>
    hc.step fun call now heq => h call now (heq ▸ hact)

/-- The order in which Python sorts entries by the text of their timestamps. -/
def by_text (e e' : Entry) : Bool := decide (e.timestamp_text.getD "" ≤ e'.timestamp_text.getD "")

/-- The order of their timestamps. -/
def by_time (e e' : Entry) : Bool := decide (e.timestamp.getD 0 ≤ e'.timestamp.getD 0)

/-- **Sorting what the logger stamped by text or by time is the same.** -/
theorem sort_by_text {acts : List Act}
    (hin : ∀ call now, Act.read call now ∈ acts →
      DatetimeFields.InYears (candidate call.timestamp_override now))
    {es : List Entry} (hes : ∀ e ∈ es, e ∈ (Conf.run acts).handed ∧ e.timestamp ≠ none) :
    es.mergeSort by_text = es.mergeSort by_time := by
  have htimes := Conf.run_times hin
  have hstamp : ∀ e ∈ es, ∃ t, e.timestamp = some t ∧ DatetimeFields.InYears t := by
    intro e he
    obtain ⟨hmem, hne⟩ := hes e he
    obtain ⟨t, ht⟩ := Option.ne_none_iff_exists'.mp hne
    exact ⟨t, ht, htimes.handed e hmem t ht⟩
  have hsame : ∀ e ∈ es, ∀ e' ∈ es, by_text e e' = by_time e e' := by
    intro e he e' he'
    obtain ⟨t, ht, hyears⟩ := hstamp e he
    obtain ⟨t', ht', hyears'⟩ := hstamp e' he'
    obtain ⟨s, s', hs, hs', hle⟩ := timestamp_text_le_iff ht ht' hyears hyears'
    unfold by_text by_time
    rw [hs, hs', ht, ht', decide_eq_decide]
    exact hle
  simpa using List.map_mergeSort (f := id) hsame

end AuditLogger

/-- **Timestamps sort as text.**  Two values whose instants have years from 1 to 9999 are written;
their texts have the order of the instants and agree for the same instant, which is what the logger
compares.  So sorting what it stamped in any run, any entries of any tasks, by the texts is sorting
by the times. -/
theorem format_utc_timestamp_sorts (a b : DatetimeFields)
    (ha : DatetimeFields.InYears (normalize_timestamp a.datetime))
    (hb : DatetimeFields.InYears (normalize_timestamp b.datetime)) (acts : List AuditLogger.Act)
    (hacts : ∀ call now, .read call now ∈ acts →
      DatetimeFields.InYears (AuditLogger.candidate call.timestamp_override now))
    (es : List Entry)
    (hes : ∀ e ∈ es, e ∈ (AuditLogger.Conf.run acts).handed ∧ e.timestamp ≠ none) :
    (∃ sa sb, format_utc_timestamp a = .ok sa ∧ format_utc_timestamp b = .ok sb ∧
      (sa ≤ sb ↔ normalize_timestamp a.datetime ≤ normalize_timestamp b.datetime) ∧
      (sa = sb ↔ normalize_timestamp a.datetime = normalize_timestamp b.datetime) ∧
      ∃ na nb, a.normalize = .ok na ∧ b.normalize = .ok nb ∧ (sa < sb ↔ na.lt nb)) ∧
    es.mergeSort AuditLogger.by_text = es.mergeSort AuditLogger.by_time := by
  refine ⟨?_, AuditLogger.sort_by_text hacts hes⟩
  obtain ⟨na, hna, hta, hsa⟩ := DatetimeFields.format_of_inYears ha
  obtain ⟨nb, hnb, htb, hsb⟩ := DatetimeFields.format_of_inYears hb
  have hle := DatetimeFields.stamp_le_iff na nb
  have hge := DatetimeFields.stamp_le_iff nb na
  rw [← hta, ← htb]
  refine ⟨_, _, hsa, hsb, hle, ?_, na, nb, hna, hnb, ?_⟩
  · rw [le_antisymm_iff, hle, hge, ← le_antisymm_iff]
  · rw [← not_le, hge, not_le, DatetimeFields.timedelta_lt_iff, DatetimeFields.lt, decide_eq_true_iff]

/-- The last microsecond of a February, an hour behind UTC. -/
def leap_eve : DatetimeFields :=
  ⟨⟨2024, 2, 29, by decide⟩, ⟨23, 59, 59, 999999, by decide⟩, some ⟨-3600000000, by decide⟩, by decide⟩

/-- The first of March, without a zone. -/
def march_first : DatetimeFields :=
  ⟨⟨2024, 3, 1, by decide⟩, ⟨0, 0, 0, 0, by decide⟩, none, by decide⟩

/-- A task stamped with the one and then with the other, where the clock went back. -/
def stamped : List AuditLogger.Act :=
  let call : TaskCall := .stage_event "policy.allowed" "allow" "policy-eval" "t" "general" none [] ""
  [.read call leap_eve.datetime, .reserve 0, .read call march_first.datetime, .reserve 0]

/-- A February whose text is behind that of a March. -/
theorem leap_eve_sorts :
    (∃ sa sb, format_utc_timestamp march_first = .ok sa ∧ format_utc_timestamp leap_eve = .ok sb ∧
      (sa ≤ sb ↔ normalize_timestamp march_first.datetime ≤ normalize_timestamp leap_eve.datetime) ∧
      (sa = sb ↔ normalize_timestamp march_first.datetime = normalize_timestamp leap_eve.datetime) ∧
      ∃ na nb, march_first.normalize = .ok na ∧ leap_eve.normalize = .ok nb ∧ (sa < sb ↔ na.lt nb)) ∧
    (AuditLogger.Conf.run stamped).handed.mergeSort AuditLogger.by_text =
      (AuditLogger.Conf.run stamped).handed.mergeSort AuditLogger.by_time := by
  refine format_utc_timestamp_sorts march_first leap_eve (by decide) (by decide) stamped ?_ _ ?_
  · intro call now h
    simp only [stamped, List.mem_cons, AuditLogger.Act.read.injEq, List.not_mem_nil, reduceCtorEq,
      or_false, false_or] at h
    obtain ⟨rfl, rfl⟩ | ⟨rfl, rfl⟩ := h
    · decide
    · decide
  · have hstamps : ∀ e ∈ (AuditLogger.Conf.run stamped).handed, e.timestamp ≠ none := by decide
    exact fun e he => ⟨he, hstamps e he⟩

end AegisOs
