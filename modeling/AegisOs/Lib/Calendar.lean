/-
# `AegisOs.Lib.Calendar` — the Gregorian calendar, counted in days

The proleptic Gregorian calendar as Python's `datetime` counts it: day 1 is
January 1 of year 1.  A date is a year, a month and a day that occur
(`Date.Valid`); its ordinal is the number of the day.

    from a date to its ordinal     `ymd2ord`, by tables
    from an ordinal to its date    `ord2ymd`, by cycles of 400, 100, 4 and 1 years

The two are inverse to each other (`Date.ofOrdinal_ordinal`,
`Date.ordinal_ofOrdinal`), and the ordinals have the order of year, month and
day, in this order of importance (`Date.ordinal_strictMono`).  A time of the
day is counted in microseconds in the same way (`TimeOfDay`).
-/
import Mathlib.Data.Prod.Lex
import Mathlib.Order.Monotone.Basic

namespace AegisOs.Lib

/-! ## Counting days -/

def is_leap (year : ℕ) : Bool := year % 4 = 0 ∧ (year % 100 ≠ 0 ∨ year % 400 = 0)

/-- The lengths of the months from January on; the first entry is not used. -/
def DAYS_IN_MONTH : List ℕ := [0, 31, 28, 31, 30, 31, 30, 31, 31, 30, 31, 30, 31]

/-- The days of the year before each month. -/
def DAYS_BEFORE_MONTH : List ℕ := [0, 0, 31, 59, 90, 120, 151, 181, 212, 243, 273, 304, 334]

/-- `_days_before_year`. -/
def days_before_year (year : ℕ) : ℕ :=
  let y := year - 1
  y * 365 + y / 4 - y / 100 + y / 400

/-- `_days_in_month`, of a leap year or another. -/
def days_in_month (leap : Bool) (month : ℕ) : ℕ :=
  if month = 2 ∧ leap then 29 else DAYS_IN_MONTH.getD month 0

/-- `_days_before_month`. -/
def days_before_month (leap : Bool) (month : ℕ) : ℕ :=
  DAYS_BEFORE_MONTH.getD month 0 + if 2 < month ∧ leap then 1 else 0

/-- `_ymd2ord`. -/
def ymd2ord (year month day : ℕ) : ℕ :=
  days_before_year year + days_before_month (is_leap year) month + day

def days_in_year (leap : Bool) : ℕ := if leap then 366 else 365

/-- The month of a day of the year, counted from 0, and the days before it. -/
def month_of (leap : Bool) (n : ℕ) : ℕ × ℕ :=
  let month := (n + 50) / 32
  let preceding := days_before_month leap month
  -- the estimate is right or one too large
  if n < preceding then (month - 1, preceding - days_in_month leap (month - 1))
  else (month, preceding)

/-- `_ord2ymd`. -/
def ord2ymd (n : ℕ) : ℕ × ℕ × ℕ :=
  let n := n - 1
  let n400 := n / 146097
  let n := n % 146097
  let n100 := n / 36524
  let n := n % 36524
  let n4 := n / 1461
  let n := n % 1461
  let n1 := n / 365
  let n := n % 365
  let year := n400 * 400 + 1 + (n100 * 100 + n4 * 4 + n1)
  -- the last day of a cycle of four or of four hundred years
  if n1 = 4 ∨ n100 = 4 then (year - 1, 12, 31)
  else
    let m := month_of (decide (n1 = 3 ∧ (n4 ≠ 24 ∨ n100 = 3))) n
    (year, m.1, n - m.2 + 1)

/-! ### Months -/

/-- The months follow each other. -/
theorem days_before_next_month (leap : Bool) : ∀ m < 12, 1 ≤ m →
    days_before_month leap (m + 1) = days_before_month leap m + days_in_month leap m := by
  cases leap <;> decide

theorem days_before_last_month (leap : Bool) :
    days_before_month leap 12 + days_in_month leap 12 = days_in_year leap := by
  cases leap <;> rfl

theorem days_in_month_le (leap : Bool) : ∀ m ≤ 12, days_in_month leap m ≤ 31 := by
  cases leap <;> decide

/-- An earlier month ends before a later one begins. -/
theorem month_ends_before (leap : Bool) {m m' : ℕ} (hm : 1 ≤ m) (hlt : m < m') (hm' : m' ≤ 12) :
    days_before_month leap m + days_in_month leap m ≤ days_before_month leap m' := by
  induction m', hlt using Nat.le_induction with
  | base => exact (days_before_next_month leap m (by omega) hm).ge
  | succ k hk ih =>
      have hnext := days_before_next_month leap k (by omega) (by omega)
      have := ih (by omega)
      omega

theorem month_ends_in_year (leap : Bool) {m : ℕ} (hm : 1 ≤ m) (hm' : m ≤ 12) :
    days_before_month leap m + days_in_month leap m ≤ days_in_year leap := by
  have hlast := days_before_last_month leap
  obtain hlt | rfl := hm'.lt_or_eq
  · have := month_ends_before leap hm hlt le_rfl
    omega
  · exact hlast.le

/-! ### Years -/

/-- A year by its place in the cycles of 400, 100 and 4 years. -/
theorem days_before_cycles {a b c e : ℕ} (hb : b ≤ 3) (hc : c ≤ 24) (he : e ≤ 3) :
    days_before_year (a * 400 + b * 100 + c * 4 + e + 1) =
      a * 146097 + b * 36524 + c * 1461 + e * 365 := by
  unfold days_before_year
  dsimp only
  omega

/-- The last year of four is a leap year, but of the last four of a century only when the
century is the last of four. -/
theorem is_leap_cycles {a b c e : ℕ} (hb : b ≤ 3) (hc : c ≤ 24) (he : e ≤ 3) :
    is_leap (a * 400 + b * 100 + c * 4 + e + 1) = decide (e = 3 ∧ (c ≠ 24 ∨ b = 3)) := by
  unfold is_leap
  rw [decide_eq_decide]
  omega

/-- The years follow each other. -/
theorem days_before_next_year {year : ℕ} (h : 1 ≤ year) :
    days_before_year (year + 1) = days_before_year year + days_in_year (is_leap year) := by
  obtain ⟨y, rfl⟩ : ∃ y, year = y + 1 := ⟨year - 1, by omega⟩
  have hstep : ∀ k, (y + 1) / k = y / k + if (y + 1) % k = 0 then 1 else 0 := by
    intro k
    rw [Nat.succ_div]
    simp only [Nat.dvd_iff_mod_eq_zero]
  have h100 : (y + 1) % 100 = 0 → (y + 1) % 4 = 0 := by omega
  have h400 : (y + 1) % 400 = 0 → (y + 1) % 100 = 0 := by omega
  have hle : y / 100 ≤ y := Nat.div_le_self y 100
  unfold days_before_year days_in_year is_leap
  simp only [Nat.add_sub_cancel, hstep 4, hstep 100, hstep 400, decide_eq_true_eq]
  generalize y / 100 = q at hle ⊢
  split_ifs <;> omega

/-- An earlier year ends before a later one begins. -/
theorem year_ends_before {y y' : ℕ} (hy : 1 ≤ y) (hlt : y < y') :
    days_before_year y + days_in_year (is_leap y) ≤ days_before_year y' := by
  induction y', hlt using Nat.le_induction with
  | base => exact (days_before_next_year hy).ge
  | succ k hk ih =>
      have hnext := days_before_next_year (hy.trans (Nat.le_of_succ_le hk))
      omega

/-! ## Dates -/

/-- A year, a month and a day that occur. -/
structure Date.Valid (year month day : ℕ) : Prop where
  year_pos : 1 ≤ year
  month_pos : 1 ≤ month
  month_le : month ≤ 12
  day_pos : 1 ≤ day
  day_le : day ≤ days_in_month (is_leap year) month

instance (year month day : ℕ) : Decidable (Date.Valid year month day) :=
  decidable_of_iff (1 ≤ year ∧ 1 ≤ month ∧ month ≤ 12 ∧ 1 ≤ day ∧
      day ≤ days_in_month (is_leap year) month)
    ⟨fun ⟨hy, hm, hm', hd, hd'⟩ => ⟨hy, hm, hm', hd, hd'⟩,
      fun ⟨hy, hm, hm', hd, hd'⟩ => ⟨hy, hm, hm', hd, hd'⟩⟩

structure Date where
  year : ℕ
  month : ℕ
  day : ℕ
  valid : Date.Valid year month day

namespace Date

def ordinal (d : Date) : ℕ := ymd2ord d.year d.month d.day

/-- Year, month and day, in this order of importance. -/
def key (d : Date) : ℕ ×ₗ ℕ ×ₗ ℕ := toLex (d.year, toLex (d.month, d.day))

theorem ext_key {d d' : Date} (h : d.key = d'.key) : d = d' := by
  obtain ⟨y, m, k, hv⟩ := d
  obtain ⟨y', m', k', hv'⟩ := d'
  simp only [key, EmbeddingLike.apply_eq_iff_eq, Prod.mk.injEq] at h
  obtain ⟨rfl, rfl, rfl⟩ := h
  rfl

/-- The ordinals of a year. -/
theorem ordinal_mem_year (d : Date) : days_before_year d.year < d.ordinal ∧
    d.ordinal ≤ days_before_year d.year + days_in_year (is_leap d.year) := by
  obtain ⟨-, hm, hm', hday, hday'⟩ := d.valid
  have := month_ends_in_year (is_leap d.year) hm hm'
  unfold ordinal ymd2ord
  omega

/-- **The ordinals have the order of the dates.** -/
theorem ordinal_strictMono {d d' : Date} (h : d.key < d'.key) : d.ordinal < d'.ordinal := by
  obtain ⟨hy, hm, -, -, hday⟩ := d.valid
  obtain (hyear : d.year < d'.year) | ⟨(hyear : d.year = d'.year), h⟩ :=
    Prod.Lex.toLex_lt_toLex.mp h
  · have hd := d.ordinal_mem_year
    have hd' := d'.ordinal_mem_year
    have := year_ends_before hy hyear
    omega
  unfold ordinal ymd2ord
  rw [← hyear]
  obtain (hmonth : d.month < d'.month) | ⟨(hmonth : d.month = d'.month), (hlt : d.day < d'.day)⟩ :=
    Prod.Lex.toLex_lt_toLex.mp h
  · have := month_ends_before (is_leap d.year) hm hmonth d'.valid.month_le
    have := d'.valid.day_pos
    omega
  · rw [← hmonth]
    omega

theorem ordinal_injective : Function.Injective ordinal := by
  intro d d' h
  rcases lt_trichotomy d.key d'.key with hlt | heq | hgt
  · exact absurd h (ordinal_strictMono hlt).ne
  · exact ext_key heq
  · exact absurd h (ordinal_strictMono hgt).ne'

end Date

/-! ## From an ordinal to its date -/

/-- The estimate of the month is corrected where it is off. -/
theorem month_of_spec (leap : Bool) : ∀ n < 365, 1 ≤ (month_of leap n).1 ∧
    (month_of leap n).1 ≤ 12 ∧ (month_of leap n).2 = days_before_month leap (month_of leap n).1 ∧
    (month_of leap n).2 ≤ n ∧
    n < (month_of leap n).2 + days_in_month leap (month_of leap n).1 := by
  cases leap <;> decide +kernel

/-- A day of a year, counted from 0, by its month. -/
theorem month_of_date {year n : ℕ} (hy : 1 ≤ year) (hn : n < 365) :
    Date.Valid year (month_of (is_leap year) n).1 (n - (month_of (is_leap year) n).2 + 1) ∧
      ymd2ord year (month_of (is_leap year) n).1 (n - (month_of (is_leap year) n).2 + 1) =
        days_before_year year + n + 1 := by
  obtain ⟨hpos, hle, hbefore, hfrom, hto⟩ := month_of_spec (is_leap year) n hn
  refine ⟨⟨hy, hpos, hle, by omega, by omega⟩, ?_⟩
  unfold ymd2ord
  omega

/-- The last day of a leap year. -/
theorem last_day_of_leap {year : ℕ} (hy : 1 ≤ year) (hleap : is_leap year = true) :
    Date.Valid year 12 31 ∧ ymd2ord year 12 31 = days_before_year year + 366 := by
  refine ⟨⟨hy, by omega, le_rfl, by omega, ?_⟩, ?_⟩
  · rw [hleap]
    decide
  · have hlast : days_before_month true 12 = 335 := rfl
    unfold ymd2ord
    rw [hleap, hlast]

/-- **The date of a number occurs, and has the number as its ordinal.** -/
theorem ord2ymd_spec (n : ℕ) :
    Date.Valid (ord2ymd n).1 (ord2ymd n).2.1 (ord2ymd n).2.2 ∧
      ymd2ord (ord2ymd n).1 (ord2ymd n).2.1 (ord2ymd n).2.2 = n - 1 + 1 := by
  unfold ord2ymd
  dsimp only
  generalize n - 1 = k
  -- the place in each cycle, and what is left of the year
  have ha := Nat.div_add_mod k 146097
  have hk := Nat.mod_lt k (by decide : 146097 > 0)
  generalize k / 146097 = a at ha ⊢
  generalize k % 146097 = k₁ at ha hk ⊢
  have hb := Nat.div_add_mod k₁ 36524
  have hk₁ := Nat.mod_lt k₁ (by decide : 36524 > 0)
  generalize k₁ / 36524 = b at hb ⊢
  generalize k₁ % 36524 = k₂ at hb hk₁ ⊢
  have hc := Nat.div_add_mod k₂ 1461
  have hk₂ := Nat.mod_lt k₂ (by decide : 1461 > 0)
  generalize k₂ / 1461 = c at hc ⊢
  generalize k₂ % 1461 = k₃ at hc hk₂ ⊢
  have he := Nat.div_add_mod k₃ 365
  have hr := Nat.mod_lt k₃ (by decide : 365 > 0)
  generalize k₃ / 365 = e at he ⊢
  generalize k₃ % 365 = r at he hr ⊢
  have hc24 : c ≤ 24 := by omega
  split_ifs with hend
  · -- the 366th day of a leap year
    obtain ⟨b', c', hb', hc', hor, hyear, hday⟩ : ∃ b' c', b' ≤ 3 ∧ c' ≤ 24 ∧
        (c' ≠ 24 ∨ b' = 3) ∧
        a * 400 + 1 + (b * 100 + c * 4 + e) - 1 = a * 400 + b' * 100 + c' * 4 + 3 + 1 ∧
        k = a * 146097 + b' * 36524 + c' * 1461 + 3 * 365 + 365 := by
      obtain rfl | rfl := hend
      · exact ⟨b, c, by omega, hc24, by omega, by omega, by omega⟩
      · exact ⟨3, 24, by omega, by omega, by omega, by omega, by omega⟩
    rw [hyear]
    have hleap : is_leap (a * 400 + b' * 100 + c' * 4 + 3 + 1) = true := by
      rw [is_leap_cycles hb' hc' le_rfl]
      exact decide_eq_true ⟨rfl, hor⟩
    obtain ⟨hvalid, hord⟩ := last_day_of_leap (Nat.succ_pos _) hleap
    exact ⟨hvalid, by rw [hord, days_before_cycles hb' hc' le_rfl, hday]⟩
  · have hb3 : b ≤ 3 := by omega
    have he3 : e ≤ 3 := by omega
    have hyear : a * 400 + 1 + (b * 100 + c * 4 + e) = a * 400 + b * 100 + c * 4 + e + 1 := by
      omega
    have hday : k = a * 146097 + b * 36524 + c * 1461 + e * 365 + r := by omega
    obtain ⟨hvalid, hord⟩ := month_of_date (Nat.succ_pos (a * 400 + b * 100 + c * 4 + e)) hr
    rw [hyear, ← is_leap_cycles (a := a) hb3 hc24 he3]
    exact ⟨hvalid, by rw [hord, days_before_cycles hb3 hc24 he3, hday]⟩

namespace Date

/-- The date of an ordinal; that of 0 is that of 1. -/
def ofOrdinal (n : ℕ) : Date where
  year := (ord2ymd n).1
  month := (ord2ymd n).2.1
  day := (ord2ymd n).2.2
  valid := (ord2ymd_spec n).1

theorem ordinal_ofOrdinal {n : ℕ} (h : 1 ≤ n) : (ofOrdinal n).ordinal = n :=
  (ord2ymd_spec n).2.trans (by omega)

theorem ordinal_pos (d : Date) : 1 ≤ d.ordinal := by
  have := d.ordinal_mem_year
  omega

theorem ofOrdinal_ordinal (d : Date) : ofOrdinal d.ordinal = d :=
  ordinal_injective (ordinal_ofOrdinal d.ordinal_pos)

/-- The ordinals up to the end of a year are those of the dates up to that year. -/
theorem year_le_iff {d : Date} {y : ℕ} (hy : 1 ≤ y) :
    d.year ≤ y ↔ d.ordinal ≤ days_before_year (y + 1) := by
  have hnext := days_before_next_year hy
  have hd := d.ordinal_mem_year
  constructor
  · intro h
    obtain hlt | heq := h.lt_or_eq
    · have := year_ends_before d.valid.year_pos hlt
      omega
    · rw [heq] at hd
      omega
  · intro h
    by_contra hlt
    have := year_ends_before hy (not_le.mp hlt)
    omega

end Date

/-! ## The time of the day -/

/-- An hour, a minute, a second and a microsecond that occur. -/
structure TimeOfDay.Valid (hour minute second microsecond : ℕ) : Prop where
  hour_lt : hour < 24
  minute_lt : minute < 60
  second_lt : second < 60
  microsecond_lt : microsecond < 1000000

instance (hour minute second microsecond : ℕ) :
    Decidable (TimeOfDay.Valid hour minute second microsecond) :=
  decidable_of_iff (hour < 24 ∧ minute < 60 ∧ second < 60 ∧ microsecond < 1000000)
    ⟨fun ⟨hh, hm, hs, hu⟩ => ⟨hh, hm, hs, hu⟩, fun ⟨hh, hm, hs, hu⟩ => ⟨hh, hm, hs, hu⟩⟩

structure TimeOfDay where
  hour : ℕ
  minute : ℕ
  second : ℕ
  microsecond : ℕ
  valid : TimeOfDay.Valid hour minute second microsecond

namespace TimeOfDay

/-- The microseconds since midnight. -/
def micros (t : TimeOfDay) : ℕ :=
  (t.hour * 3600 + t.minute * 60 + t.second) * 1000000 + t.microsecond

/-- Hour, minute, second and microsecond, in this order of importance. -/
def key (t : TimeOfDay) : ℕ ×ₗ ℕ ×ₗ ℕ ×ₗ ℕ :=
  toLex (t.hour, toLex (t.minute, toLex (t.second, t.microsecond)))

theorem ext_key {t t' : TimeOfDay} (h : t.key = t'.key) : t = t' := by
  obtain ⟨_, _, _, _, _⟩ := t
  obtain ⟨_, _, _, _, _⟩ := t'
  simp only [key, EmbeddingLike.apply_eq_iff_eq, Prod.mk.injEq] at h
  obtain ⟨rfl, rfl, rfl, rfl⟩ := h
  rfl

theorem micros_lt (t : TimeOfDay) : t.micros < 86400000000 := by
  obtain ⟨hh, hm, hs, hu⟩ := t.valid
  unfold micros
  omega

theorem micros_strictMono {t t' : TimeOfDay} (h : t.key < t'.key) : t.micros < t'.micros := by
  obtain ⟨-, hm, hs, hu⟩ := t.valid
  unfold micros
  simp only [key, Prod.Lex.toLex_lt_toLex] at h
  omega

theorem ofMicros_valid (n : ℕ) : Valid (n / 1000000 / 3600 % 24) (n / 1000000 % 3600 / 60)
    (n / 1000000 % 3600 % 60) (n % 1000000) where
  hour_lt := Nat.mod_lt _ (by decide)
  minute_lt := Nat.div_lt_of_lt_mul (Nat.mod_lt _ (by decide))
  second_lt := Nat.mod_lt _ (by decide)
  microsecond_lt := Nat.mod_lt _ (by decide)

/-- The time of the day `n` microseconds after a midnight. -/
def ofMicros (n : ℕ) : TimeOfDay where
  hour := n / 1000000 / 3600 % 24
  minute := n / 1000000 % 3600 / 60
  second := n / 1000000 % 3600 % 60
  microsecond := n % 1000000
  valid := ofMicros_valid n

theorem micros_ofMicros {n : ℕ} (h : n < 86400000000) : (ofMicros n).micros = n := by
  unfold micros ofMicros
  dsimp only
  omega

theorem ofMicros_micros (t : TimeOfDay) : ofMicros t.micros = t := by
  obtain ⟨hour, minute, second, microsecond, hh, hm, hs, hu⟩ := t
  simp only [ofMicros, micros, mk.injEq]
  omega

end TimeOfDay

end AegisOs.Lib
