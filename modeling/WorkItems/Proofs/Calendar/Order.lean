import WorkItems.Calendar.Date
/-!
# The order of dates

Dates are ordered by year, month and day, and the next date is the first one after a date
(`next?_spec`). Only the last date of the calendar has no next one.
-/

namespace WorkItems.Date

variable {a b d : Date}

/-- The last date of the calendar. -/
def last : Date := ⟨262142, 12, 31, by decide, by decide, by decide⟩

theorem lt_iff : a.lt b = true ↔ a.year < b.year ∨ a.year = b.year ∧
    (a.month < b.month ∨ a.month = b.month ∧ a.day < b.day) := by
  rw [lt, Bool.or_eq_true, Bool.and_eq_true, Bool.or_eq_true, Bool.and_eq_true, beq_iff_eq,
    beq_iff_eq]
  simp only [decide_eq_true_eq]

/-- No earlier than a date. -/
theorem lt_eq_false_iff : a.lt b = false ↔ b.year < a.year ∨ a.year = b.year ∧
    (b.month < a.month ∨ a.month = b.month ∧ b.day ≤ a.day) := by
  rw [← Bool.not_eq_true, lt_iff]
  omega

theorem not_lt_trans (hab : b.lt a = false) (hbd : d.lt b = false) : d.lt a = false := by
  rw [lt_eq_false_iff] at *
  omega

theorem lt_of_lt_of_not_lt (hab : b.lt a = false) (hbd : b.lt d = true) : a.lt d = true := by
  rw [lt_eq_false_iff] at hab
  rw [lt_iff] at *
  omega

theorem ofYmd?_eq_some {y : Int} {m n : Nat} (hy : -262143 ≤ y ∧ y ≤ 262142) (hm : 1 ≤ m ∧ m ≤ 12)
    (hn : 1 ≤ n ∧ n ≤ daysInMonth y m) : ofYmd? y m n = some ⟨y, m, n, hy, hm, hn⟩ := by
  rw [ofYmd?, dif_pos hy, dif_pos hm, dif_pos hn]

theorem one_le_daysInMonth (y : Int) (m : Nat) : 1 ≤ daysInMonth y m := by
  unfold daysInMonth
  split
  · split <;> omega
  all_goals omega

/-- Only the last date is the last day of the last month of the last year. -/
theorem year_lt_of_ne_last (h : d ≠ last) (hday : ¬d.day < daysInMonth d.year d.month)
    (hmonth : ¬d.month < 12) : d.year < 262142 := by
  refine Int.not_le.1 fun hyear => h ?_
  obtain ⟨y, m, n, hy, hm, hn⟩ := d
  dsimp only at *
  obtain rfl : y = 262142 := by omega
  obtain rfl : m = 12 := by omega
  have hdays : daysInMonth 262142 12 = 31 := rfl
  obtain rfl : n = 31 := by omega
  rfl

/-- A date that is not after another one is not the last either. -/
theorem ne_last_of_not_lt (h : d ≠ last) (hle : d.lt a = false) : a ≠ last := by
  rintro rfl
  rw [lt_eq_false_iff] at hle
  have hyear := d.year_bounds
  have hmonth := d.month_bounds
  have hday := d.day_bounds
  dsimp only [last] at hle
  have hdecember : d.month = 12 := by omega
  have hdays : daysInMonth d.year 12 = 31 := rfl
  rw [hdecember, hdays] at hday
  have hlt := year_lt_of_ne_last h (by rw [hdecember, hdays]; omega) (by omega)
  omega

/-- The next date is the first one after a date. -/
theorem next?_spec (h : d ≠ last) :
    ∃ e, d.next? = some e ∧ ∀ a, a.lt e = false ↔ d.lt a = true := by
  have hyear := d.year_bounds
  have hmonth := d.month_bounds
  have hday := d.day_bounds
  -- dates of one month have a day up to the same last one
  have hsame : ∀ a : Date, a.year = d.year → a.month = d.month →
      a.day ≤ daysInMonth d.year d.month := by
    intro a hy hm
    rw [← hy, ← hm]
    exact a.day_bounds.2
  rw [next?]
  split
  · refine ⟨_, ofYmd?_eq_some hyear hmonth ⟨by omega, by omega⟩, fun a => ?_⟩
    rw [lt_eq_false_iff, lt_iff]
    dsimp only
    omega
  · rename_i hend
    split
    · refine ⟨_, ofYmd?_eq_some hyear ⟨by omega, by omega⟩ ⟨Nat.le_refl _, one_le_daysInMonth _ _⟩,
        fun a => ?_⟩
      have hlast := hsame a
      have hfirst := a.day_bounds
      rw [lt_eq_false_iff, lt_iff]
      dsimp only
      omega
    · rename_i hdecember
      have hyear' := year_lt_of_ne_last h hend hdecember
      refine ⟨_, ofYmd?_eq_some ⟨by omega, by omega⟩ ⟨by omega, by omega⟩
        ⟨Nat.le_refl _, one_le_daysInMonth _ _⟩, fun a => ?_⟩
      have hlast := hsame a
      have hfirst := a.day_bounds
      have hmonths := a.month_bounds
      rw [lt_eq_false_iff, lt_iff]
      dsimp only
      omega

end WorkItems.Date
