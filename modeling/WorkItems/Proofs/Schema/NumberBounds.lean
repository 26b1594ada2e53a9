import WorkItems.Proofs.Decimal.Rounding
import WorkItems.Proofs.Schema.Check
import WorkItems.Proofs.Schema.OfConfig
import WorkItems.Proofs.Value
/-!
# Bounds of numbers

The bounds of a number field are floating-point numbers, and a value is compared with them as one.
An integer of more than 53 bits may be no floating-point number, and then the one nearest to it is
compared. So what is accepted lies exactly between the bounds after it has been rounded
(`Field.check_number_rounded`). Rounding makes a difference only at the bound itself: an integer
beyond it is accepted if the bound is what it is rounded to.

A NaN has no exact value and no place in what follows.
-/

namespace WorkItems

/-! ## Values -/

namespace Number

/-- The exact value of a number, where it has one. -/
noncomputable def exactValue? : Number → Option EReal
  | int i => some ((i.toInt : ℝ) : EReal)
  | uint u => some ((u.toNat : ℝ) : EReal)
  | float x => Decimal.exactValue? x

variable {n : Number} {i : Int}

theorem exactValue?_of_integer? (h : n.integer? = some i) :
    n.exactValue? = some ((i : ℝ) : EReal) := by
  cases n with
  | int j => rw [← Option.some.inj h, exactValue?]
  | uint u =>
      rw [← Option.some.inj h, exactValue?]
      push_cast
      rfl
  | float x => cases h

theorem isNearest_toFloat (h : n.integer? = some i) : Decimal.IsNearest i n.toFloat := by
  cases n with
  | int j =>
      obtain rfl := Option.some.inj h
      refine Decimal.isNearest_ofInt ?_
      have hlow := j.le_toInt
      have hhigh := j.toInt_lt
      omega
  | uint u =>
      obtain rfl := Option.some.inj h
      refine Decimal.isNearest_ofInt ?_
      have hlt := u.toNat_lt
      omega
  | float x => cases h

/-- What a number is rounded to. -/
structure RoundsTo (v r : EReal) : Prop where
  self : (∃ y, Decimal.exactValue? y = some v) → r = v
  down : ∀ y u, Decimal.exactValue? y = some u → u < v → r ≤ u → r = u
  up : ∀ y u, Decimal.exactValue? y = some u → v < u → u ≤ r → r = u

/-- Between a value and what it is rounded to there is no floating-point number. -/
theorem exists_roundsTo {v : EReal} (hv : n.exactValue? = some v) :
    ∃ r, Decimal.exactValue? n.toFloat = some r ∧ RoundsTo v r := by
  cases hi : n.integer? with
  | none =>
      cases n with
      | float x =>
          refine ⟨v, hv, fun _ => rfl, fun y u _ hlt hle => ?_, fun y u _ hlt hle => ?_⟩
          · exact absurd hlt (not_lt.2 hle)
          · exact absurd hlt (not_lt.2 hle)
      | _ => cases hi
  | some i =>
      have hnearest := isNearest_toFloat hi
      have hr := Decimal.exactValue?_of_isFinite hnearest.1
      obtain rfl : ((i : ℝ) : EReal) = v :=
        Option.some.inj ((exactValue?_of_integer? hi).symm.trans hv)
      have hint : ((i : ℝ) : EReal) = (((i : ℚ) : ℝ) : EReal) := by rw [Rat.cast_intCast]
      refine ⟨_, hr, ?_, fun y u hy hlt hle => ?_, fun y u hy hlt hle => ?_⟩
      · rintro ⟨y, hy⟩
        obtain ⟨hfinite, hvalue⟩ :=
          Decimal.isFinite_of_exactValue? hy (EReal.coe_ne_bot _) (EReal.coe_ne_top _)
        rw [hint, EReal.coe_eq_coe_iff, Rat.cast_inj] at hvalue
        rw [hnearest.eq_of_rational hfinite hvalue.symm, hint]
      · obtain ⟨hfinite, rfl⟩ := Decimal.isFinite_of_exactValue? hy
          (ne_bot_of_le_ne_bot (EReal.coe_ne_bot _) hle) (ne_top_of_lt hlt)
        rw [hint, EReal.coe_lt_coe_iff, Rat.cast_lt] at hlt
        rw [EReal.coe_le_coe_iff, Rat.cast_le] at hle
        rw [hnearest.eq_of_le_of_lt hfinite hle hlt]
      · obtain ⟨hfinite, rfl⟩ := Decimal.isFinite_of_exactValue? hy
          (ne_bot_of_gt hlt) (ne_top_of_le_ne_top (EReal.coe_ne_top _) hle)
        rw [hint, EReal.coe_lt_coe_iff, Rat.cast_lt] at hlt
        rw [EReal.coe_le_coe_iff, Rat.cast_le] at hle
        rw [hnearest.eq_of_ge_of_gt hfinite hle hlt]

/-- Integers up to 53 bits are floating-point numbers. -/
theorem exists_exactValue?_eq (hi : n.integer? = some i) (hbits : i.natAbs ≤ 2 ^ 53) :
    ∃ y, Decimal.exactValue? y = n.exactValue? := by
  obtain ⟨y, hfinite, hvalue⟩ := Decimal.exists_rational_eq hbits
  refine ⟨y, ?_⟩
  rw [Decimal.exactValue?_of_isFinite hfinite, hvalue, exactValue?_of_integer? hi, Rat.cast_intCast]

end Number

/-- A value between the bounds that are configured. -/
def FieldConfig.AllowsValue (c : FieldConfig) (v : EReal) : Prop :=
  (∀ a u, c.minValue = some a → Decimal.exactValue? a = some u → u ≤ v) ∧
    ∀ b u, c.maxValue = some b → Decimal.exactValue? b = some u → v ≤ u

namespace Field

variable {name : String} {c : FieldConfig} {f : Field} {today : Date} {n : Number}

theorem check_number_iff {r : EReal} (hf : ofConfig name c = .ok f) (htype : c.fieldType = .number)
    (hr : Decimal.exactValue? n.toFloat = some r) :
    f.check today (.number n) = .ok () ↔ c.AllowsValue r := by
  have hmade := isMadeFrom_of_ofConfig hf
  have hnumber : f.fieldType = .number := hmade.fieldType.trans htype
  have hkind : f.HasKind (.number n) := by
    simp only [HasKind, hnumber]
    exact ⟨n, rfl⟩
  have hmeets : f.Meets today (.number n) ↔ f.InValues n.toFloat := by
    simp only [Meets, hnumber]
  have hmin : f.config.minValue = c.minValue := by rw [hmade.config]
  have hmax : f.config.maxValue = c.maxValue := by rw [hmade.config]
  rw [check_eq_ok_iff hkind, hmeets]
  constructor
  · rintro ⟨hleast, hgreatest⟩
    rw [hmin] at hleast
    rw [hmax] at hgreatest
    exact ⟨fun a u ha hu => Decimal.not_lt_iff.1 (hleast a ha) r u hr hu,
      fun b u hb hu => Decimal.not_lt_iff.1 (hgreatest b hb) u r hu hr⟩
  · rintro ⟨hleast, hgreatest⟩
    rw [← hmin] at hleast
    rw [← hmax] at hgreatest
    refine ⟨fun a ha => Decimal.not_lt_iff.2 fun v u hv hu => ?_,
      fun b hb => Decimal.not_lt_iff.2 fun u v hu hv => ?_⟩
    · obtain rfl := Option.some.inj (hr.symm.trans hv)
      exact hleast a u ha hu
    · obtain rfl := Option.some.inj (hr.symm.trans hv)
      exact hgreatest b u hb hu

/--
A number field accepts a number with an exact value exactly if what is left of this value once an
integer has been rounded to the nearest floating-point number lies between the bounds. This is the
exact value itself for every floating-point number and for every integer that is one, as all
integers up to 53 bits are. An accepted number that is beyond a bound is rounded to this bound.
-/
theorem check_number_rounded {v : EReal} (hf : ofConfig name c = .ok f)
    (htype : c.fieldType = .number) (hv : n.exactValue? = some v) :
    ∃ r, Decimal.exactValue? n.toFloat = some r ∧
      (∀ i, n.integer? = some i → Decimal.IsNearest i n.toFloat) ∧
      (f.check today (.number n) = .ok () ↔ c.AllowsValue r) ∧
      ((∃ y, Decimal.exactValue? y = some v) →
        (f.check today (.number n) = .ok () ↔ c.AllowsValue v)) ∧
      (∀ i : Int, n.integer? = some i → i.natAbs ≤ 2 ^ 53 → ∃ y, Decimal.exactValue? y = some v) ∧
      (f.check today (.number n) = .ok () →
        (∀ a u, c.minValue = some a → Decimal.exactValue? a = some u → v < u → r = u) ∧
          ∀ b u, c.maxValue = some b → Decimal.exactValue? b = some u → u < v → r = u) := by
  obtain ⟨r, hr, hrounds⟩ := Number.exists_roundsTo hv
  have hiff : f.check today (.number n) = .ok () ↔ c.AllowsValue r := check_number_iff hf htype hr
  refine ⟨r, hr, fun i hi => Number.isNearest_toFloat hi, hiff, fun hrepresented => ?_,
    fun i hi hbits => hv ▸ Number.exists_exactValue?_eq hi hbits, fun haccepted => ?_⟩
  · rw [hiff, hrounds.self hrepresented]
  · obtain ⟨hleast, hgreatest⟩ := hiff.1 haccepted
    exact ⟨fun a u ha hu hlt => hrounds.up a u hu hlt (hleast a u ha hu),
      fun b u hb hu hlt => hrounds.down b u hu hlt (hgreatest b u hb hu)⟩

/-- The greatest value is the one up to which every integer is a floating-point number. -/
def longConfig : FieldConfig := { fieldType := .number, maxValue := some (Decimal.ofInt (2 ^ 53)) }

/-- The integer behind the greatest value. -/
def nextInteger : Number := .int 9007199254740993

/-- An integer of 54 bits is rounded to its even neighbour. -/
theorem toFloat_nextInteger : nextInteger.toFloat = Decimal.ofInt (2 ^ 53) := by
  have hnearest : Decimal.nearest 9007199254740993 1 =
      Decimal.nearest (2 ^ 53) 1 := by decide +kernel
  exact congrArg (Decimal.ofWord false) hnearest

theorem exactValue?_longBound :
    Decimal.exactValue? (Decimal.ofInt (2 ^ 53)) = some (((2 ^ 53 : Int) : ℝ) : EReal) := by
  obtain ⟨y, hfinite, hvalue⟩ := Decimal.exists_rational_eq (i := 2 ^ 53) le_rfl
  have hnearest : Decimal.IsNearest ((2 ^ 53 : Int) : ℚ) (Decimal.ofInt (2 ^ 53)) :=
    Decimal.isNearest_ofInt (by decide)
  rw [Decimal.exactValue?_of_isFinite hnearest.1, hnearest.eq_of_rational hfinite hvalue,
    Rat.cast_intCast]

theorem exactValue?_nextInteger :
    nextInteger.exactValue? = some (((9007199254740993 : Int) : ℝ) : EReal) :=
  Number.exactValue?_of_integer? rfl

/-- Once it is rounded, the integer is the greatest value itself. -/
theorem allowsValue_nextInteger {r : EReal}
    (hr : Decimal.exactValue? nextInteger.toFloat = some r) :
    longConfig.AllowsValue r := by
  refine ⟨fun a u ha => (nomatch ha), ?_⟩
  rintro b u ⟨⟩ hu
  rw [toFloat_nextInteger, hu] at hr
  exact (Option.some.inj hr).ge

/-- The next integer is accepted although it is beyond the greatest value. -/
theorem check_number_beyond :
    ∃ (f : Field) (b : Float) (v u : EReal), ofConfig "f" longConfig = .ok f ∧
      longConfig.fieldType = .number ∧ longConfig.maxValue = some b ∧ Decimal.isFinite b = true ∧
      nextInteger.exactValue? = some v ∧ Decimal.exactValue? b = some u ∧
      f.check DateFormat.january (.number nextInteger) = .ok () ∧ u < v := by
  have hfield : ∃ f, ofConfig "f" longConfig = .ok f := ⟨_, rfl⟩
  obtain ⟨f, hf⟩ := hfield
  have hbound := exactValue?_longBound
  have hrounded := toFloat_nextInteger ▸ hbound
  have hfinite :=
    (Decimal.isFinite_of_exactValue? hbound (EReal.coe_ne_bot _) (EReal.coe_ne_top _)).1
  refine ⟨f, _, _, _, hf, rfl, rfl, hfinite, exactValue?_nextInteger, hbound, ?_, ?_⟩
  · exact (check_number_iff hf rfl hrounded).2 (allowsValue_nextInteger hrounded)
  · rw [EReal.coe_lt_coe_iff, Int.cast_lt]
    decide

theorem check_number_rounded_next :
    ∃ (f : Field) (v r : EReal), ofConfig "f" longConfig = .ok f ∧ longConfig.fieldType = .number ∧
      nextInteger.exactValue? = some v ∧ Decimal.exactValue? nextInteger.toFloat = some r ∧
      Decimal.IsNearest (9007199254740993 : Int) nextInteger.toFloat ∧ longConfig.AllowsValue r ∧
      f.check DateFormat.january (.number nextInteger) = .ok () := by
  have hfield : ∃ f, ofConfig "f" longConfig = .ok f := ⟨_, rfl⟩
  obtain ⟨f, hf⟩ := hfield
  obtain ⟨r, hr, hnearest, hiff, -⟩ :=
    @check_number_rounded "f" longConfig f DateFormat.january nextInteger _ hf rfl
      exactValue?_nextInteger
  have hallowed := allowsValue_nextInteger hr
  exact ⟨f, _, r, hf, rfl, exactValue?_nextInteger, hr, hnearest _ rfl, hallowed, hiff.2 hallowed⟩

end Field
end WorkItems
