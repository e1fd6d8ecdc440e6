/-
`HTTPDurationValidator.validateDurationCanBeConvertedToNginxFormat`: a
duration of the Gateway API as NGINX writes one, one to four digits and a
unit.

An input already in the NGINX format (`durationStringFmt`) is returned as it
is. Any other goes through `time.ParseDuration`; a positive duration is
rounded up to whole milliseconds, and then up to the first of the units
`ms`, `s`, `m` and `h` in which it has one to four digits.

`NginxForm d v u` states these rules for `d` nanoseconds. Off the fast path
the validator follows them (`validateDuration_slow_path`). The fast path
returns its input also where the rules would not
(`validateDuration_fast_path`): a zero, a number without a unit, which
`ParseDuration` refuses (`parseDuration_of_durationFmt`), or a number in a
larger unit than the first that fits. It agrees with the rules exactly on
the inputs with a unit, no leading zero, and no smaller unit that fits
(`fast_path_agrees_with_rules_iff`).
-/
import GatewayFabric.Validation
import GatewayFabric.Lib.GoTime
import GatewayFabric.Lib.FirstFit

namespace GatewayFabric.Validation

open GoTime FirstFit

/-! ## The NGINX format -/

/-- `(ms|s|m|h)?` to the end. -/
def isDurationSuffix (s : List Char) : Bool := s ∈ [[], ['m', 's'], ['s'], ['m'], ['h']]

/-- Up to `n` more digits, then `(ms|s|m|h)?`. No unit starts with a digit,
so the digits are taken while they come. -/
def matchesDigitsThenSuffix : Nat → List Char → Bool
  | n + 1, c :: s => if c.isDigit then matchesDigitsThenSuffix n s else isDurationSuffix (c :: s)
  | _, s => isDurationSuffix s

/-- `durationStringFmtRegexp`, `^^[0-9]{1,4}(ms|s|m|h)?$`, whose `$` is the
end of the text. -/
def matchesDurationStringFmt : List Char → Bool
  | c :: s => c.isDigit && matchesDigitsThenSuffix 3 s
  | [] => false

theorem matchesDigitsThenSuffix_zero (s : List Char) : matchesDigitsThenSuffix 0 s = isDurationSuffix s := by
  cases s <;> rfl

theorem isDigit_of_isDurationSuffix {c : Char} {s : List Char} (h : isDurationSuffix (c :: s) = true) :
    c.isDigit = false := by
  simp only [isDurationSuffix, decide_eq_true_eq, List.mem_cons, List.cons.injEq, List.not_mem_nil] at h
  rcases h with h | ⟨rfl, -⟩ | ⟨rfl, -⟩ | ⟨rfl, -⟩ | ⟨rfl, -⟩ | h <;> first | cases h | decide

theorem matchesDigitsThenSuffix_iff {n : Nat} {s : List Char} :
    matchesDigitsThenSuffix n s = true ↔
      ∃ ds u, s = ds ++ u ∧ ds.length ≤ n ∧ (∀ c ∈ ds, c.isDigit = true) ∧ isDurationSuffix u = true := by
  induction n generalizing s with
  | zero =>
    rw [matchesDigitsThenSuffix_zero]
    constructor
    · intro h
      exact ⟨[], s, rfl, Nat.le_refl 0, by simp, h⟩
    · rintro ⟨ds, u, rfl, hlen, -, hu⟩
      rw [List.eq_nil_of_length_eq_zero (Nat.le_zero.1 hlen), List.nil_append]
      exact hu
  | succ n ih =>
    cases s with
    | nil =>
      refine ⟨fun _ => ⟨[], [], rfl, Nat.zero_le _, by simp, by decide⟩, fun _ => rfl⟩
    | cons c s =>
      simp only [matchesDigitsThenSuffix]
      by_cases hc : c.isDigit = true
      · rw [if_pos hc, ih]
        constructor
        · rintro ⟨ds, u, rfl, hlen, hds, hu⟩
          exact ⟨c :: ds, u, rfl, by simpa using hlen, List.forall_mem_cons.2 ⟨hc, hds⟩, hu⟩
        · rintro ⟨ds, u, heq, hlen, hds, hu⟩
          cases ds with
          | nil =>
            rw [List.nil_append] at heq
            rw [← heq] at hu
            rw [isDigit_of_isDurationSuffix hu] at hc
            cases hc
          | cons d ds =>
            obtain ⟨rfl, rfl⟩ := List.cons.inj heq
            exact ⟨ds, u, rfl, by simpa using hlen, (List.forall_mem_cons.1 hds).2, hu⟩
      · rw [if_neg hc]
        constructor
        · intro h
          exact ⟨[], c :: s, rfl, Nat.zero_le _, by simp, h⟩
        · rintro ⟨ds, u, heq, -, hds, hu⟩
          cases ds with
          | nil =>
            rw [List.nil_append] at heq
            rw [heq]
            exact hu
          | cons d ds =>
            obtain ⟨rfl, -⟩ := List.cons.inj heq
            exact absurd (List.forall_mem_cons.1 hds).1 hc

/-- The strings of the NGINX format: one to four digits, then a unit or
nothing. -/
theorem matchesDurationStringFmt_iff {s : List Char} :
    matchesDurationStringFmt s = true ↔
      ∃ ds u, s = ds ++ u ∧ ds ≠ [] ∧ ds.length ≤ 4 ∧ (∀ c ∈ ds, c.isDigit = true) ∧
        isDurationSuffix u = true := by
  cases s with
  | nil =>
    simp only [matchesDurationStringFmt, Bool.false_eq_true, false_iff, not_exists, not_and]
    intro ds u heq hne
    exact absurd (List.append_eq_nil_iff.1 heq.symm).1 hne
  | cons c s =>
    simp only [matchesDurationStringFmt, Bool.and_eq_true, matchesDigitsThenSuffix_iff]
    constructor
    · rintro ⟨hc, ds, u, rfl, hlen, hds, hu⟩
      exact ⟨c :: ds, u, rfl, List.cons_ne_nil c ds, by simp only [List.length_cons]; omega,
        List.forall_mem_cons.2 ⟨hc, hds⟩, hu⟩
    · rintro ⟨ds, u, heq, hne, hlen, hds, hu⟩
      obtain ⟨d, ds, rfl⟩ := List.exists_cons_of_ne_nil hne
      obtain ⟨rfl, rfl⟩ := List.cons.inj heq
      obtain ⟨hd, hds⟩ := List.forall_mem_cons.1 hds
      exact ⟨hd, ds, u, rfl, by simp only [List.length_cons] at hlen; omega, hds, hu⟩

/-! ## The validator -/

/-- A unit of the NGINX format and its length in milliseconds. -/
structure NginxUnit where
  suffix : String
  step : Int
  deriving Repr, DecidableEq

def units : List NginxUnit := [⟨"ms", 1⟩, ⟨"s", 1000⟩, ⟨"m", 60 * 1000⟩, ⟨"h", 60 * 60 * 1000⟩]

def maxValue : Int := 9999

/-- `ceilDivision`: `(a + b - 1) / b` of `int64`s, the sum wrapping. -/
def ceilDivision (a b : Int) : Int := (wrap64 (a + b - 1)).tdiv b

/-- One unit of the loop over `units`: the output in `u`, if it has one to
four digits there. -/
def formatIn (totalMS : Int) (u : NginxUnit) : Option String :=
  let v := ceilDivision totalMS u.step
  if v ≥ 1 ∧ v ≤ maxValue then some (toString v ++ u.suffix) else none

/-- `out` after the loop over `units`, which stops at the first unit that
fits. -/
def formatInUnits (totalMS : Int) : String := (units.findSome? (formatIn totalMS)).getD ""

def validateDurationCanBeConvertedToNginxFormat (input : String) : Except ValidationError String :=
  if matchesDurationStringFmt input.toList then .ok input
  else
    match parseDuration input with
    | .error err => .error (.message ("invalid duration: " ++ err))
    | .ok td =>
      if td ≤ 0 then .error (.message "duration must be > 0")
      else
        let out := formatInUnits (ceilDivision td millisecond)
        if out = "" then
          .error (.message ("duration is too large for NGINX format (exceeds " ++ toString maxValue ++ "h)"))
        else if !matchesDurationStringFmt out.toList then
          .error (.message ("computed duration \"" ++ out ++ "\" does not match NGINX format"))
        else .ok out

def validateDuration (duration : String) : Except ValidationError String :=
  validateDurationCanBeConvertedToNginxFormat duration

/-! ## The conversion rules -/

/-- The ceiling of `a / b`. -/
def ceilDiv (a b : Nat) : Nat := (a + b - 1) / b

theorem ceilDiv_le_iff_le_mul {a b k : Nat} (hb : 0 < b) : ceilDiv a b ≤ k ↔ a ≤ k * b := by
  unfold ceilDiv
  constructor
  · intro h
    have hdm := Nat.div_add_mod' (a + b - 1) b
    have hr := Nat.mod_lt (a + b - 1) hb
    have hmul := Nat.mul_le_mul_right b h
    omega
  · intro h
    have hlt : a + b - 1 < (k + 1) * b := by
      rw [Nat.succ_mul]
      omega
    have := (Nat.div_lt_iff_lt_mul hb).2 hlt
    omega

theorem ceilDiv_mul_lt {a b : Nat} (hb : 0 < b) : ceilDiv a b * b < a + b := by
  have hbelow : ¬ ceilDiv a b ≤ ceilDiv a b - 1 ∨ ceilDiv a b = 0 := by omega
  rcases hbelow with hbelow | hzero
  · rw [ceilDiv_le_iff_le_mul hb, Nat.sub_one_mul] at hbelow
    omega
  · rw [hzero, Nat.zero_mul]
    omega

theorem one_le_ceilDiv {a b : Nat} (hb : 0 < b) : 1 ≤ ceilDiv a b ↔ 0 < a := by
  have := @ceilDiv_le_iff_le_mul a b 0 hb
  omega

/-- `d` nanoseconds, rounded up to whole milliseconds and then to `u`, have
one to four digits. -/
def Fits (d : Nat) (u : NginxUnit) : Prop :=
  1 ≤ ceilDiv (ceilDiv d millisecond) u.step.toNat ∧ ceilDiv (ceilDiv d millisecond) u.step.toNat ≤ 9999

instance (d : Nat) (u : NginxUnit) : Decidable (Fits d u) := inferInstanceAs (Decidable (_ ∧ _))

/-- The conversion rules for `d` nanoseconds: `v` of the first unit in which
they have one to four digits. -/
structure NginxForm (d v : Nat) (u : NginxUnit) : Prop where
  mem : u ∈ units
  value : v = ceilDiv (ceilDiv d millisecond) u.step.toNat
  fits : Fits d u
  smallest : ∀ u' ∈ units, u'.step < u.step → ¬ Fits d u'

theorem step_mem_units : ∀ u ∈ units, 0 < u.step ∧ u.step ≤ 60 * 60 * 1000 := by decide

theorem units_sorted : units.Pairwise fun a b => a.step < b.step := by decide

theorem eq_of_step_eq : ∀ u ∈ units, ∀ u' ∈ units, u.step = u'.step → u = u' := by decide

theorem suffix_mem_units : ∀ u ∈ units, isDurationSuffix u.suffix.toList = true ∧ u.suffix ≠ "" := by decide

/-- The rules give one form to a duration. -/
theorem NginxForm.unique {d v v' : Nat} {u u' : NginxUnit} (h : NginxForm d v u) (h' : NginxForm d v' u') :
    v = v' ∧ u = u' := by
  have hstep : u.step = u'.step := by
    rcases Int.lt_trichotomy u.step u'.step with hlt | heq | hgt
    · exact absurd h.fits (h'.smallest u h.mem hlt)
    · exact heq
    · exact absurd h'.fits (h.smallest u' h'.mem hgt)
  have hu : u = u' := eq_of_step_eq u h.mem u' h'.mem hstep
  subst hu
  exact ⟨h.value.trans h'.value.symm, rfl⟩

theorem le_of_nginxForm {d v : Nat} {u : NginxUnit} (h : NginxForm d v u) : 0 < d ∧ d ≤ 9999 * hour := by
  have hstep := step_mem_units u h.mem
  have hpos : 0 < u.step.toNat := by omega
  have hms : 0 < millisecond := by decide
  obtain ⟨hlo, hhi⟩ := h.fits
  have hd : 0 < d := (one_le_ceilDiv hms).1 ((one_le_ceilDiv hpos).1 hlo)
  rw [ceilDiv_le_iff_le_mul hpos, ceilDiv_le_iff_le_mul hms] at hhi
  have hle : 9999 * u.step.toNat ≤ 9999 * (60 * 60 * 1000) := Nat.mul_le_mul_left 9999 (by omega)
  rw [hour_eq]
  rw [millisecond_eq] at hhi
  omega

/-! ## The loop over the units -/

theorem ceilDivision_of_nat {a b : Nat} (hb : 0 < b) (h : a + b ≤ 2 ^ 63) :
    ceilDivision a b = (ceilDiv a b : Nat) := by
  unfold ceilDivision ceilDiv
  have hsum : ((a + b - 1 : Nat) : Int) = (a : Int) + b - 1 := by omega
  rw [wrap64_of_mem (by omega) (by omega), Int.tdiv_eq_ediv_of_nonneg (by omega), ← hsum, Int.natCast_ediv]

/-- Below zero no unit fits. -/
theorem ceilDivision_lt_one {a b : Int} (ha : a ≤ 0) (ha' : -2 ^ 62 ≤ a) (hb : 0 < b) (hb' : b < 2 ^ 62) :
    ceilDivision a b < 1 := by
  unfold ceilDivision
  rw [wrap64_of_mem (by omega) (by omega)]
  rcases Int.le_total 0 (a + b - 1) with h | h
  · rw [Int.tdiv_eq_ediv_of_nonneg h]
    exact (Int.ediv_lt_iff_lt_mul hb).2 (by omega)
  · have hneg : (-(a + b - 1)).tdiv b ≥ 0 := Int.tdiv_nonneg (by omega) (by omega)
    rw [Int.neg_tdiv] at hneg
    omega

theorem formatIn_of_nat {t : Nat} (ht : t < 2 ^ 62) {u : NginxUnit} (hu : u ∈ units) :
    formatIn t u =
      if 1 ≤ ceilDiv t u.step.toNat ∧ ceilDiv t u.step.toNat ≤ 9999 then
        some (toString (ceilDiv t u.step.toNat) ++ u.suffix)
      else none := by
  have hstep := step_mem_units u hu
  have hcast : u.step = (u.step.toNat : Int) := by omega
  unfold formatIn maxValue
  rw [hcast, ceilDivision_of_nat (by omega) (by omega), ← hcast]
  simp only [ge_iff_le]
  split
  · rw [if_pos (by omega)]
    rfl
  · rw [if_neg (by omega)]

theorem formatIn_of_nonpos {t : Int} (ht : t ≤ 0) (ht' : -2 ^ 62 ≤ t) {u : NginxUnit} (hu : u ∈ units) :
    formatIn t u = none := by
  have hstep := step_mem_units u hu
  have := ceilDivision_lt_one ht ht' hstep.1 (by omega)
  unfold formatIn
  rw [if_neg (by omega)]

/-- The milliseconds of an `int64` duration. -/
theorem ceilDiv_millisecond_lt {d : Nat} (hd : d < 2 ^ 63) : ceilDiv d millisecond < 2 ^ 62 := by
  have := ceilDiv_mul_lt (a := d) (b := millisecond) (by decide)
  rw [millisecond_eq] at *
  omega

/-- The loop stops at the unit the rules choose. -/
theorem findSome?_formatIn_iff {d : Nat} (hd : d < 2 ^ 63) {out : String} :
    units.findSome? (formatIn (ceilDiv d millisecond : Nat)) = some out ↔
      ∃ v u, NginxForm d v u ∧ out = toString v ++ u.suffix := by
  have hms := ceilDiv_millisecond_lt hd
  rw [findSome?_eq_some_iff_least units_sorted]
  constructor
  · rintro ⟨u, hu, hout, hleast⟩
    rw [formatIn_of_nat hms hu] at hout
    split at hout
    · rename_i hfits
      refine ⟨_, u, ⟨hu, rfl, hfits, fun u' hu' hlt hfits' => ?_⟩, (Option.some.inj hout).symm⟩
      have hnone := hleast u' hu' hlt
      unfold Fits at hfits'
      rw [formatIn_of_nat hms hu', if_pos hfits'] at hnone
      cases hnone
    · cases hout
  · rintro ⟨v, u, hform, rfl⟩
    refine ⟨u, hform.mem, ?_, fun u' hu' hlt => ?_⟩
    · have hfits := hform.fits
      unfold Fits at hfits
      rw [formatIn_of_nat hms hform.mem, if_pos hfits, hform.value]
    · have hnot := hform.smallest u' hu' hlt
      unfold Fits at hnot
      rw [formatIn_of_nat hms hu', if_neg hnot]

theorem formatInUnits_of_nginxForm {d v : Nat} {u : NginxUnit} (h : NginxForm d v u) :
    formatInUnits (ceilDivision d millisecond) = toString v ++ u.suffix := by
  have hd := (le_of_nginxForm h).2
  rw [hour_eq] at hd
  rw [ceilDivision_of_nat (by decide) (by rw [millisecond_eq]; omega)]
  unfold formatInUnits
  rw [(findSome?_formatIn_iff (by omega)).2 ⟨v, u, h, rfl⟩]
  rfl

theorem formatInUnits_of_not_nginxForm {d : Nat} (hd : d < 2 ^ 63) (h : ¬ ∃ v u, NginxForm d v u) :
    formatInUnits (ceilDivision d millisecond) = "" := by
  unfold formatInUnits
  by_cases hsum : d + millisecond ≤ 2 ^ 63
  · rw [ceilDivision_of_nat (by decide) hsum]
    cases hfind : units.findSome? (formatIn (ceilDiv d millisecond : Nat)) with
    | none => rfl
    | some out => exact absurd ((findSome?_formatIn_iff hd).1 hfind) (fun ⟨v, u, hform, _⟩ => h ⟨v, u, hform⟩)
  · rw [millisecond_eq] at hsum ⊢
    have hwrap : wrap64 ((d : Int) + ((1000000 : Nat) : Int) - 1) = -(2 ^ 64 + 1 - 1000000 - d) := by
      unfold wrap64
      omega
    have hneg : ceilDivision d (1000000 : Nat) ≤ 0 ∧ -2 ^ 62 ≤ ceilDivision d (1000000 : Nat) := by
      unfold ceilDivision
      rw [hwrap, Int.neg_tdiv, Int.tdiv_eq_ediv_of_nonneg (by omega)]
      omega
    rw [List.findSome?_eq_none_iff.2 fun u hu => formatIn_of_nonpos hneg.1 hneg.2 hu]
    rfl

/-- A duration of the rules' form is one in the NGINX format, so the final
check of the validator passes. -/
theorem matchesDurationStringFmt_of_nginxForm {d v : Nat} {u : NginxUnit} (h : NginxForm d v u) :
    matchesDurationStringFmt (toString v ++ u.suffix).toList = true := by
  have hv : v ≤ 9999 := h.value ▸ h.fits.2
  have hlen : (Nat.toDigits 10 v).length ≤ 4 := (Nat.length_toDigits_le_iff (by decide) (by decide)).2 (by omega)
  rw [matchesDurationStringFmt_iff]
  exact ⟨Nat.toDigits 10 v, u.suffix.toList, by simp [Nat.toString_eq_repr], Nat.toDigits_ne_nil, hlen,
    fun c hc => Nat.isDigit_of_mem_toDigits (by decide) (by decide) hc, (suffix_mem_units u h.mem).1⟩

/-- Off the fast path the validator follows the conversion rules: it
succeeds exactly when `ParseDuration` gives a duration `0 < d ≤ 9999h`, and
then returns the form the rules give it. -/
theorem validateDuration_slow_path {s out : String} (hs : matchesDurationStringFmt s.toList = false) :
    validateDurationCanBeConvertedToNginxFormat s = .ok out ↔
      ∃ d : Nat, parseDuration s = .ok d ∧ 0 < d ∧ d ≤ 9999 * hour ∧
        ∃ v u, NginxForm d v u ∧ out = toString v ++ u.suffix := by
  unfold validateDurationCanBeConvertedToNginxFormat
  simp only [hs, Bool.false_eq_true, if_false]
  cases hp : parseDuration s with
  | error err => simp
  | ok td =>
    dsimp only
    obtain ⟨-, hhi⟩ := parseDuration_mem hp
    by_cases h0 : td ≤ 0
    · simp only [if_pos h0, reduceCtorEq, false_iff, not_exists, not_and]
      intro d hd hpos
      have := Except.ok.inj hd
      omega
    · obtain ⟨d, rfl⟩ : ∃ d : Nat, td = d := ⟨td.toNat, by omega⟩
      rw [if_neg h0]
      by_cases hform : ∃ v u, NginxForm d v u
      · obtain ⟨v, u, h⟩ := hform
        have hne : toString v ++ u.suffix ≠ "" := by simp [(suffix_mem_units u h.mem).2]
        simp only [formatInUnits_of_nginxForm h, if_neg hne, matchesDurationStringFmt_of_nginxForm h,
          Bool.not_true, Bool.false_eq_true, if_false, Except.ok.injEq]
        constructor
        · rintro rfl
          exact ⟨d, rfl, (le_of_nginxForm h).1, (le_of_nginxForm h).2, v, u, h, rfl⟩
        · rintro ⟨d', hd', -, -, v', u', h', rfl⟩
          have hdd : d = d' := by omega
          subst hdd
          obtain ⟨rfl, rfl⟩ := h.unique h'
          rfl
      · simp only [formatInUnits_of_not_nginxForm (by omega) hform, if_true, reduceCtorEq, false_iff,
          not_exists, not_and]
        intro d' hd' _ _ v u h _
        have hdd : d = d' := by
          have := Except.ok.inj hd'
          omega
        subst hdd
        exact hform ⟨v, u, h⟩

/-- "10000s", five digits, is off the fast path: it is 167 minutes. -/
theorem validateDuration_10000s :
    matchesDurationStringFmt "10000s".toList = false ∧
      validateDurationCanBeConvertedToNginxFormat "10000s" = .ok "167m" := by
  have hfmt : matchesDurationStringFmt "10000s".toList = false := by decide
  refine ⟨hfmt, (validateDuration_slow_path hfmt).2 ⟨10000 * second, ?_, by decide, by decide, 167,
    ⟨"m", 60 * 1000⟩, ⟨by decide, by decide, by decide, by decide⟩, rfl⟩⟩
  exact @parseDuration_digits_unit "10000s" ['1', '0', '0', '0', '0'] ['s'] second rfl (by simp) (by simp)
    (by simp [digitStep]) (by simp) (by simp [isUnitChar]) (by decide) (by simp [digitStep, second_eq])

/-- Each unit of the NGINX format is one of `ParseDuration`, of at most an
hour. -/
theorem lookup_of_isDurationSuffix {u : List Char} (hu : isDurationSuffix u = true) (hne : u ≠ []) :
    (∀ c ∈ u, isUnitChar c = true) ∧ ∃ unit, unitMap.lookup (String.ofList u) = some unit ∧ unit ≤ hour := by
  simp only [isDurationSuffix, decide_eq_true_eq, List.mem_cons, List.not_mem_nil, or_false] at hu
  rcases hu with rfl | rfl | rfl | rfl | rfl
  · exact absurd rfl hne
  · exact ⟨by simp [isUnitChar], millisecond, by decide, by decide⟩
  · exact ⟨by simp [isUnitChar], second, by decide, by decide⟩
  · exact ⟨by simp [isUnitChar], minute, by decide, by decide⟩
  · exact ⟨by simp [isUnitChar], hour, by decide, Nat.le_refl _⟩

/-- How `ParseDuration` reads an input of the NGINX format, split into its
digits and its suffix: the number in its unit; a number without a unit it
refuses, but "0", which it reads as zero. -/
theorem parseDuration_of_durationFmt {s : String} {ds u : List Char} (hsplit : s.toList = ds ++ u)
    (hne : ds ≠ []) (hlen : ds.length ≤ 4) (hds : ∀ c ∈ ds, c.isDigit = true) (hu : isDurationSuffix u = true) :
    (u ≠ [] → ∃ unit, unitMap.lookup (String.ofList u) = some unit ∧
        parseDuration s = .ok (ds.foldl digitStep 0 * unit : Nat)) ∧
      (u = [] → ds = ['0'] → parseDuration s = .ok 0) ∧
      (u = [] → ds ≠ ['0'] → parseDuration s = .error ("time: missing unit in duration " ++ quote s)) := by
  have hval : ds.foldl digitStep 0 < 10000 := by
    have hlt := foldl_digitStep_lt hds 0
    have hpow : 10 ^ ds.length ≤ 10 ^ 4 := Nat.pow_le_pow_right (by decide) hlen
    omega
  refine ⟨fun hu0 => ?_, fun hu0 h0 => ?_, fun hu0 h0 => ?_⟩
  · obtain ⟨hunit, unit, hlookup, hle⟩ := lookup_of_isDurationSuffix hu hu0
    refine ⟨unit, hlookup, parseDuration_digits_unit hsplit hne hds (by omega) hu0 hunit hlookup ?_⟩
    have h₁ := Nat.mul_le_mul_right unit (Nat.le_of_lt_succ hval)
    have h₂ := Nat.mul_le_mul_left 9999 hle
    rw [hour_eq] at h₂
    omega
  · rw [hu0, h0] at hsplit
    unfold parseDuration
    rw [hsplit]
    rfl
  · rw [hu0, List.append_nil] at hsplit
    exact parseDuration_digits hsplit hne hds (by omega) h0

/-- The fast path returns its input as it is, whatever `ParseDuration`
makes of it. -/
theorem validateDuration_fast_path {s : String} (hs : matchesDurationStringFmt s.toList = true) :
    validateDurationCanBeConvertedToNginxFormat s = .ok s := by
  simp [validateDurationCanBeConvertedToNginxFormat, hs]

/-- The fast path returns "0s", a zero `ParseDuration` reads, and "5", a
number it refuses for its missing unit; it returns "120m" where the rules
give 7200 seconds. -/
theorem fast_path_returns_zero_and_unitless :
    validateDurationCanBeConvertedToNginxFormat "0s" = .ok "0s" ∧ parseDuration "0s" = .ok 0 ∧
      validateDurationCanBeConvertedToNginxFormat "5" = .ok "5" ∧
      parseDuration "5" = .error "time: missing unit in duration \"5\"" ∧
      validateDurationCanBeConvertedToNginxFormat "120m" = .ok "120m" ∧
      NginxForm (120 * minute) 7200 ⟨"s", 1000⟩ := by
  have hzero := @parseDuration_of_durationFmt "0s" ['0'] ['s'] rfl (by simp) (by simp) (by simp) (by decide)
  have hfive := @parseDuration_of_durationFmt "5" ['5'] [] rfl (by simp) (by simp) (by simp) (by decide)
  obtain ⟨unit, -, hparse⟩ := hzero.1 (by simp)
  refine ⟨validateDuration_fast_path (by decide), ?_, validateDuration_fast_path (by decide),
    (hfive.2.2 rfl (by decide)).trans (by decide), validateDuration_fast_path (by decide), ?_⟩
  · rw [hparse]
    simp [digitStep]
  · exact ⟨by decide, by decide, by decide, by decide⟩

/-! ## When the fast path follows the rules -/

/-- The digits at the start of a text, up to a character that is not one. -/
theorem takeWhile_isDigit_append {a b : List Char} (ha : ∀ c ∈ a, c.isDigit = true)
    (hb : ∀ c ∈ b.head?, c.isDigit = false) : (a ++ b).takeWhile Char.isDigit = a := by
  rw [List.takeWhile_append_of_pos ha]
  cases b with
  | nil => simp
  | cons c b => simp [hb c rfl]

/-- A text of digits and then a suffix that does not start with a digit
splits so in one way only. -/
theorem eq_of_digits_append_eq {a b c e : List Char} (ha : ∀ x ∈ a, x.isDigit = true)
    (hb : ∀ x ∈ b.head?, x.isDigit = false) (hc : ∀ x ∈ c, x.isDigit = true)
    (he : ∀ x ∈ e.head?, x.isDigit = false) (h : a ++ b = c ++ e) : a = c ∧ b = e := by
  have hac : a = c := by
    rw [← takeWhile_isDigit_append ha hb, h, takeWhile_isDigit_append hc he]
  subst hac
  exact ⟨rfl, List.append_cancel_left h⟩

theorem head_not_digit_of_isDurationSuffix {u : List Char} (hu : isDurationSuffix u = true) :
    ∀ c ∈ u.head?, c.isDigit = false := by
  cases u with
  | nil => simp
  | cons c u =>
    intro x hx
    rw [List.head?_cons, Option.mem_some_iff] at hx
    exact hx ▸ isDigit_of_isDurationSuffix hu

/-- The suffix of a unit of the NGINX format is the `ParseDuration` unit of
its length. -/
theorem lookup_suffix_of_mem_units :
    ∀ w ∈ units, unitMap.lookup w.suffix = some (w.step.toNat * millisecond) := by
  decide

theorem toList_toString_append (v : Nat) (w : NginxUnit) :
    (toString v ++ w.suffix).toList = Nat.toDigits 10 v ++ w.suffix.toList := by
  rw [String.toList_append, Nat.toString_eq_ofList_toDigits, String.toList_ofList]

/-- An input of the NGINX format is what the rules give for the duration
`ParseDuration` reads from it exactly when it has a unit, its number is
written without leading zeros, and that unit is the first in which the
number fits: "100s", but not "0100s", "1m" (`60s`) or "5s" (`5000ms`). -/
theorem fast_path_agrees_with_rules_iff {s : String} {ds u : List Char} (hsplit : s.toList = ds ++ u)
    (hne : ds ≠ []) (hlen : ds.length ≤ 4) (hds : ∀ c ∈ ds, c.isDigit = true) (hu : isDurationSuffix u = true) :
    (∃ d : Nat, parseDuration s = .ok d ∧ ∃ v w, NginxForm d v w ∧ s = toString v ++ w.suffix) ↔
      ∃ w ∈ units, u = w.suffix.toList ∧ ds = Nat.toDigits 10 (ds.foldl digitStep 0) ∧
        NginxForm (ds.foldl digitStep 0 * (w.step.toNat * millisecond)) (ds.foldl digitStep 0) w := by
  obtain ⟨hparse_unit, hparse_zero, hparse_none⟩ := parseDuration_of_durationFmt hsplit hne hlen hds hu
  constructor
  · rintro ⟨d, hd, v, w, hform, hs⟩
    have hu0 : u ≠ [] := by
      rintro rfl
      by_cases h0 : ds = ['0']
      · rw [hparse_zero rfl h0] at hd
        have := Except.ok.inj hd
        have := (le_of_nginxForm hform).1
        omega
      · rw [hparse_none rfl h0] at hd
        cases hd
    have hsv : ds ++ u = Nat.toDigits 10 v ++ w.suffix.toList := by
      rw [← hsplit, hs, toList_toString_append]
    obtain ⟨hdsv, huw⟩ := eq_of_digits_append_eq hds (head_not_digit_of_isDurationSuffix hu)
      (fun c hc => Nat.isDigit_of_mem_toDigits (by decide) (by decide) hc)
      (head_not_digit_of_isDurationSuffix (suffix_mem_units w hform.mem).1) hsv
    have hn : ds.foldl digitStep 0 = v := by rw [hdsv, foldl_digitStep_toDigits]
    obtain ⟨unit, hlookup, hparse⟩ := hparse_unit hu0
    rw [huw, String.ofList_toList, lookup_suffix_of_mem_units w hform.mem] at hlookup
    rw [hparse, ← Option.some.inj hlookup] at hd
    have hdn : d = v * (w.step.toNat * millisecond) := by
      have := Except.ok.inj hd
      rw [← hn]
      omega
    refine ⟨w, hform.mem, huw, by rw [hn]; exact hdsv, ?_⟩
    rw [hn, ← hdn]
    exact hform
  · rintro ⟨w, hw, rfl, hdsn, hform⟩
    have hu0 : w.suffix.toList ≠ [] := by
      rw [Ne, String.toList_eq_nil_iff]
      exact (suffix_mem_units w hw).2
    obtain ⟨unit, hlookup, hparse⟩ := hparse_unit hu0
    rw [String.ofList_toList, lookup_suffix_of_mem_units w hw] at hlookup
    refine ⟨_, hparse, ds.foldl digitStep 0, w, ?_, ?_⟩
    · rw [← Option.some.inj hlookup]
      exact hform
    · rw [← String.toList_inj, hsplit, toList_toString_append, ← hdsn]

/-- "100s" is what the rules give for 100 seconds. -/
theorem fast_path_100s_follows_rules :
    "100s".toList = ['1', '0', '0'] ++ ['s'] ∧ isDurationSuffix ['s'] = true ∧
      ∃ d : Nat, parseDuration "100s" = .ok d ∧ ∃ v w, NginxForm d v w ∧ "100s" = toString v ++ w.suffix :=
  ⟨rfl, by decide,
    (@fast_path_agrees_with_rules_iff "100s" ['1', '0', '0'] ['s'] rfl (by simp) (by simp) (by simp) (by decide)).2
      ⟨⟨"s", 1000⟩, by decide, rfl, by decide, by decide, by decide, by decide, by decide⟩⟩

end GatewayFabric.Validation
