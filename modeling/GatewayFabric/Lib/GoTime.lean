/-
Go's `time.ParseDuration`, with the `int64` arithmetic of a `time.Duration`.

A duration is an optional sign and a sequence of decimal numbers, each with
an optional fraction and a unit: "300ms", "-1.5h", "2h45m". The parser reads
number after number, refusing an integer part past `1<<63`, and adds each in
nanoseconds to a `uint64` total; the fraction of a number goes through
binary64 arithmetic. The total with the sign is the `int64` duration. Only
"0" may go without a unit.

An `int64` or a `uint64` is an integer here, with `wrap64` or `% 2^64` where
the source's operation can overflow: the total is a `uint64` sum, so two
numbers of `1<<63` nanoseconds wrap it to zero. The parser tests only ASCII
bytes, which never occur inside the UTF-8 encoding of another character, so
it is read over characters.

`parseDuration_digits_unit`: digits and a unit give their product;
`parseDuration_digits`: digits alone are refused, "0" apart.
-/
import Mathlib.Algebra.Group.Int.Defs
import Mathlib.Data.List.TakeDrop
import GatewayFabric.Lib.Binary64

namespace GatewayFabric.GoTime

open Binary64

/-! ## int64 -/

/-- The `int64` of an integer, two's complement. -/
def wrap64 (x : Int) : Int := (x + 2 ^ 63) % 2 ^ 64 - 2 ^ 63

theorem wrap64_of_mem {x : Int} (h0 : -2 ^ 63 ≤ x) (h1 : x < 2 ^ 63) : wrap64 x = x := by
  unfold wrap64
  omega

theorem wrap64_mem (x : Int) : -2 ^ 63 ≤ wrap64 x ∧ wrap64 x < 2 ^ 63 := by
  unfold wrap64
  omega

/-! ## ParseDuration -/

def nanosecond : Nat := 1
def microsecond : Nat := 1000 * nanosecond
def millisecond : Nat := 1000 * microsecond
def second : Nat := 1000 * millisecond
def minute : Nat := 60 * second
def hour : Nat := 60 * minute

theorem millisecond_eq : millisecond = 1000000 := rfl

theorem second_eq : second = 1000000000 := rfl

theorem hour_eq : hour = 3600000000000 := rfl

/-- `unitMap`: the length of each unit in nanoseconds. -/
def unitMap : List (String × Nat) :=
  [("ns", nanosecond), ("us", microsecond), ("µs", microsecond), ("μs", microsecond),
    ("ms", millisecond), ("s", second), ("m", minute), ("h", hour)]

/-- A character as `quote` writes it: `"` and `\` escaped, a control or
non-ASCII character as the `\xhh` of each of its UTF-8 bytes. -/
def quoteChar (c : Char) : List Char :=
  if c.toNat ≥ 0x80 ∨ c < ' ' then
    (String.utf8EncodeChar c).flatMap fun b =>
      ['\\', 'x', Nat.digitChar (b.toNat / 16), Nat.digitChar (b.toNat % 16)]
  else if c = '"' ∨ c = '\\' then ['\\', c]
  else [c]

/-- `quote`: the string in double quotes, as the errors show it. -/
def quote (s : String) : String := String.ofList ('"' :: s.toList.flatMap quoteChar ++ ['"'])

def invalidDuration (orig : String) : String := "time: invalid duration " ++ quote orig

/-- `x*10 + uint64(c) - '0'`. -/
def digitStep (x : Nat) (c : Char) : Nat := x * 10 + (c.toNat - '0'.toNat)

/-- `leadingInt`: the leading `[0-9]*` of the characters after `x`, and the
rest; none once the value passes `1<<63`. -/
def leadingInt (x : Nat) : List Char → Option (Nat × List Char)
  | [] => some (x, [])
  | c :: s =>
    if !c.isDigit then some (x, c :: s)
    else if x > 2 ^ 63 / 10 then none
    else if digitStep x c > 2 ^ 63 then none
    else leadingInt (digitStep x c) s

/-- `leadingFraction`: the leading `[0-9]*` as the fraction `x / scale`, and
the rest; once the value would pass `1<<63` the digits are consumed but no
longer taken. -/
def leadingFraction (x : Nat) (scale : F64) (overflow : Bool) : List Char → Nat × F64 × List Char
  | [] => (x, scale, [])
  | c :: s =>
    if !c.isDigit then (x, scale, c :: s)
    else if overflow then leadingFraction x scale true s
    else if x > (2 ^ 63 - 1) / 10 then leadingFraction x scale true s
    else if digitStep x c > 2 ^ 63 then leadingFraction x scale true s
    else leadingFraction (digitStep x c) (F64.mul scale (F64.ofInt 10)) false s

/-- A number of a duration, `[0-9]*(\.[0-9]*)?`, and what follows it. -/
structure Number where
  /-- the integer part -/
  v : Nat
  /-- the fraction is `f / scale` -/
  f : Nat
  scale : F64
  /-- whether a digit was read, before the period or after it -/
  digits : Bool
  rest : List Char

/-- The number at the start of `s`; none when its integer part overflows. -/
def leadingNumber (s : List Char) : Option Number :=
  (leadingInt 0 s).map fun (v, s₁) =>
    let pre := s₁.length != s.length
    match s₁ with
    | '.' :: t =>
      let (f, scale, t₁) := leadingFraction 0 (F64.ofInt 1) false t
      { v, f, scale, digits := pre || t₁.length != t.length, rest := t₁ }
    | _ => { v, f := 0, scale := F64.ofInt 1, digits := pre, rest := s₁ }

/-- A character of a unit: neither `.` nor a digit. -/
def isUnitChar (c : Char) : Bool := !(c == '.' || c.isDigit)

/-- `v += uint64(float64(f) * (float64(unit) / scale))` for a fraction
`f > 0`; none past `1<<63`. -/
def addFraction (v f : Nat) (scale : F64) (unit : Nat) : Option Nat :=
  if f > 0 then
    let v := v + F64.truncNat (F64.mul (F64.ofInt f) (F64.div (F64.ofInt unit) scale))
    if v > 2 ^ 63 then none else some v
  else some v

theorem length_leadingInt {x v : Nat} {s r : List Char} (h : leadingInt x s = some (v, r)) :
    r.length ≤ s.length := by
  induction s generalizing x with
  | nil =>
    cases h
    exact Nat.le_refl _
  | cons c s ih =>
    unfold leadingInt at h
    split at h
    · cases h
      exact Nat.le_refl _
    · split at h
      · cases h
      · split at h
        · cases h
        · exact Nat.le_succ_of_le (ih h)

theorem length_leadingFraction (x : Nat) (scale : F64) (overflow : Bool) (s : List Char) :
    (leadingFraction x scale overflow s).2.2.length ≤ s.length := by
  induction s generalizing x scale overflow with
  | nil => exact Nat.le_refl _
  | cons c s ih =>
    unfold leadingFraction
    split
    · exact Nat.le_refl _
    · split
      · exact Nat.le_succ_of_le (ih _ _ _)
      · split
        · exact Nat.le_succ_of_le (ih _ _ _)
        · split
          · exact Nat.le_succ_of_le (ih _ _ _)
          · exact Nat.le_succ_of_le (ih _ _ _)

theorem length_rest_of_leadingNumber {s : List Char} {n : Number} (h : leadingNumber s = some n) :
    n.rest.length ≤ s.length := by
  unfold leadingNumber at h
  obtain ⟨⟨v, s₁⟩, hint, rfl⟩ := Option.map_eq_some_iff.1 h
  have hs₁ := length_leadingInt hint
  dsimp only
  split
  · rename_i t
    show (leadingFraction 0 (F64.ofInt 1) false t).2.2.length ≤ s.length
    have := length_leadingFraction 0 (F64.ofInt 1) false t
    simp only [List.length_cons] at hs₁
    omega
  · exact hs₁

-- `hn`, `hu` and `hu0` are read by the termination proof only
set_option linter.unusedVariables false in
/-- The loop `for s != ""`: each number of `s` in its unit, added to the
total `d`. -/
def addNumbers (orig : String) (d : Nat) (s : List Char) : Except String Nat :=
  match s with
  | [] => .ok d
  | c :: cs =>
    if isUnitChar c then .error (invalidDuration orig) else
    match hn : leadingNumber (c :: cs) with
    | none => .error (invalidDuration orig)
    | some n =>
      if !n.digits then .error (invalidDuration orig) else
      match hu : n.rest.span isUnitChar with
      | (u, rest) =>
        if hu0 : u = [] then .error ("time: missing unit in duration " ++ quote orig) else
        match unitMap.lookup (String.ofList u) with
        | none => .error ("time: unknown unit " ++ quote (String.ofList u) ++ " in duration " ++ quote orig)
        | some unit =>
          if n.v > 2 ^ 63 / unit then .error (invalidDuration orig) else
          match addFraction (n.v * unit) n.f n.scale unit with
          | none => .error (invalidDuration orig)
          | some v =>
            if (d + v) % 2 ^ 64 > 2 ^ 63 then .error (invalidDuration orig)
            else addNumbers orig ((d + v) % 2 ^ 64) rest
termination_by s.length
decreasing_by
  have hrest := length_rest_of_leadingNumber hn
  have hsplit : n.rest = u ++ rest := by
    rw [List.span_eq_takeWhile_dropWhile] at hu
    cases hu
    exact List.takeWhile_append_dropWhile.symm
  have hlen : rest.length < n.rest.length := by
    rw [hsplit, List.length_append]
    have := List.length_pos_iff.2 hu0
    omega
  omega

/-- `ParseDuration`. -/
def parseDuration (orig : String) : Except String Int :=
  let (neg, s) : Bool × List Char :=
    match orig.toList with
    | c :: s => if c = '-' ∨ c = '+' then (c = '-', s) else (false, c :: s)
    | [] => (false, [])
  if s = ['0'] then .ok 0
  else if s = [] then .error (invalidDuration orig)
  else
    (addNumbers orig 0 s).bind fun d =>
      if neg then .ok (wrap64 (-wrap64 d))
      else if d > 2 ^ 63 - 1 then .error (invalidDuration orig)
      else .ok d

/-! ## Whole numbers -/

theorem le_foldl_digitStep (x : Nat) (ds : List Char) : x ≤ ds.foldl digitStep x := by
  induction ds generalizing x with
  | nil => exact Nat.le_refl x
  | cons c ds ih => exact Nat.le_trans (by unfold digitStep; omega) (ih (digitStep x c))

/-- Digits followed by anything but a digit are read whole. -/
theorem leadingInt_digits {x : Nat} {ds r : List Char} (hds : ∀ c ∈ ds, c.isDigit = true)
    (hr : ∀ c ∈ r.head?, c.isDigit = false) (hb : ds.foldl digitStep x ≤ 2 ^ 63 / 10) :
    leadingInt x (ds ++ r) = some (ds.foldl digitStep x, r) := by
  induction ds generalizing x with
  | nil =>
    cases r with
    | nil => rfl
    | cons c r => simp [leadingInt, hr c rfl]
  | cons c ds ih =>
    obtain ⟨hc, hds⟩ := List.forall_mem_cons.1 hds
    have hstep := le_foldl_digitStep (digitStep x c) ds
    have hx : x ≤ digitStep x c := by unfold digitStep; omega
    rw [List.foldl_cons] at hb ⊢
    rw [List.cons_append, leadingInt, if_neg (by simp [hc]), if_neg (by omega), if_neg (by omega)]
    exact ih hds hb

theorem digit_le_nine {c : Char} (h : c.isDigit = true) : c.toNat - '0'.toNat ≤ 9 := by
  simp only [Char.isDigit, Bool.and_eq_true, decide_eq_true_eq] at h
  have h57 : c.toNat ≤ 57 := by simpa [UInt32.le_iff_toNat_le] using h.2
  have h48 : '0'.toNat = 48 := rfl
  omega

/-- `n` digits after `x` are below `x + 1` followed by `n` zeros. -/
theorem foldl_digitStep_lt {ds : List Char} (hds : ∀ c ∈ ds, c.isDigit = true) (x : Nat) :
    ds.foldl digitStep x < (x + 1) * 10 ^ ds.length := by
  induction ds generalizing x with
  | nil => simp
  | cons c ds ih =>
    obtain ⟨hc, hds⟩ := List.forall_mem_cons.1 hds
    have hstep : digitStep x c + 1 ≤ (x + 1) * 10 := by
      have := digit_le_nine hc
      unfold digitStep
      omega
    have hrest := ih hds (digitStep x c)
    rw [List.foldl_cons, List.length_cons, Nat.pow_succ]
    calc ds.foldl digitStep (digitStep x c) < (digitStep x c + 1) * 10 ^ ds.length := hrest
      _ ≤ (x + 1) * 10 * 10 ^ ds.length := Nat.mul_le_mul_right _ hstep
      _ = (x + 1) * (10 ^ ds.length * 10) := by rw [Nat.mul_comm (10 ^ ds.length) 10, Nat.mul_assoc]

/-- The decimal digits of a number, as `toString` writes them, are read back
as the number. -/
theorem foldl_digitStep_toDigits (v : Nat) : (Nat.toDigits 10 v).foldl digitStep 0 = v := by
  have hstep : digitStep = fun x c => 10 * x + (c.toNat - '0'.toNat) := by
    funext x c
    rw [digitStep, Nat.mul_comm]
  rw [hstep]
  exact Nat.ofDigitChars_ten_toDigits

theorem not_isDigit_of_isUnitChar {c : Char} (h : isUnitChar c = true) : c.isDigit = false := by
  simp only [isUnitChar, Bool.not_eq_true', Bool.or_eq_false_iff] at h
  exact h.2

theorem isUnitChar_of_isDigit {c : Char} (h : c.isDigit = true) : isUnitChar c = false := by
  simp [isUnitChar, h]

/-- A digit is no sign. -/
theorem not_sign_of_isDigit {c : Char} (h : c.isDigit = true) : ¬ (c = '-' ∨ c = '+') := by
  rintro (rfl | rfl) <;> simp at h

/-- A whole number followed by a unit, or by nothing. -/
theorem leadingNumber_digits {ds r : List Char} (hne : ds ≠ []) (hds : ∀ c ∈ ds, c.isDigit = true)
    (hr : ∀ c ∈ r.head?, isUnitChar c = true) (hb : ds.foldl digitStep 0 ≤ 2 ^ 63 / 10) :
    leadingNumber (ds ++ r) =
      some { v := ds.foldl digitStep 0, f := 0, scale := F64.ofInt 1, digits := true, rest := r } := by
  have hint := leadingInt_digits hds (fun c hc => not_isDigit_of_isUnitChar (hr c hc)) hb
  have hlen : (r.length != (ds ++ r).length) = true := by
    have := List.length_pos_iff.2 hne
    simp only [List.length_append, bne_iff_ne, ne_eq]
    omega
  unfold leadingNumber
  rw [hint, Option.map_some]
  dsimp only
  split
  · have hdot := hr '.' rfl
    simp [isUnitChar] at hdot
  · rw [hlen]

theorem span_unit {u rest : List Char} (hu : ∀ c ∈ u, isUnitChar c = true)
    (hrest : ∀ c ∈ rest.head?, isUnitChar c = false) : (u ++ rest).span isUnitChar = (u, rest) := by
  have hstop : rest.takeWhile isUnitChar = [] ∧ rest.dropWhile isUnitChar = rest := by
    cases rest with
    | nil => exact ⟨rfl, rfl⟩
    | cons c rest => simp [hrest c rfl]
  rw [List.span_eq_takeWhile_dropWhile, List.takeWhile_append_of_pos hu, List.dropWhile_append_of_pos hu,
    hstop.1, hstop.2, List.append_nil]

/-- A whole number and its unit are added to the total. -/
theorem addNumbers_digits_unit {orig : String} {d unit : Nat} {ds u rest : List Char} (hne : ds ≠ [])
    (hds : ∀ c ∈ ds, c.isDigit = true) (hb : ds.foldl digitStep 0 ≤ 2 ^ 63 / 10) (hu : u ≠ [])
    (hunit : ∀ c ∈ u, isUnitChar c = true) (hrest : ∀ c ∈ rest.head?, isUnitChar c = false)
    (hlookup : unitMap.lookup (String.ofList u) = some unit) (hv : ds.foldl digitStep 0 ≤ 2 ^ 63 / unit)
    (hd : d + ds.foldl digitStep 0 * unit ≤ 2 ^ 63) :
    addNumbers orig d (ds ++ (u ++ rest)) = addNumbers orig (d + ds.foldl digitStep 0 * unit) rest := by
  obtain ⟨c, ds', rfl⟩ := List.exists_cons_of_ne_nil hne
  have hc := isUnitChar_of_isDigit (hds c List.mem_cons_self)
  have hhead : ∀ c ∈ (u ++ rest).head?, isUnitChar c = true := by
    obtain ⟨b, u', rfl⟩ := List.exists_cons_of_ne_nil hu
    intro c' hc'
    simp only [List.cons_append, List.head?_cons, Option.mem_def, Option.some.injEq] at hc'
    exact hc' ▸ hunit b List.mem_cons_self
  have hnum := leadingNumber_digits hne hds hhead hb
  have hmod : (d + (c :: ds').foldl digitStep 0 * unit) % 2 ^ 64 = d + (c :: ds').foldl digitStep 0 * unit := by
    omega
  rw [List.cons_append, addNumbers]
  simp only [hc, Bool.false_eq_true, if_false]
  split
  · rename_i heq
    rw [← List.cons_append, hnum] at heq
    cases heq
  · rename_i n heq
    rw [← List.cons_append, hnum] at heq
    cases heq
    simp only [Bool.not_true, Bool.false_eq_true, if_false]
    rw [span_unit hunit hrest]
    simp only [hu, dite_false, hlookup, addFraction, Nat.lt_irrefl, if_false, Nat.not_lt.2 hv]
    rw [hmod, if_neg (by omega)]

/-- Digits followed by nothing lack a unit. -/
theorem addNumbers_digits {orig : String} {d : Nat} {ds : List Char} (hne : ds ≠ [])
    (hds : ∀ c ∈ ds, c.isDigit = true) (hb : ds.foldl digitStep 0 ≤ 2 ^ 63 / 10) :
    addNumbers orig d ds = .error ("time: missing unit in duration " ++ quote orig) := by
  obtain ⟨c, ds', rfl⟩ := List.exists_cons_of_ne_nil hne
  have hc := isUnitChar_of_isDigit (hds c List.mem_cons_self)
  have hnum := @leadingNumber_digits (c :: ds') [] hne hds (fun c hc => by simp at hc) hb
  rw [List.append_nil] at hnum
  rw [addNumbers]
  simp only [hc, Bool.false_eq_true, if_false]
  split
  · rename_i heq
    rw [hnum] at heq
    cases heq
  · rename_i n heq
    rw [hnum] at heq
    cases heq
    simp

theorem addNumbers_nil (orig : String) (d : Nat) : addNumbers orig d [] = .ok d := by
  rw [addNumbers]

theorem pos_of_lookup_unitMap {u : String} {unit : Nat} (h : unitMap.lookup u = some unit) : 0 < unit := by
  obtain ⟨l₁, l₂, hl, -⟩ := List.lookup_eq_some_iff.1 h
  have hpos : ∀ p ∈ unitMap, 0 < p.2 := by decide
  exact hpos (u, unit) (hl ▸ List.mem_append_right l₁ List.mem_cons_self)

/-- A whole number with a unit is its product with the unit. -/
theorem parseDuration_digits_unit {s : String} {ds u : List Char} {unit : Nat} (hs : s.toList = ds ++ u)
    (hne : ds ≠ []) (hds : ∀ c ∈ ds, c.isDigit = true) (hb : ds.foldl digitStep 0 ≤ 2 ^ 63 / 10)
    (hu : u ≠ []) (hunit : ∀ c ∈ u, isUnitChar c = true) (hlookup : unitMap.lookup (String.ofList u) = some unit)
    (hv : ds.foldl digitStep 0 * unit < 2 ^ 63) : parseDuration s = .ok (ds.foldl digitStep 0 * unit : Nat) := by
  obtain ⟨c, ds', rfl⟩ := List.exists_cons_of_ne_nil hne
  have hsign := not_sign_of_isDigit (hds c List.mem_cons_self)
  have hlong : c :: (ds' ++ u) ≠ ['0'] := by
    obtain ⟨b, u', rfl⟩ := List.exists_cons_of_ne_nil hu
    simp
  have hvu : (c :: ds').foldl digitStep 0 ≤ 2 ^ 63 / unit :=
    (Nat.le_div_iff_mul_le (pos_of_lookup_unitMap hlookup)).2 (by omega)
  have hloop := @addNumbers_digits_unit s 0 unit (c :: ds') u [] hne hds hb hu hunit
    (fun c hc => by simp at hc) hlookup hvu (by rw [Nat.zero_add]; exact Nat.le_of_lt hv)
  rw [List.append_nil, Nat.zero_add, addNumbers_nil, List.cons_append] at hloop
  unfold parseDuration
  rw [hs, List.cons_append]
  simp only [if_neg hsign, if_neg hlong, List.cons_ne_nil, if_false, hloop, Except.bind, Bool.false_eq_true]
  rw [if_neg (Nat.not_lt.2 (Nat.le_sub_one_of_lt hv))]

/-- A whole number without a unit is refused, "0" apart. -/
theorem parseDuration_digits {s : String} {ds : List Char} (hs : s.toList = ds) (hne : ds ≠ [])
    (hds : ∀ c ∈ ds, c.isDigit = true) (hb : ds.foldl digitStep 0 ≤ 2 ^ 63 / 10) (h0 : ds ≠ ['0']) :
    parseDuration s = .error ("time: missing unit in duration " ++ quote s) := by
  obtain ⟨c, ds', rfl⟩ := List.exists_cons_of_ne_nil hne
  have hsign := not_sign_of_isDigit (hds c List.mem_cons_self)
  unfold parseDuration
  rw [hs]
  simp only [if_neg hsign, if_neg h0, List.cons_ne_nil, if_false, addNumbers_digits hne hds hb, Except.bind]

/-- Every duration is an `int64`. -/
theorem parseDuration_mem {s : String} {td : Int} (h : parseDuration s = .ok td) : -2 ^ 63 ≤ td ∧ td < 2 ^ 63 := by
  unfold parseDuration at h
  split at h
  rename_i neg rest _
  split at h
  · cases h
    omega
  · split at h
    · cases h
    · cases hloop : addNumbers s 0 rest with
      | error e =>
        rw [hloop] at h
        cases h
      | ok d =>
        rw [hloop] at h
        simp only [Except.bind] at h
        split at h
        · rw [← Except.ok.inj h]
          exact wrap64_mem _
        · split at h
          · cases h
          · cases h
            omega

end GatewayFabric.GoTime
