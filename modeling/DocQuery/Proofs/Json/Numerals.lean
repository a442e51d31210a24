import Mathlib.Data.List.TakeWhile
import DocQuery.Evaluation.Literal
import DocQuery.Proofs.Decimal.Overflow
import DocQuery.Proofs.Lexing.WellFormed

/-!
Numerals of a query as JSON text. The tokeniser lets more through than JSON does, so a number token
denotes nothing exactly if its whole part has a superfluous zero in front, if it ends in the point,
or if it is too large (`numberLiteral_eq_error_iff`). Reading looks at the decimal that is left of
the numeral, with what does not fit 64 bits cut off. Far from the end of binary64 the decimal is as
good as the value (`overflows_bounds`), and near the end the cut always falls at the same place
(`keptDecimal_band`), so that too large is a matter of the value alone (`overflows_iff`).
-/

namespace DocQuery.Json

open DocQuery.Lexing

section Digits

/-- From the multiple of a place up to the next one. -/
def Within (value place number : Nat) : Prop :=
  value * place ≤ number ∧ number < (value + 1) * place

/-- The numbers differ by at most one part in `2 ^ 60`. -/
def Near (first second : Nat) : Prop :=
  2 ^ 60 * first ≤ (2 ^ 60 + 1) * second ∧ 2 ^ 60 * second ≤ (2 ^ 60 + 1) * first

variable {value place : Nat} {digits : List Char}

theorem within_multiple (pos : 0 < place) (value : Nat) : Within value place (value * place) :=
  ⟨Nat.le_refl _, Nat.mul_lt_mul_of_pos_right (Nat.lt_succ_self value) pos⟩

theorem Within.trans {inner innerPlace number : Nat} (outside : Within value place inner)
    (inside : Within inner innerPlace number) : Within value (place * innerPlace) number := by
  unfold Within
  rw [← mul_assoc, ← mul_assoc]
  exact ⟨(Nat.mul_le_mul_right innerPlace outside.1).trans inside.1,
    inside.2.trans_le (Nat.mul_le_mul_right innerPlace outside.2)⟩

theorem Near.refl (number : Nat) : Near number number := by
  unfold Near
  omega

/-- Behind a great value the two ends of a place are near to each other. -/
theorem near_of_within {first second : Nat} (great : 2 ^ 60 ≤ value)
    (left : Within value place first) (right : Within value place second) : Near first second := by
  have ends : ∀ {low high : Nat}, high < (value + 1) * place → value * place ≤ low →
      2 ^ 60 * high ≤ (2 ^ 60 + 1) * low := by
    intro low high most least
    calc 2 ^ 60 * high ≤ 2 ^ 60 * ((value + 1) * place) := Nat.mul_le_mul_left _ most.le
      _ = (2 ^ 60 * value + 2 ^ 60) * place := by ring
      _ ≤ (2 ^ 60 * value + value) * place := Nat.mul_le_mul_right _ (by omega)
      _ = (2 ^ 60 + 1) * (value * place) := by ring
      _ ≤ (2 ^ 60 + 1) * low := Nat.mul_le_mul_left _ least
  exact ⟨ends left.2 right.1, ends right.2 left.1⟩

theorem appendDigit_within {digit : Char} (isDigit : digit.isDigit = true) (value : Nat) :
    Within value 10 (appendDigit value digit) := by
  have range : 48 ≤ digit.toNat ∧ digit.toNat ≤ 57 := by
    simpa [Char.isDigit, UInt32.le_iff_toNat_le] using isDigit
  have zero : '0'.toNat = 48 := rfl
  unfold Within
  rw [appendDigit, zero]
  omega

theorem foldl_appendDigit_within (isDigits : ∀ c ∈ digits, c.isDigit = true) (value : Nat) :
    Within value (10 ^ digits.length) (digits.foldl appendDigit value) := by
  induction digits generalizing value with
  | nil => simp [Within]
  | cons digit rest ih =>
      have others := ih (fun c member => isDigits c (List.mem_cons_of_mem digit member))
        (appendDigit value digit)
      rw [List.foldl_cons, List.length_cons, pow_succ']
      exact (appendDigit_within (isDigits digit List.mem_cons_self) value).trans others

end Digits

namespace Numeral

section Scaled

/-- What `fill` makes of digits: those it kept, and a rest left only behind a great value. -/
theorem fill_cases (digits : List Char) {value : Nat} (small : value < 2 ^ 64)
    (isDigits : ∀ c ∈ digits, c.isDigit = true) :
    ∃ kept, digits = kept ++ (fill value digits).2 ∧
      (fill value digits).1 = kept.foldl appendDigit value ∧ (fill value digits).1 < 2 ^ 64 ∧
      ((fill value digits).2 = [] ∨ 2 ^ 64 ≤ 10 * (fill value digits).1 + 9) := by
  induction digits generalizing value with
  | nil => exact ⟨[], rfl, rfl, small, .inl rfl⟩
  | cons digit rest ih =>
      rw [fill]
      split
      next fits =>
        obtain ⟨kept, cut, filled, bounded, left⟩ :=
          ih fits (fun c mem => isDigits c (List.mem_cons_of_mem digit mem))
        exact ⟨digit :: kept, congrArg (digit :: ·) cut, filled, bounded, left⟩
      next exceeds =>
        have high := (appendDigit_within (isDigits digit List.mem_cons_self) value).2
        refine ⟨[], rfl, rfl, small, .inr ?_⟩
        show 2 ^ 64 ≤ 10 * value + 9
        omega

theorem fill_full (value : Nat) (full : 2 ^ 64 ≤ 10 * value) (digits : List Char) :
    fill value digits = (value, digits) := by
  cases digits with
  | nil => rfl
  | cons digit rest =>
      have exceeds : ¬ appendDigit value digit < 18446744073709551616 := by
        rw [appendDigit]
        omega
      rw [fill]
      exact if_neg exceeds

theorem natCast_of_zpow {digits places : Nat} {exponent : ℤ} {shift : Nat}
    (sum : exponent + places = shift) :
    (digits : ℚ) * 10 ^ exponent * 10 ^ places = (digits * 10 ^ shift : ℕ) := by
  rw [mul_assoc, ← zpow_natCast, ← zpow_add₀ (by norm_num), sum, zpow_natCast]
  push_cast
  rfl

variable {value : Nat}

/-- Digits that are left over count as zeros. -/
theorem near_of_leftover {rest : List Char} (isDigits : ∀ c ∈ rest, c.isDigit = true)
    (full : rest = [] ∨ 2 ^ 64 ≤ 10 * value + 9) :
    Near (value * 10 ^ rest.length) (rest.foldl appendDigit value) := by
  rcases full with rfl | full
  · rw [List.length_nil, pow_zero, mul_one, List.foldl_nil]
    exact .refl value
  · exact near_of_within (by omega) (within_multiple (Nat.pow_pos (by decide)) value)
      (foldl_appendDigit_within isDigits value)

/-- Digits that are kept behind others that are not stand in the wrong place. -/
theorem near_of_gap {left more rest : List Char} (full : 2 ^ 64 ≤ 10 * value + 9)
    (isDigits : ∀ c ∈ left ++ (more ++ rest), c.isDigit = true) :
    Near (more.foldl appendDigit value * 10 ^ (left.length + rest.length))
      ((left ++ (more ++ rest)).foldl appendDigit value) := by
  have kept : ∀ c ∈ more, c.isDigit = true := fun c member =>
    isDigits c (List.mem_append_right left (List.mem_append_left rest member))
  have place : 10 ^ (left ++ (more ++ rest)).length =
      10 ^ more.length * 10 ^ (left.length + rest.length) := by
    rw [← pow_add, List.length_append, List.length_append, Nat.add_left_comm]
  have all := foldl_appendDigit_within isDigits value
  rw [place] at all
  exact near_of_within (by omega)
    ((foldl_appendDigit_within kept value).trans (within_multiple (Nat.pow_pos (by decide)) _)) all

variable {whole places : List Char}

/-- Before the places are divided away: the digits that are kept, against all of them. -/
theorem scaled_near (wholeDigits : ∀ c ∈ whole, c.isDigit = true)
    (placeDigits : ∀ c ∈ places, c.isDigit = true) :
    let first := fill 0 whole
    let all := fill first.1 places
    Near (all.1 * 10 ^ (first.2.length + all.2.length)) (digitsValue (whole ++ places)) := by
  obtain ⟨kept, cut, filled, small, full⟩ :=
    fill_cases whole (Nat.two_pow_pos 64) wholeDigits
  obtain ⟨more, cut', filled', -, full'⟩ := fill_cases places small placeDigits
  intro first all
  change whole = kept ++ first.2 at cut
  change places = more ++ all.2 at cut'
  change first.1 = kept.foldl appendDigit 0 at filled
  change all.1 = more.foldl appendDigit first.1 at filled'
  have value : digitsValue (whole ++ places) =
      (first.2 ++ (more ++ all.2)).foldl appendDigit first.1 := by
    rw [digitsValue, cut, cut', List.append_assoc, List.foldl_append, ← filled]
  have isDigits : ∀ c ∈ first.2 ++ (more ++ all.2), c.isDigit = true := by
    intro c member
    rcases List.mem_append.mp member with left | right
    · exact wholeDigits c (cut ▸ List.mem_append_right kept left)
    · exact placeDigits c (cut' ▸ right)
  -- Either the whole part fits and the places go on with it, or places may move up to where digits
  -- of it are missing.
  by_cases fits : first.2 = []
  · rw [value, fits, List.nil_append, List.foldl_append, ← filled', List.length_nil, Nat.zero_add]
    exact near_of_leftover (fun c member => isDigits c (by simp [member])) full'
  · rw [value, filled']
    exact near_of_gap (full.resolve_left fits) isDigits

end Scaled

section Parts

def unsignedText : List Char → List Char
  | '-' :: chars => chars
  | chars => chars

def wholeDigits (chars : List Char) : List Char := (unsignedText chars).takeWhile (· != '.')

def fractionText (chars : List Char) : List Char := (unsignedText chars).dropWhile (· != '.')

def places (chars : List Char) : List Char := (fractionText chars).tail

def HasLeadingZero (chars : List Char) : Prop :=
  ∃ digit rest, wholeDigits chars = '0' :: digit :: rest

def EndsInPoint (chars : List Char) : Prop := chars.getLast? = some '.'

/-- The magnitude that the text denotes. -/
def exactValue (chars : List Char) : ℚ :=
  digitsValue (wholeDigits chars ++ places chars) / 10 ^ (places chars).length

def keptDecimal (chars : List Char) : Decimal :=
  magnitude ⟨false, wholeDigits chars, some (places chars), none⟩

def Overflows (chars : List Char) : Prop :=
  Binary64.overflowValue ≤ Binary64.nearestValue (keptDecimal chars).digits *
    Binary64.nearestValue (10 ^ (keptDecimal chars).exponent)

/-- The magnitude that the text denotes is not short of the limit for reading it. -/
def TooLarge (chars : List Char) : Prop := Binary64.readingLimit ≤ exactValue chars

variable {chars : List Char}

theorem isDigit_ne_point {c : Char} (digit : c.isDigit = true) : (c != '.') = true := by
  rw [bne_iff_ne]
  rintro rfl
  exact absurd digit (by decide)

theorem unsignedText_of_numeral (numeral : IsNumeral chars) : IsUnsigned (unsignedText chars) := by
  rcases numeral with unsigned | ⟨rest, rfl, unsigned⟩
  · obtain ⟨whole, fraction, rfl, nonempty, digits, -⟩ := id unsigned
    obtain ⟨first, rest, rfl⟩ := List.exists_cons_of_ne_nil nonempty
    have noMinus : first ≠ '-' := by
      rintro rfl
      exact absurd (digits _ List.mem_cons_self) (by decide)
    rw [List.cons_append] at unsigned ⊢
    rwa [unsignedText]
    rintro rest ⟨⟩
    exact noMinus rfl
  · exact unsigned

theorem wholeDigits_append (chars : List Char) :
    wholeDigits chars ++ fractionText chars = unsignedText chars := List.takeWhile_append_dropWhile

theorem parts_of_numeral (numeral : IsNumeral chars) :
    wholeDigits chars ≠ [] ∧ (∀ c ∈ wholeDigits chars, c.isDigit = true) ∧
      (∀ c ∈ places chars, c.isDigit = true) ∧
      (fractionText chars = [] ∨ fractionText chars = '.' :: places chars) := by
  obtain ⟨whole, fraction, split, nonempty, digits, point⟩ := unsignedText_of_numeral numeral
  have noPoint : ∀ c ∈ whole, (c != '.') = true := fun c member =>
    isDigit_ne_point (digits c member)
  unfold places wholeDigits fractionText
  rw [split, List.takeWhile_append_of_pos noPoint, List.dropWhile_append_of_pos noPoint]
  rcases point with rfl | ⟨behind, rfl, isPlaces⟩
  · simpa using ⟨nonempty, digits⟩
  · simpa using ⟨nonempty, digits, isPlaces⟩

theorem exactValue_of_digits (digits : ∀ c ∈ chars, c.isDigit = true) :
    wholeDigits chars = chars ∧ exactValue chars = digitsValue chars := by
  have unsigned : unsignedText chars = chars := by
    unfold unsignedText
    split
    · exact absurd (digits '-' List.mem_cons_self) (by decide)
    · rfl
  have noPoint : ∀ c ∈ chars, (c != '.') = true := fun c member =>
    isDigit_ne_point (digits c member)
  have whole : wholeDigits chars = chars := by
    rw [wholeDigits, unsigned, List.takeWhile_eq_self_iff]
    exact noPoint
  have noPlaces : places chars = [] := by
    rw [places, fractionText, unsigned, List.dropWhile_eq_nil_iff.mpr noPoint, List.tail_nil]
  refine ⟨whole, ?_⟩
  rw [exactValue, whole, noPlaces, List.append_nil, List.length_nil, pow_zero, div_one]

theorem digitsValue_toDigits (n : Nat) : digitsValue (Nat.toDigits 10 n) = n := by
  have value := @Nat.ofDigitChars_ten_toDigits n
  rwa [Nat.ofDigitChars_eq_foldl] at value

/-- The digits of a natural number have none of the flaws of numerals. -/
theorem toDigits_flawless (n : Nat) :
    ¬ HasLeadingZero (Nat.toDigits 10 n) ∧ ¬ EndsInPoint (Nat.toDigits 10 n) ∧
      exactValue (Nat.toDigits 10 n) = n := by
  have digits : ∀ c ∈ Nat.toDigits 10 n, c.isDigit = true := fun c member =>
    Nat.isDigit_of_mem_toDigits (by decide) (by decide) member
  obtain ⟨whole, value⟩ := exactValue_of_digits digits
  refine ⟨?_, ?_, by rw [value, digitsValue_toDigits]⟩
  · rintro ⟨digit, rest, zero⟩
    rw [whole] at zero
    have others : ∀ c ∈ digit :: rest, c.isDigit = true := fun c member =>
      digits c (zero ▸ List.mem_cons_of_mem '0' member)
    -- The digits behind the zero would be enough, and a number is written with as few as it takes.
    have less := (foldl_appendDigit_within others 0).2
    have same : (digit :: rest).foldl appendDigit 0 = n := by
      rw [← digitsValue_toDigits n, zero]
      rfl
    rw [same, Nat.zero_add, Nat.one_mul, ← Nat.length_toDigits_le_iff (by decide) (by simp),
      zero] at less
    simp at less
  · intro ends
    exact absurd (digits '.' (List.mem_of_getLast? ends)) (by decide)

end Parts

section Magnitudes

variable {chars : List Char}

theorem keptDecimal_digits (numeral : IsNumeral chars) : (keptDecimal chars).digits < 2 ^ 64 := by
  obtain ⟨-, wholes, isPlaces, -⟩ := parts_of_numeral numeral
  obtain ⟨-, -, -, small, -⟩ := fill_cases (wholeDigits chars) (Nat.two_pow_pos 64) wholes
  obtain ⟨-, -, -, bounded, -⟩ := fill_cases (places chars) small isPlaces
  exact bounded

/-- What is kept of a numeral differs from its value by at most one part in `2 ^ 60`. -/
theorem keptDecimal_near (numeral : IsNumeral chars) :
    2 ^ 60 * (keptDecimal chars).value ≤ (2 ^ 60 + 1) * exactValue chars ∧
      2 ^ 60 * exactValue chars ≤ (2 ^ 60 + 1) * (keptDecimal chars).value := by
  -- Only digits behind a great number are dropped, or moved up by a place that was dropped.
  obtain ⟨-, wholes, isPlaces, -⟩ := parts_of_numeral numeral
  obtain ⟨less, more⟩ := scaled_near wholes isPlaces
  have scale : (0 : ℚ) < 10 ^ (places chars).length := by positivity
  have exact : exactValue chars * 10 ^ (places chars).length =
      (digitsValue (wholeDigits chars ++ places chars) : ℕ) := div_mul_cancel₀ _ scale.ne'
  have kept : (keptDecimal chars).value * 10 ^ (places chars).length = _ :=
    natCast_of_zpow (by
      show (0 : ℤ) + _ + _ - (places chars).length + (places chars).length = _
      rw [sub_add_cancel, zero_add, ← Nat.cast_add])
  constructor
  · refine le_of_mul_le_mul_right ?_ scale
    rw [mul_assoc, mul_assoc, kept, exact]
    exact_mod_cast less
  · refine le_of_mul_le_mul_right ?_ scale
    rw [mul_assoc, mul_assoc, kept, exact]
    exact_mod_cast more

/-- A numeral overflows if its value is beyond the end of binary64 by more than a narrow band, and
only if it is not short of the end by more than one. -/
theorem overflows_bounds (numeral : IsNumeral chars) :
    (Overflows chars → 2 ^ 1024 - 2 ^ 973 ≤ exactValue chars) ∧
      (2 ^ 1024 + 2 ^ 973 ≤ exactValue chars → Overflows chars) := by
  obtain ⟨kept, lost⟩ := keptDecimal_near numeral
  obtain ⟨only, enough⟩ := Binary64.tooLarge_bounds (keptDecimal_digits numeral)
  obtain ⟨unit, pos, value, band, wider, power⟩ := Binary64.overflow_grid
  rw [power, band] at enough
  rw [power, wider]
  constructor
  · intro overflows
    have reaches := only overflows
    rw [value, band] at reaches
    linarith only [reaches, kept, pos]
  · intro reaches
    refine enough ?_
    linarith only [reaches, lost, pos]

/-- The digits of the whole part that are kept, and as many zeros as others are left over, come
next to the value. -/
theorem exactValue_within (numeral : IsNumeral chars) :
    let first := fill 0 (wholeDigits chars)
    (first.1 : ℚ) * 10 ^ first.2.length ≤ exactValue chars ∧
      exactValue chars < (first.1 + 1) * 10 ^ first.2.length := by
  obtain ⟨-, wholes, isPlaces, -⟩ := parts_of_numeral numeral
  obtain ⟨kept, cut, filled, -⟩ := fill_cases (wholeDigits chars) (Nat.two_pow_pos 64) wholes
  intro first
  change wholeDigits chars = kept ++ first.2 at cut
  change first.1 = kept.foldl appendDigit 0 at filled
  have scale : (0 : ℚ) < 10 ^ (places chars).length := by positivity
  have isDigits : ∀ c ∈ first.2 ++ places chars, c.isDigit = true := by
    intro c member
    rcases List.mem_append.mp member with left | place
    · exact wholes c (cut ▸ List.mem_append_right kept left)
    · exact isPlaces c place
  have all : digitsValue (wholeDigits chars ++ places chars) =
      (first.2 ++ places chars).foldl appendDigit first.1 := by
    rw [digitsValue, cut, List.append_assoc, List.foldl_append, ← filled]
  obtain ⟨least, most⟩ := foldl_appendDigit_within isDigits first.1
  rw [← all, List.length_append, pow_add, ← mul_assoc] at least most
  rw [exactValue, le_div_iff₀ scale, div_lt_iff₀ scale]
  exact ⟨by exact_mod_cast least, by exact_mod_cast most⟩

theorem keptDecimal_band (numeral : IsNumeral chars)
    (low : 2 ^ 1024 - 2 ^ 973 ≤ exactValue chars) (high : exactValue chars < 2 ^ 1024 + 2 ^ 973) :
    (keptDecimal chars).exponent = 289 ∧
      ((keptDecimal chars).digits : ℚ) * 10 ^ 289 ≤ exactValue chars ∧
      exactValue chars < ((keptDecimal chars).digits + 1) * 10 ^ 289 := by
  -- In the band the digits that are kept fill 64 bits, so that no place is added to them.
  obtain ⟨-, wholes, -, -⟩ := parts_of_numeral numeral
  obtain ⟨-, -, -, small, full⟩ := fill_cases (wholeDigits chars) (Nat.two_pow_pos 64) wholes
  obtain ⟨least, most⟩ := exactValue_within numeral
  obtain ⟨zeros, great⟩ := Binary64.band_places small
    (full.imp_left fun empty => List.length_eq_zero_iff.mpr empty) least most low high
  have kept : keptDecimal chars = ⟨(fill 0 (wholeDigits chars)).1, 289⟩ := by
    have noPlace := fill_full (fill 0 (wholeDigits chars)).1 (by omega) (places chars)
    simp only [keptDecimal, magnitude, Option.getD_some, Option.getD_none, noPlace, zeros]
    congr 1
    omega
  rw [zeros] at least most
  rw [kept]
  exact ⟨rfl, least, most⟩

/-- Whether a numeral overflows is a matter of its value alone. -/
theorem overflows_iff (numeral : IsNumeral chars) : Overflows chars ↔ TooLarge chars := by
  obtain ⟨only, enough⟩ := overflows_bounds numeral
  obtain ⟨start, stop⟩ := Binary64.readingLimit_band
  -- Outside the band the bounds decide; inside, the digits that are kept and the limit have equally
  -- many zeros behind them.
  rcases lt_or_ge (exactValue chars) (2 ^ 1024 - 2 ^ 973) with below | low
  · exact iff_of_false (fun overflows => absurd (only overflows) (not_le.mpr below))
      (not_le.mpr (below.trans_le start))
  rcases lt_or_ge (exactValue chars) (2 ^ 1024 + 2 ^ 973) with high | beyond
  · obtain ⟨zeros, least, most⟩ := keptDecimal_band numeral low high
    have power : (0 : ℚ) ≤ 10 ^ 289 := by positivity
    rw [Overflows, zeros, Binary64.overflow_iff_limitDigits, TooLarge, Binary64.readingLimit]
    constructor
    · intro reached
      have digits : (Binary64.limitDigits : ℚ) ≤ (keptDecimal chars).digits := by
        exact_mod_cast reached
      exact (mul_le_mul_of_nonneg_right digits power).trans least
    · intro reaches
      by_contra short
      have digits : ((keptDecimal chars).digits : ℚ) + 1 ≤ Binary64.limitDigits := by
        exact_mod_cast not_le.mp short
      exact absurd (most.trans_le (mul_le_mul_of_nonneg_right digits power)) (not_lt.mpr reaches)
  · exact iff_of_true (enough beyond) (stop.trans beyond)

end Magnitudes

section Reading

variable {chars : List Char} {negative : Bool}

theorem digits?_append {digits behind : List Char} (nonempty : digits ≠ [])
    (isDigits : ∀ c ∈ digits, c.isDigit = true) (ends : ∀ c ∈ behind.head?, c.isDigit = false) :
    digits? (digits ++ behind) = some (digits, behind) := by
  obtain ⟨taken, left⟩ := Cut.mk.inj (cutWhile_exact isDigits ends)
  unfold digits?
  rw [taken, left]
  split
  · contradiction
  · rfl

theorem fraction?_point {digits : List Char} (isDigits : ∀ c ∈ digits, c.isDigit = true) :
    fraction? ('.' :: digits) = if digits = [] then none else some (some digits, []) := by
  split
  next empty =>
    rw [empty]
    rfl
  next nonempty =>
    have read := @digits?_append digits [] nonempty isDigits (by simp)
    rw [List.append_nil] at read
    rw [fraction?, read]
    rfl

theorem fractionText_head (numeral : IsNumeral chars) :
    ∀ c ∈ (fractionText chars).head?, c.isDigit = false := by
  obtain ⟨-, -, -, none | point⟩ := parts_of_numeral numeral
  · simp [none]
  · rw [point]
    rintro c ⟨⟩
    rfl

theorem whole?_leadingZero (numeral : IsNumeral chars) (zero : HasLeadingZero chars) :
    whole? (unsignedText chars) = none := by
  obtain ⟨nonempty, wholes, -, -⟩ := parts_of_numeral numeral
  obtain ⟨digit, rest, zero⟩ := zero
  rw [whole?, ← wholeDigits_append,
    digits?_append nonempty wholes (fractionText_head numeral), zero]
  rfl

theorem whole?_noLeadingZero (numeral : IsNumeral chars) (noZero : ¬ HasLeadingZero chars) :
    whole? (unsignedText chars) = some (wholeDigits chars, fractionText chars) := by
  obtain ⟨nonempty, wholes, -, -⟩ := parts_of_numeral numeral
  rw [whole?, ← wholeDigits_append, digits?_append nonempty wholes (fractionText_head numeral)]
  split
  next zero =>
    rw [Option.some.injEq, Prod.mk.injEq] at zero
    exact absurd ⟨_, _, zero.1⟩ noZero
  next => rfl

theorem getLast?_unsignedText (numeral : IsNumeral chars) :
    chars.getLast? = (unsignedText chars).getLast? := by
  obtain ⟨whole, fraction, split, nonempty, -⟩ := unsignedText_of_numeral numeral
  unfold unsignedText at split ⊢
  split at split
  next rest =>
    have someRest : rest ≠ [] := by simp [split, nonempty]
    obtain ⟨first, others, rfl⟩ := List.exists_cons_of_ne_nil someRest
    rfl
  next => rfl

theorem endsInPoint_iff (numeral : IsNumeral chars) :
    EndsInPoint chars ↔ fractionText chars = ['.'] := by
  obtain ⟨nonempty, wholes, isPlaces, point⟩ := parts_of_numeral numeral
  rw [EndsInPoint, getLast?_unsignedText numeral, ← wholeDigits_append]
  have noDigit : ∀ digits : List Char, (∀ c ∈ digits, c.isDigit = true) →
      digits.getLast? ≠ some '.' := by
    intro digits isDigits ends
    exact absurd (isDigits _ (List.mem_of_getLast? ends)) (by decide)
  rcases point with none | point
  · rw [none, List.append_nil]
    exact iff_of_false (noDigit _ wholes) (by simp)
  · rw [point]
    generalize places chars = digits at *
    cases digits with
    | nil => simp
    | cons digit rest =>
        refine iff_of_false ?_ (by simp)
        simpa using noDigit _ isPlaces

theorem read?_eq_unsigned (chars : List Char) :
    ∃ negative, read? chars = unsigned? negative (unsignedText chars) := by
  unfold read?
  split
  · exact ⟨true, rfl⟩
  next noMinus =>
    refine ⟨false, ?_⟩
    rw [unsignedText]
    exact noMinus

theorem read?_refuses (numeral : IsNumeral chars)
    (flawed : HasLeadingZero chars ∨ EndsInPoint chars) : read? chars = none := by
  obtain ⟨negative, unsigned⟩ := read?_eq_unsigned chars
  rw [unsigned, unsigned?]
  by_cases zero : HasLeadingZero chars
  · rw [whole?_leadingZero numeral zero]
    rfl
  · have point := (endsInPoint_iff numeral).mp (flawed.resolve_left zero)
    rw [whole?_noLeadingZero numeral zero, point]
    rfl

theorem read?_reads (numeral : IsNumeral chars) (noZero : ¬ HasLeadingZero chars)
    (noPoint : ¬ EndsInPoint chars) :
    ∃ negative fraction, read? chars = some ⟨negative, wholeDigits chars, fraction, none⟩ ∧
      fraction.getD [] = places chars := by
  obtain ⟨negative, unsigned⟩ := read?_eq_unsigned chars
  obtain ⟨-, -, isPlaces, point⟩ := parts_of_numeral numeral
  rw [endsInPoint_iff numeral] at noPoint
  rw [unsigned, unsigned?, whole?_noLeadingZero numeral noZero]
  rcases point with noFraction | point
  · refine ⟨negative, none, ?_, ?_⟩
    · rw [noFraction]
      rfl
    · rw [places, noFraction]
      rfl
  · have someDigits : places chars ≠ [] := by
      intro empty
      exact noPoint (empty ▸ point)
    refine ⟨negative, some (places chars), ?_, rfl⟩
    have read : fraction? ('.' :: places chars) = some (some (places chars), []) := by
      rw [fraction?_point isPlaces, if_neg someDigits]
    rw [point, Option.bind_eq_bind, Option.bind_some]
    simp only [read]
    rfl

theorem real?_eq_none_iff (numeral : IsNumeral chars) {n : Numeral}
    (whole : n.whole = wholeDigits chars) (fraction : n.fraction.getD [] = places chars)
    (noExponent : n.exponent = none) : n.real? = none ↔ TooLarge chars := by
  have kept : n.magnitude = keptDecimal chars := by
    unfold keptDecimal magnitude
    rw [whole, fraction, noExponent]
    rfl
  rw [real?, Option.map_eq_none_iff, kept, ← overflows_iff numeral,
    Binary64.ofDecimal?_eq_none_iff _ (keptDecimal_digits numeral)]
  rfl

/-- An integer that fits a word is far from the end of binary64. -/
theorem not_tooLarge_word (noPlaces : places chars = [])
    (word : digitsValue (wholeDigits chars) < 2 ^ 64) : ¬ TooLarge chars := by
  intro tooLarge
  have reaches := Binary64.readingLimit_band.1.trans tooLarge
  have small : (digitsValue (wholeDigits chars) : ℚ) < 2 ^ 64 := by exact_mod_cast word
  have shift : (2 : ℚ) ^ 1024 = 2 ^ 51 * 2 ^ 973 := by rw [← pow_add]
  have power : (2 : ℚ) ^ 64 ≤ 2 ^ 973 := pow_le_pow_right₀ (by norm_num) (by norm_num)
  rw [exactValue, noPlaces, List.append_nil, List.length_nil, pow_zero, div_one, shift] at reaches
  generalize (2 : ℚ) ^ 973 = unit at *
  linarith only [reaches, small, power]

/-- A numeral has no value exactly if it is too large. -/
theorem value?_eq_none_iff (numeral : IsNumeral chars) {negative : Bool}
    {fraction : Option (List Char)} (behind : fraction.getD [] = places chars) :
    value? ⟨negative, wholeDigits chars, fraction, none⟩ = none ↔ TooLarge chars := by
  have real := @real?_eq_none_iff _ numeral ⟨negative, wholeDigits chars, fraction, none⟩
    rfl behind rfl
  cases fraction with
  | some digits => exact real
  | none =>
      unfold value?
      simp only
      split
      · exact real
      · by_cases inRange : InWordRange (if negative = true
            then -(digitsValue (wholeDigits chars) : Int) else digitsValue (wholeDigits chars))
        · have word : digitsValue (wholeDigits chars) < 2 ^ 64 := by
            unfold InWordRange at inRange
            split at inRange <;> omega
          rw [dif_pos inRange]
          exact iff_of_false (Option.some_ne_none _)
            (not_tooLarge_word behind.symm word)
        · rw [dif_neg inRange]
          exact real

theorem number_read?_eq_none_iff (numeral : IsNumeral chars) :
    Number.read? chars = none ↔ HasLeadingZero chars ∨ EndsInPoint chars ∨ TooLarge chars := by
  rw [Number.read?, ← or_assoc]
  by_cases flawed : HasLeadingZero chars ∨ EndsInPoint chars
  · rw [read?_refuses numeral flawed]
    exact iff_of_true rfl (.inl flawed)
  · obtain ⟨noZero, noPoint⟩ := not_or.mp flawed
    obtain ⟨negative, fraction, read, behind⟩ := read?_reads numeral noZero noPoint
    rw [read, Option.bind_some, value?_eq_none_iff numeral behind]
    exact (or_iff_right flawed).symm

end Reading

end Numeral

section Texts

variable {chars : List Char}

def numeralChars : List Char := "-.0123456789".toList

theorem mem_numeralChars (numeral : IsNumeral chars) : ∀ c ∈ chars, c ∈ numeralChars := by
  have digit : ∀ c : Char, c.isDigit = true → c ∈ numeralChars := fun c isDigit =>
    List.mem_append_right ['-', '.'] (mem_digits_of_isDigit isDigit)
  have unsigned : ∀ {chars}, IsUnsigned chars → ∀ c ∈ chars, c ∈ numeralChars := by
    rintro _ ⟨whole, fraction, rfl, -, digits, rfl | ⟨places, rfl, isPlaces⟩⟩ c member
    · rw [List.append_nil] at member
      exact digit c (digits c member)
    · rcases List.mem_append.mp member with left | right
      · exact digit c (digits c left)
      · rcases List.mem_cons.mp right with rfl | place
        · decide
        · exact digit c (isPlaces c place)
  rcases numeral with isUnsigned | ⟨rest, rfl, isUnsigned⟩
  · exact unsigned isUnsigned
  · intro c member
    rcases List.mem_cons.mp member with rfl | member
    · decide
    · exact unsigned isUnsigned c member

def isNumberOnly (c : Char) : Bool :=
  !Mark.isGap c && c != '"' && (Mark.punctuation? c).isNone && Mark.isBare c &&
    decide (c ∉ ['n', 't', 'f'])

theorem numeralChars_bare : ∀ c ∈ numeralChars, Mark.isGap c = false ∧ c ≠ '"' ∧
    (Mark.punctuation? c).isNone = true ∧ Mark.isBare c = true ∧ c ∉ ['n', 't', 'f'] := by
  have all : numeralChars.all isNumberOnly = true := by decide
  intro c member
  simpa [isNumberOnly, and_assoc] using List.all_eq_true.mp all c member

theorem ne_nil_of_numeral (numeral : IsNumeral chars) : chars ≠ [] := by
  rcases numeral with ⟨whole, fraction, rfl, nonempty, -⟩ | ⟨rest, rfl, -⟩
  · exact List.append_ne_nil_of_left_ne_nil nonempty fraction
  · exact List.cons_ne_nil '-' rest

theorem word?_numeral (numeral : IsNumeral chars) :
    Mark.word? chars = (Number.read? chars).map Json.number := by
  have noWord : ∀ c ∈ chars, c ∉ ['n', 't', 'f'] := fun c member =>
    (numeralChars_bare c (mem_numeralChars numeral c member)).2.2.2.2
  unfold Mark.word?
  split
  · exact absurd (List.mem_cons_self ..) (noWord 'n' List.mem_cons_self)
  · exact absurd (by decide) (noWord 't' List.mem_cons_self)
  · exact absurd (by decide) (noWord 'f' List.mem_cons_self)
  · rfl

theorem scan?_numeral (numeral : IsNumeral chars) :
    Mark.scan? chars = (Mark.word? chars).map fun item => [.scalar item] := by
  obtain ⟨first, rest, rfl⟩ := List.exists_cons_of_ne_nil (ne_nil_of_numeral numeral)
  obtain ⟨firstBare, restBare⟩ := List.forall_mem_cons.mp fun c member =>
    numeralChars_bare c (mem_numeralChars numeral c member)
  obtain ⟨noGap, noQuote, noMark, bare, -⟩ := firstBare
  have taken : rest.takeWhile Mark.isBare = rest :=
    List.takeWhile_eq_self_iff.mpr fun c member => (restBare c member).2.2.2.1
  have left : rest.dropWhile Mark.isBare = [] :=
    List.dropWhile_eq_nil_iff.mpr fun c member => (restBare c member).2.2.2.1
  rw [Mark.scan?]
  simp only [noGap, noQuote, Option.isNone_iff_eq_none.mp noMark, bare, taken, left, ↓reduceIte,
    Bool.false_eq_true]
  rw [Mark.scan?]
  cases Mark.word? (first :: rest) <;> rfl

theorem read?_numeral {content : String} (numeral : IsNumeral content.toList) :
    Json.read? content = (Number.read? content.toList).map Json.number := by
  rw [Json.read?, readWithin?, scan?_numeral numeral, word?_numeral numeral]
  cases Number.read? content.toList <;> rfl

end Texts

end DocQuery.Json

namespace DocQuery.Token

open DocQuery.Lexing
open DocQuery.Json.Numeral (HasLeadingZero EndsInPoint TooLarge)

/-- The ways in which a numeral of a query denotes no number. -/
theorem numberLiteral_eq_error_iff {content : String} (numeral : IsNumeral content.toList)
    (fault : EvalFault) :
    numberLiteral content = .error fault ↔
      fault = .invalidNumber content ∧
        (HasLeadingZero content.toList ∨ EndsInPoint content.toList ∨
          TooLarge content.toList) := by
  rw [numberLiteral, Json.read?_numeral numeral, ← Json.Numeral.number_read?_eq_none_iff numeral]
  cases Json.Number.read? content.toList with
  | none => simp [eq_comm]
  | some value => simp

end DocQuery.Token
