import Scenario.Proofs.Json.Number
import Scenario.Proofs.Number.Shortest
/-!
Doubles in JSON.

A double need not read back as itself, but its text always reads as some double: powers of ten are
rounded before they are multiplied, and still no text of a double is out of range.
-/
namespace Scenario.Number.Double

section Range

variable {negative : Bool}

theorem mul_mono {a b c d e : Double} (first : a.size ≤ c.size) (second : b.size ≤ d.size)
    (product : c.mul d = some e) : ∃ f, a.mul b = some f := by
  have positive : 0 < unit * unit := Nat.mul_pos unit_pos unit_pos
  obtain ⟨f, found, -⟩ := ofRatio_mono positive (Nat.mul_le_mul first second) product
  exact ⟨f, found⟩

theorem ofRatio_significand {significand : Nat}
    (fits : significand ≤ Json.Parser.largestSignificand) :
    ∃ d, ofRatio negative significand 1 = some d := by
  have greatest : (ofRatio false Json.Parser.largestSignificand 1).isSome = true := by
    decide +kernel
  obtain ⟨bound, found⟩ := Option.isSome_iff_exists.mp greatest
  obtain ⟨d, rounded, -⟩ := ofRatio_mono Nat.one_pos fits found
  exact ⟨d, rounded⟩

/-- What rounds to the double before the greatest one is no greater. -/
def readable : Nat := 36028797018963962 * 2 ^ 969

/-- The significands that a power of ten leaves in range, as far as they have seventeen digits. -/
def greatestSignificand (exponent : Nat) : Nat := min (10 ^ 17) (readable / 10 ^ exponent)

theorem mul_greatest : ∀ exponent ∈ List.range' 291 18,
    ((ofRatio false (greatestSignificand exponent) 1).bind
      fun value => value.mul (.tenTo exponent)).isSome = true := by
  decide +kernel

theorem power_mono {exponent greater : Nat} (le : exponent ≤ greater) {bound : Double}
    (found : ofRatio false (Nat.pow 10 greater) 1 = some bound) :
    ∃ d, ofRatio false (Nat.pow 10 exponent) 1 = some d ∧ d.size ≤ bound.size :=
  ofRatio_mono Nat.one_pos (Nat.pow_le_pow_right (by decide) le) found

theorem tenTo_mono {exponent greater : Nat} (le : exponent ≤ greater) (low : greater ≤ 308) :
    (tenTo exponent).size ≤ (tenTo greater).size := by
  obtain ⟨top, last⟩ : ∃ top, top = 308 := ⟨308, rfl⟩
  have inRange : (ofRatio false (Nat.pow 10 top) 1).isSome = true := by
    rw [last]
    decide +kernel
  obtain ⟨bound, found⟩ := Option.isSome_iff_exists.mp inRange
  obtain ⟨d, rounded, -⟩ := power_mono (last ▸ low) found
  obtain ⟨c, first, less⟩ := power_mono le rounded
  rw [tenTo, tenTo, rounded, first]
  exact less

end Range

end Scenario.Number.Double

namespace Scenario.Json.Parser

open Scenario.Number

section Scaled

variable {negative : Bool} {significand : Nat}

theorem significand_le (few : significand ≤ 10 ^ 17) : significand ≤ largestSignificand :=
  few.trans (by decide)

theorem scaled_of_neg (fits : significand ≤ largestSignificand) {exponent : Int}
    (down : exponent < 0) : ∃ d, scaled negative significand exponent = some d := by
  obtain ⟨value, rounded⟩ : ∃ value, Double.ofRatio false significand 1 = some value :=
    Double.ofRatio_significand fits
  unfold scaled
  simp only [rounded, Option.bind_eq_bind, Option.bind_some, if_pos down, Option.pure_def,
    Option.some.injEq, exists_eq']

theorem scaled_of_mul {exponent : Nat} (low : exponent ≤ 308) {value product : Double}
    (rounded : Double.ofRatio false significand 1 = some value)
    (inRange : value.mul (.tenTo exponent) = some product) :
    ∃ d, scaled negative significand exponent = some d := by
  have up : ¬ (exponent : Int) < 0 := by omega
  unfold scaled
  simp only [rounded, Option.bind_eq_bind, Option.bind_some]
  rw [if_neg up, Int.natAbs_natCast, if_pos low, inRange, Option.bind_some]
  exact ⟨_, rfl⟩

/-- What is no greater than the double before the greatest one is in range, rounded as it is. -/
theorem scaled_of_le (few : significand ≤ 10 ^ 17) {exponent : Nat} (low : exponent ≤ 308)
    (le : significand * 10 ^ exponent ≤ Double.readable) :
    ∃ d, scaled negative significand exponent = some d := by
  -- Below the power 291 seventeen digits are in range whatever they are.
  have column : max exponent 291 ∈ List.range' 291 18 := by
    rw [List.mem_range'_1]
    omega
  have inRange := Double.mul_greatest _ column
  obtain ⟨product, multiplied⟩ := Option.isSome_iff_exists.mp inRange
  obtain ⟨bound, rounded, multiplied⟩ := Option.bind_eq_some_iff.mp multiplied
  have digits : significand ≤ Double.greatestSignificand (max exponent 291) := by
    refine Nat.le_min.mpr ⟨few, ?_⟩
    rcases Nat.le_total exponent 291 with small | large
    · rw [Nat.max_eq_right small]
      exact few.trans (by decide +kernel)
    · rw [Nat.max_eq_left large]
      exact (Nat.le_div_iff_mul_le (Nat.pow_pos (by decide))).mpr le
  obtain ⟨value, found, less⟩ : ∃ value, Double.ofRatio false significand 1 = some value ∧ _ :=
    Double.ofRatio_mono Nat.one_pos digits rounded
  obtain ⟨result, taken⟩ := Double.mul_mono less
    (Double.tenTo_mono (Nat.le_max_left exponent 291) (by omega)) multiplied
  exact scaled_of_mul low found taken

end Scaled

section Digits

variable {negative : Bool} {written fraction tail : List Char}

theorem digits_append_of_all (all : ∀ c ∈ written, c.isDigit = true)
    (stops : ∀ c ∈ tail.head?, c.isDigit = false) : digits (written ++ tail) = (written, tail) := by
  rw [digits, List.span_eq_takeWhile_dropWhile]
  induction written with
  | nil =>
    cases tail with
    | nil => rfl
    | cons c later => simp [stops c rfl]
  | cons c later ih =>
    obtain ⟨digit, others⟩ := List.forall_mem_cons.mp all
    obtain ⟨front, back⟩ := Prod.mk.inj (ih others)
    simp [digit, front, back]

def numeral (written : List Char) : Nat := Nat.ofDigitChars 10 written 0

theorem numeral_append (written fraction : List Char) :
    numeral (written ++ fraction) = Nat.ofDigitChars 10 fraction (numeral written) :=
  Nat.ofDigitChars_append 0

theorem numeral_toDigits (n : Nat) : numeral (Nat.toDigits 10 n) = n :=
  Nat.ofDigitChars_toDigits (by decide) (by decide)

/-- No zero leads, unless it is the only digit. -/
def Plain (written : List Char) : Prop := written.head? = some '0' → written.length = 1

/-- The digits in front of a number, all of which fit. -/
theorem unsigned_of_digits (some : written ≠ []) (plain : Plain written)
    (all : ∀ c ∈ written, c.isDigit = true) (fits : numeral written ≤ largestSignificand)
    (stops : ∀ c ∈ tail.head?, c.isDigit = false) :
    unsigned negative (written ++ tail) = afterWhole negative (numeral written) 0 tail := by
  have split := digits_append_of_all all stops
  have gathered : gather 0 written = (numeral written, written.length) := gather_eq fits
  cases written with
  | nil => exact absurd rfl some
  | cons first more =>
    have noLeading : ¬ (first = '0' ∧ (first :: more).length ≠ 1) := by
      rintro ⟨rfl, long⟩
      exact long (plain rfl)
    rw [List.cons_append] at split ⊢
    unfold unsigned
    dsimp only
    rw [split, if_pos (all first List.mem_cons_self), if_neg noLeading, gathered]
    dsimp only
    rw [Nat.sub_self]

theorem unsigned_mark (some : written ≠ []) (plain : Plain written)
    (all : ∀ c ∈ written, c.isDigit = true) (fits : numeral written ≤ largestSignificand) :
    unsigned negative (written ++ 'e' :: tail) =
      exponentPart negative (numeral written) 0 tail := by
  rw [unsigned_of_digits some plain all fits (by rintro c ⟨⟩; rfl)]
  rfl

/-- A number with a point is read as its digits, of which some stand behind the point. -/
theorem unsigned_point (some : written ≠ []) (plain : Plain written) (more : fraction ≠ [])
    (all : ∀ c ∈ written ++ fraction, c.isDigit = true)
    (fits : numeral (written ++ fraction) ≤ largestSignificand)
    (stops : ∀ c ∈ tail.head?, c.isDigit = false) :
    unsigned negative (written ++ '.' :: (fraction ++ tail)) =
      afterDigits negative (numeral (written ++ fraction)) (-(fraction.length : Int)) tail := by
  obtain ⟨whole, behind⟩ := List.forall_mem_append.mp all
  rw [numeral_append] at fits ⊢
  have small := Nat.le_trans (le_ofDigitChars fraction _) fits
  have point : unsigned negative (written ++ '.' :: (fraction ++ tail)) =
      fractionPart negative (numeral written) 0 (fraction ++ tail) := by
    rw [unsigned_of_digits some plain whole small (by rintro c ⟨⟩; rfl)]
    rfl
  have gathered := gather_eq fits
  have solid : fraction.isEmpty = false := by simpa using more
  rw [point, fractionPart, digits_append_of_all behind stops]
  simp [solid, gathered]

theorem exponentDigits_cases (exponent : Nat) (written : List Char) :
    exponentDigits exponent written = .ok (Nat.ofDigitChars 10 written exponent) ∨
      largestExponent < Nat.ofDigitChars 10 written exponent ∧
        ∃ unread, exponentDigits exponent written = .error unread := by
  induction written generalizing exponent with
  | nil => exact .inl rfl
  | cons c later ih =>
    have larger : exponent * 10 + digitValue c = 10 * exponent + (c.toNat - '0'.toNat) := by
      rw [digitValue, Nat.mul_comm]
    rw [Nat.ofDigitChars_cons, exponentDigits, larger]
    by_cases fits : 10 * exponent + (c.toNat - '0'.toNat) ≤ largestExponent
    · rw [if_pos fits]
      exact ih _
    · rw [if_neg fits]
      exact .inr ⟨Nat.lt_of_lt_of_le (Nat.lt_of_not_le fits) (le_ofDigitChars later _), later, rfl⟩

/-- An exponent is read; one that is too small to be read leaves zero. -/
theorem exponentBody_toDigits {significand : Nat} {start : Int} {downward : Bool} (n : Nat)
    (low : downward = true ∨ n ≤ largestExponent)
    (inRange : ∃ d, scaled negative significand
      (if downward then start - n else start + n) = some d) :
    ∃ d, exponentBody negative significand start downward (Nat.toDigits 10 n) =
      .ok (.double d, []) := by
  obtain ⟨d, scaled⟩ := inRange
  have split := digits_toDigits n
  have read := exponentDigits_cases 0 (Nat.toDigits 10 n)
  rw [Nat.ofDigitChars_toDigits (by decide) (by decide)] at read
  cases written : Nat.toDigits 10 n with
  | nil => exact absurd written Nat.toDigits_ne_nil
  | cons first more =>
    have digit : first.isDigit = true :=
      Nat.isDigit_of_mem_toDigits (b := 10) (n := n) (by decide) (by decide)
        (written ▸ List.mem_cons_self)
    rw [written] at split read
    unfold exponentBody
    dsimp only
    rw [split, if_pos digit]
    dsimp only
    rcases read with read | ⟨great, unread, stopped⟩
    · rw [read]
      dsimp only
      rw [scaledAt, scaled]
      exact ⟨d, rfl⟩
    · have down : downward = true := low.resolve_right (Nat.not_le.mpr great)
      rw [stopped]
      dsimp only
      rw [if_neg (by simp [down])]
      exact ⟨_, rfl⟩

end Digits

section Written

variable (negative : Bool) {decimal : Number.Decimal}

/-- A decimal that is in range when it is read, and has no exponent if it is zero. -/
structure Readable (decimal : Decimal) : Prop where
  few : decimal.digits ≤ 10 ^ 17
  zero : decimal.digits = 0 → decimal.exponent = 0
  low : decimal.exponent ≤ 308
  inRange : ∀ negative, ∃ d, scaled negative decimal.digits decimal.exponent = some d

theorem plain_toDigits (n : Nat) : Plain (Nat.toDigits 10 n) := by
  intro leading
  rw [eq_zero_of_leading_zero leading]
  rfl

theorem afterDigits_nil {significand : Nat} {exponent : Int}
    (inRange : ∃ d, scaled negative significand exponent = some d) :
    ∃ d, afterDigits negative significand exponent [] = .ok (.double d, []) := by
  obtain ⟨d, scaled⟩ := inRange
  rw [afterDigits, scaledAt, scaled]
  exact ⟨d, rfl⟩

theorem numeral_zeros (n : Nat) (written : List Char) :
    numeral (List.replicate n '0' ++ written) = numeral written := by
  rw [numeral_append]
  simp [numeral, Nat.ofDigitChars_replicate_zero]

theorem numeral_lt {written : List Char} (all : ∀ c ∈ written, c.isDigit = true) :
    numeral written < 10 ^ written.length := by
  induction written with
  | nil => decide
  | cons c later ih =>
    obtain ⟨digit, others⟩ := List.forall_mem_cons.mp all
    have code : 48 ≤ c.toNat ∧ c.toNat ≤ 57 := by
      simpa [Char.isDigit, UInt32.le_iff_toNat_le] using digit
    have small : c.toNat - '0'.toNat ≤ 9 := by
      have zero : '0'.toNat = 48 := rfl
      omega
    rw [numeral, Nat.ofDigitChars_cons, Nat.ofDigitChars_eq_ofDigitChars_zero, List.length_cons,
      Nat.pow_succ, Nat.mul_zero, Nat.zero_add]
    have behind : Nat.ofDigitChars 10 later 0 < 10 ^ later.length := ih others
    have front := Nat.mul_le_mul_left (10 ^ later.length) small
    omega

/-- The sign and the digits of an exponent. -/
def exponentText (leading : Int) : List Char :=
  (if leading < 0 then '-' else '+') :: Nat.toDigits 10 leading.natAbs

theorem exponentPart_text {significand : Nat} (start : Int) {leading : Int} (low : leading ≤ 400)
    (inRange : ∃ d, scaled negative significand (start + leading) = some d) :
    ∃ d, exponentPart negative significand start (exponentText leading) =
      .ok (.double d, []) := by
  unfold exponentText
  split_ifs with down
  · obtain ⟨n, same⟩ := Int.eq_ofNat_of_zero_le (neg_nonneg.mpr down.le)
    obtain rfl : leading = -(n : Int) := by omega
    rw [Int.natAbs_neg, Int.natAbs_natCast]
    exact exponentBody_toDigits n (.inl rfl) inRange
  · obtain ⟨n, rfl⟩ := Int.eq_ofNat_of_zero_le (not_lt.mp down)
    rw [Int.natAbs_natCast]
    refine exponentBody_toDigits n (.inr ?_) inRange
    rw [largestExponent]
    omega

section Layouts

variable {digits : List Char}

/-- A zero and a point, and then the digits behind some zeros. -/
theorem unsigned_below (all : ∀ c ∈ digits, c.isDigit = true) (some : digits ≠ [])
    (fits : numeral digits ≤ largestSignificand) (zeros : Nat) :
    ∃ d, unsigned negative ('0' :: '.' :: (List.replicate zeros '0' ++ digits)) =
      .ok (.double d, []) := by
  have padded : ∀ c ∈ ['0'] ++ (List.replicate zeros '0' ++ digits), c.isDigit = true := by
    simp only [List.forall_mem_append]
    refine ⟨by simp, ?_, all⟩
    intro c member
    rw [List.eq_of_mem_replicate member]
    rfl
  have value : numeral (['0'] ++ (List.replicate zeros '0' ++ digits)) = numeral digits := by
    rw [← List.append_assoc, ← List.replicate_one, List.replicate_append_replicate, numeral_zeros]
  have behind : List.replicate zeros '0' ++ digits ≠ [] := by simp [some]
  have read : unsigned negative (['0'] ++ '.' :: ((List.replicate zeros '0' ++ digits) ++ [])) =
      afterDigits negative _ (-((List.replicate zeros '0' ++ digits).length : Int)) [] :=
    unsigned_point (by simp) (fun _ => rfl) behind padded (value ▸ fits) nofun
  rw [List.append_nil, value] at read
  have down := List.length_pos_iff.mpr behind
  obtain ⟨d, done⟩ := afterDigits_nil negative (scaled_of_neg fits
    (show -((List.replicate zeros '0' ++ digits).length : Int) < 0 by omega))
  exact ⟨d, read.trans done⟩

/-- The digits with some zeros, a point and a zero. -/
theorem unsigned_whole (all : ∀ c ∈ digits, c.isDigit = true) (some : digits ≠ [])
    {zeros : Nat} (plain : Plain (digits ++ List.replicate zeros '0'))
    (short : digits.length + zeros ≤ 16) :
    ∃ d, unsigned negative (digits ++ List.replicate zeros '0' ++ ['.', '0']) =
      .ok (.double d, []) := by
  have padded : ∀ c ∈ digits ++ List.replicate zeros '0' ++ ['0'], c.isDigit = true := by
    simp only [List.forall_mem_append]
    refine ⟨⟨all, ?_⟩, by simp⟩
    intro c member
    rw [List.eq_of_mem_replicate member]
    rfl
  have fits : numeral (digits ++ List.replicate zeros '0' ++ ['0']) ≤ largestSignificand := by
    have bound := numeral_lt padded
    have power : 10 ^ (digits ++ List.replicate zeros '0' ++ ['0']).length ≤ 10 ^ 17 := by
      refine Nat.pow_le_pow_right (by decide) ?_
      simp only [List.length_append, List.length_replicate, List.length_singleton]
      omega
    exact significand_le (bound.le.trans power)
  have read : unsigned negative (digits ++ List.replicate zeros '0' ++ '.' :: (['0'] ++ [])) =
      afterDigits negative _ (-((['0'].length : Nat) : Int)) [] :=
    unsigned_point (by simp [some]) plain (by simp) padded fits nofun
  obtain ⟨d, done⟩ := afterDigits_nil negative (scaled_of_neg fits
    (show -((['0'].length : Nat) : Int) < 0 by decide))
  exact ⟨d, read.trans done⟩

/-- Digits on both sides of a point. -/
theorem unsigned_between (all : ∀ c ∈ digits, c.isDigit = true)
    (fits : numeral digits ≤ largestSignificand) (plain : Plain digits) {before : Nat}
    (some : 0 < before) (more : before < digits.length) :
    ∃ d, unsigned negative (digits.take before ++ '.' :: digits.drop before) =
      .ok (.double d, []) := by
  have whole : digits.take before ≠ [] := by
    rw [Ne, List.take_eq_nil_iff]
    rintro (none | none)
    · omega
    · simp [none] at more
  have behind : digits.drop before ≠ [] := by
    rw [Ne, List.drop_eq_nil_iff]
    omega
  have front : Plain (digits.take before) := by
    intro leading
    rw [List.head?_take, if_neg (by omega)] at leading
    have one := plain leading
    omega
  rw [← List.take_append_drop before digits] at all fits
  have read : unsigned negative (digits.take before ++ '.' :: (digits.drop before ++ [])) =
      afterDigits negative _ (-((digits.drop before).length : Int)) [] :=
    unsigned_point whole front behind all fits nofun
  have down := List.length_pos_iff.mpr behind
  obtain ⟨d, done⟩ := afterDigits_nil negative (scaled_of_neg fits
    (show -((digits.drop before).length : Int) < 0 by omega))
  rw [List.append_nil] at read
  exact ⟨d, read.trans done⟩

/-- One digit in front of the point and an exponent. -/
theorem unsigned_scientific (all : ∀ c ∈ digits, c.isDigit = true)
    (fits : numeral digits ≤ largestSignificand) (some : digits ≠ []) {leading : Int}
    (low : leading ≤ 400)
    (inRange : ∃ d, scaled negative (numeral digits) (leading - digits.length + 1) = .some d) :
    ∃ d, unsigned negative (digits.take 1 ++ (if digits.drop 1 = [] then []
      else '.' :: digits.drop 1) ++ 'e' :: exponentText leading) = .ok (.double d, []) := by
  cases digits with
  | nil => exact absurd rfl some
  | cons first fraction =>
    have plain : Plain [first] := fun _ => rfl
    cases fraction with
    | nil =>
      have read : unsigned negative ([first] ++ 'e' :: exponentText leading) =
          exponentPart negative _ 0 (exponentText leading) :=
        unsigned_mark (List.cons_ne_nil first []) plain all fits
      rw [List.length_singleton] at inRange
      obtain ⟨d, done⟩ := exponentPart_text negative 0 low
        (by rwa [show leading - (1 : Nat) + 1 = 0 + leading by omega] at inRange)
      exact ⟨d, read.trans done⟩
    | cons second later =>
      have read : unsigned negative ([first] ++ '.' :: ((second :: later) ++
          'e' :: exponentText leading)) = afterDigits negative _
            (-((second :: later).length : Int)) ('e' :: exponentText leading) :=
        unsigned_point (List.cons_ne_nil first []) plain (List.cons_ne_nil second later) all fits
          (by rintro c ⟨⟩; rfl)
      obtain ⟨d, done⟩ := exponentPart_text negative (-((second :: later).length : Int)) low (by
          rwa [List.length_cons, show leading - ((second :: later).length + 1 : Nat) + 1 =
            -((second :: later).length : Int) + leading by push_cast; ring] at inRange)
      exact ⟨d, read.trans done⟩

end Layouts

/-- Zeros that fill a decimal up to its unit do not make it begin with a zero. -/
theorem Readable.plain_padded (readable : Readable decimal) {digits : List Char}
    (same : Nat.toDigits 10 decimal.digits = digits) :
    Plain (digits ++ List.replicate
      ((decimal.exponent + digits.length - 1).toNat + 1 - digits.length) '0') := by
  have plain := plain_toDigits decimal.digits
  have value := numeral_toDigits decimal.digits
  have some : Nat.toDigits 10 decimal.digits ≠ [] := Nat.toDigits_ne_nil
  rw [same] at plain value some
  intro zero
  rw [List.head?_append_of_ne_nil _ some] at zero
  -- A leading zero is the only digit of zero, which has no exponent.
  obtain ⟨c, rfl⟩ := List.length_eq_one_iff.mp (plain zero)
  cases zero
  have none : decimal.exponent = 0 := readable.zero value.symm
  simp [none]

/-- Whatever layout is chosen for a decimal, it is read as a double. -/
theorem unsigned_write (readable : Readable decimal) :
    ∃ d, unsigned negative (Double.layout.write decimal).toList = .ok (.double d, []) := by
  have digitsFit : decimal.digits ≤ largestSignificand := significand_le readable.few
  have all : ∀ c ∈ Nat.toDigits 10 decimal.digits, c.isDigit = true :=
    fun c member => Nat.isDigit_of_mem_toDigits (by decide) (by decide) member
  have plain := plain_toDigits decimal.digits
  have padded := readable.plain_padded rfl
  have value := numeral_toDigits decimal.digits
  have some : Nat.toDigits 10 decimal.digits ≠ [] := Nat.toDigits_ne_nil
  have few : (Nat.toDigits 10 decimal.digits).length ≤ 18 :=
    (Nat.length_toDigits_le_iff (by decide) (by decide)).mpr
      (Nat.lt_of_le_of_lt readable.few (by decide))
  unfold Double.Layout.write
  dsimp only
  rw [Nat.toList_repr]
  generalize Nat.toDigits 10 decimal.digits = digits at *
  generalize first : decimal.exponent + (digits.length : Int) - 1 = leading at padded ⊢
  rw [← value] at digitsFit
  split
  · rename_i positional
    split
    · have read := unsigned_below negative all some digitsFit
        (-leading - 1).toNat
      simpa using read
    · rename_i notBelow
      split
      · rename_i shorter
        have last : leading ≤ 15 := positional.2
        have read := unsigned_whole negative all some padded (by omega)
        simpa using read
      · rename_i longer
        have read := unsigned_between negative all digitsFit plain
          (Nat.succ_pos leading.toNat) (Nat.lt_of_not_le longer)
        simpa using read
  · rename_i scientific
    have low : leading ≤ 400 := by
      have := readable.low
      omega
    have read := unsigned_scientific negative all digitsFit some low (by
      rw [value, show leading - digits.length + 1 = decimal.exponent by omega]
      exact readable.inRange negative)
    have mark : ((if leading < 0 then "e-" else "e+") ++ Nat.repr leading.natAbs).toList =
        'e' :: exponentText leading := by
      rw [String.toList_append, Nat.toList_repr, exponentText]
      split <;> rfl
    rw [String.append_assoc, String.append_assoc, String.toList_append, String.toList_append, mark]
    cases behind : digits.drop 1 <;> simpa [behind] using read

end Written

section Text

theorem ends_le {mantissa shift greatest : Nat} (few : mantissa < mantissaBound)
    (low : shift ≤ greatest) (other : ¬ (mantissa = mantissaBound - 1 ∧ shift = greatest)) :
    4 * mantissa * 2 ^ shift + 2 * 2 ^ shift ≤ 36028797018963962 * 2 ^ greatest := by
  have bound : mantissaBound = 9007199254740992 := rfl
  rw [bound] at few other
  rw [← Nat.add_mul]
  rcases Nat.lt_or_eq_of_le low with less | same
  · have double : 2 ^ shift * 2 ≤ 2 ^ greatest := by
      rw [← Nat.pow_succ]
      exact Nat.pow_le_pow_right (by decide) less
    calc (4 * mantissa + 2) * 2 ^ shift
        ≤ (36028797018963962 * 2) * 2 ^ shift := Nat.mul_le_mul_right _ (by omega)
      _ = 36028797018963962 * (2 ^ shift * 2) := by ring
      _ ≤ 36028797018963962 * 2 ^ greatest := Nat.mul_le_mul_left _ double
  · rw [same]
    exact Nat.mul_le_mul_right _ (by omega)

theorem readable_units : Double.readable * (4 * Double.unit) =
    36028797018963962 * 2 ^ greatestShift := by
  decide +kernel

theorem exponent_le {n : Nat} (le : 10 ^ n ≤ Double.readable) : n ≤ 308 := by
  obtain ⟨top, last⟩ : ∃ top, top = 309 := ⟨309, rfl⟩
  have above : Double.readable < 10 ^ top := by
    rw [last]
    decide +kernel
  have less := (Nat.pow_lt_pow_iff_right (by decide)).mp (le.trans_lt above)
  omega

def greatest (negative : Bool) : Double :=
  ⟨negative, mantissaBound - 1, greatestShift, by decide⟩

theorem shortest_greatest (negative : Bool) :
    (greatest negative).shortest = ⟨17976931348623157, 292⟩ := by
  -- Its size has hundreds of digits, which are counted as a list and not as a string.
  simp only [Double.shortest, Double.leadingExponent, Nat.repr, String.length_ofList,
    Decimal.strip]
  cases negative <;> decide +kernel

theorem readable_greatest : Readable ⟨17976931348623157, 292⟩ := by
  refine ⟨by decide, nofun, by decide, ?_⟩
  intro negative
  have product : ((Double.ofRatio false 17976931348623157 1).bind
      fun value => value.mul (.tenTo 292)).isSome = true := by
    decide +kernel
  obtain ⟨_, found⟩ := Option.isSome_iff_exists.mp product
  obtain ⟨value, rounded, multiplied⟩ := Option.bind_eq_some_iff.mp found
  exact scaled_of_mul (by decide) rounded multiplied

/-- The greatest double has a decimal that is known, and below it everything is in range. -/
theorem readable_shortest (d : Double) : Readable d.shortest := by
  rcases d.shortest_bounds with zero | ⟨some, few, le⟩
  · rw [zero]
    refine ⟨by decide, fun _ => rfl, by decide, ?_⟩
    intro negative
    have inRange : ∃ d, scaled negative 0 (0 : Nat) = some d :=
      scaled_of_le (Nat.zero_le _) (by decide) (by simp)
    exact inRange
  by_cases last : d.mantissa = mantissaBound - 1 ∧ d.shift = greatestShift
  · obtain ⟨negative, mantissa, shift, canonical⟩ := d
    obtain ⟨rfl, rfl⟩ : mantissa = mantissaBound - 1 ∧ shift = greatestShift := last
    change Readable (greatest negative).shortest
    rw [shortest_greatest]
    exact readable_greatest
  have high : d.interval.high ≤ Double.readable * (4 * Double.unit) := by
    rw [readable_units]
    exact ends_le d.canonical.1 d.canonical.2.1 last
  have up (n : Nat) (same : d.shortest.exponent = n) :
      d.shortest.digits * 10 ^ n ≤ Double.readable := by
    rw [Decimal.value, same, zpow_natCast] at le
    have units : d.shortest.digits * 10 ^ n * (4 * Double.unit) ≤ d.interval.high := by
      exact_mod_cast le
    exact Nat.le_of_mul_le_mul_right (units.trans high) (Nat.mul_pos (by decide) Double.unit_pos)
  have low (n : Nat) (same : d.shortest.exponent = n) : n ≤ 308 :=
    exponent_le ((Nat.le_mul_of_pos_left _ some).trans (up n same))
  refine ⟨few, by omega, ?_, ?_⟩
  · by_contra far
    obtain ⟨n, same⟩ := Int.eq_ofNat_of_zero_le (show 0 ≤ d.shortest.exponent by omega)
    have near := low n same
    omega
  · intro negative
    rcases Int.lt_or_le d.shortest.exponent 0 with down | above
    · exact scaled_of_neg (significand_le few) down
    · obtain ⟨n, same⟩ := Int.eq_ofNat_of_zero_le above
      rw [same]
      exact scaled_of_le few (low n same) (up n same)

theorem number_text (d : Double) :
    ∃ read, number d.text.toList = .ok (.number (.double read), []) := by
  obtain ⟨read, taken⟩ := unsigned_write d.negative (readable_shortest d)
  rw [Double.text, String.toList_append]
  cases sign : d.negative with
  | true =>
    rw [sign] at taken
    refine ⟨read, ?_⟩
    rw [if_pos rfl]
    change number ('-' :: (Double.layout.write d.shortest).toList) = _
    rw [number_minus, taken]
    rfl
  | false =>
    rw [sign] at taken
    refine ⟨read, ?_⟩
    rw [if_neg Bool.false_ne_true, String.toList_empty, List.nil_append]
    cases written : (Double.layout.write d.shortest).toList with
    | nil =>
      rw [written] at taken
      cases taken
    | cons c later =>
      have noMinus : c ≠ '-' := by
        rintro rfl
        rw [written] at taken
        cases taken
      rw [number_of_ne noMinus, ← written, taken]
      rfl

end Text

end Scenario.Json.Parser
