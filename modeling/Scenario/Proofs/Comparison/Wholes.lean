import Scenario.Proofs.Comparison.Coherence
import Scenario.Proofs.Json.Compact
import Scenario.Proofs.Number.Natural
import Scenario.Proofs.Number.Nearest
/-!
Comparing whole numbers.

A whole number is compared as the double nearest to it, whether it is given as a number or in
digits. Up to 2^53 that is the number itself; beyond, neighbours may be compared as equal, but
none is ever less than another one that is not greater.
-/
namespace Scenario

open Json (Value Whole)
open Number (Double Reading)

namespace Number.Reading

variable {negative : Bool} {m : Nat}

theorem ofDigits_eq (written : List Char) : ofDigits written = Nat.ofDigitChars 10 written 0 :=
  foldl_digits_eq written 0

theorem ofDecimal_toDigits (negative : Bool) (fits : m ≤ Json.Parser.largestSignificand) :
    ∃ d, Double.ofRatio negative m 1 = some d ∧
      ofDecimal negative (Nat.toDigits 10 m) 0 = .finite d := by
  have value : ofDigits (Nat.toDigits 10 m) = m := by
    rw [ofDigits_eq]
    exact Nat.ofDigitChars_toDigits (by decide) (by decide)
  obtain ⟨d, rounded⟩ : ∃ d, Double.ofRatio negative m 1 = some d :=
    Double.ofRatio_significand fits
  refine ⟨d, rounded, ?_⟩
  rcases Nat.eq_zero_or_pos m with rfl | positive
  · have zero : Double.ofRatio negative 0 1 =
        some (if negative then Double.zero.negate else .zero) := by
      cases negative <;> decide +kernel
    rw [zero] at rounded
    cases rounded
    rfl
  · have short : (Nat.repr m).length ≤ 20 :=
      (Nat.length_repr_le_iff (by decide)).mpr (Nat.lt_of_le_of_lt fits (by decide))
    have near : ¬ (m = 0 ∨ ((Nat.repr m).length : Int) + 0 < -reach) := by
      rw [reach]
      omega
    have far : ¬ reach < ((Nat.repr m).length : Int) + 0 := by
      rw [reach]
      omega
    rw [ofDecimal]
    dsimp only
    rw [value, if_neg near, if_neg far, if_neg (by decide)]
    simp [rounded]

theorem toLower_of_isDigit {c : Char} (digit : c.isDigit = true) : c.toLower = c := by
  rw [Char.isDigit_iff_toNat] at digit
  unfold Char.toLower
  rw [dif_neg]
  rintro ⟨low, -⟩
  have upper : 65 ≤ c.toNat := UInt32.le_iff_toNat_le.mp low
  have least : '9'.toNat = 57 := rfl
  omega

theorem unsigned?_of_digit {c : Char} (digit : c.isDigit = true) (rest : List Char) :
    unsigned? negative (c :: rest) = decimal? negative (c :: rest) := by
  have noWord (first : Char) (later : List Char) (letter : first.isDigit = false) :
      String.ofList ((c :: rest).map Char.toLower) ≠ String.ofList (first :: later) := by
    intro same
    have heads := (List.cons.inj (String.ofList_injective same)).1
    rw [toLower_of_isDigit digit] at heads
    rw [heads, letter] at digit
    cases digit
  unfold unsigned?
  dsimp only
  rw [if_neg, if_neg]
  · exact noWord 'n' ['a', 'n'] rfl
  · rintro (inf | infinity)
    · exact noWord 'i' ['n', 'f'] rfl inf
    · exact noWord 'i' ['n', 'f', 'i', 'n', 'i', 't', 'y'] rfl infinity

theorem decimal?_toDigits (negative : Bool) (m : Nat) :
    decimal? negative (Nat.toDigits 10 m) = some (ofDecimal negative (Nat.toDigits 10 m) 0) := by
  have split : (Nat.toDigits 10 m).span Char.isDigit = (Nat.toDigits 10 m, []) :=
    Json.Parser.digits_toDigits m
  have some : (Nat.toDigits 10 m).isEmpty = false := by simp [Nat.toDigits_ne_nil]
  unfold decimal?
  rw [split]
  simp [some, exponent?]

theorem unsigned?_toDigits (negative : Bool) (fits : m ≤ Json.Parser.largestSignificand) :
    ∃ d, Double.ofRatio negative m 1 = some d ∧
      unsigned? negative (Nat.toDigits 10 m) = some (.finite d) := by
  obtain ⟨d, rounded, read⟩ := ofDecimal_toDigits negative fits
  have decimal := decimal?_toDigits negative m
  refine ⟨d, rounded, ?_⟩
  cases written : Nat.toDigits 10 m with
  | nil => exact absurd written Nat.toDigits_ne_nil
  | cons c rest =>
    have digit : c.isDigit = true :=
      Nat.isDigit_of_mem_toDigits (b := 10) (n := m) (by decide) (by decide)
        (written ▸ List.mem_cons_self)
    rw [read, written] at decimal
    rw [unsigned?_of_digit digit, decimal]

theorem ofChars?_of_digit {c : Char} (digit : c.isDigit = true) (rest : List Char) :
    ofChars? (c :: rest) = unsigned? false (c :: rest) := by
  unfold ofChars?
  split
  · rename_i same
    cases same
    cases digit
  · rename_i same
    cases same
    cases digit
  · rfl

theorem ofChars?_whole (n : Whole) :
    ∃ d, Double.ofInt n.value = some d ∧
      ofChars? (toString n.value).toList = some (.finite d) := by
  obtain ⟨low, high⟩ := n.range
  rw [Int.toString_eq_repr, Double.ofInt]
  cases value : n.value with
  | ofNat m =>
    rw [value] at high
    have fits : m ≤ Json.Parser.largestSignificand := by
      rw [Json.Parser.largestSignificand]
      simp only [Int.ofNat_eq_natCast] at high
      omega
    have up : decide (Int.ofNat m < 0) = false := decide_eq_false (by simp)
    obtain ⟨d, rounded, read⟩ := unsigned?_toDigits false fits
    refine ⟨d, by rw [up]; exact rounded, ?_⟩
    rw [Int.repr, Nat.toList_repr]
    cases written : Nat.toDigits 10 m with
    | nil => exact absurd written Nat.toDigits_ne_nil
    | cons c rest =>
      have digit : c.isDigit = true :=
        Nat.isDigit_of_mem_toDigits (b := 10) (n := m) (by decide) (by decide)
          (written ▸ List.mem_cons_self)
      rw [ofChars?_of_digit digit, ← written, read]
  | negSucc m =>
    rw [value] at low
    have fits : m + 1 ≤ Json.Parser.largestSignificand := by
      rw [Json.Parser.largestSignificand]
      omega
    have down : decide (Int.negSucc m < 0) = true := decide_eq_true (Int.negSucc_lt_zero m)
    obtain ⟨d, rounded, read⟩ := unsigned?_toDigits true fits
    refine ⟨d, by rw [down]; exact rounded, ?_⟩
    rw [Int.repr, String.toList_append, Nat.toList_repr]
    exact read

end Number.Reading

namespace Comparison

variable {m n : Whole} {a b : Value}

/-- The value gives the whole number, as a number or in digits. -/
inductive Gives (n : Whole) : Value → Prop where
  | number : Gives n (.number (.whole n))
  | digits : Gives n (.string (toString n.value))

/-- The operators compare the values as the numbers compare. -/
structure ComparesAs (a b : Value) (m n : Int) : Prop where
  equals : Operator.equals.holds a b = true ↔ m = n
  notEquals : Operator.notEquals.holds a b = true ↔ m ≠ n
  greaterThan : Operator.greaterThan.holds a b = true ↔ n < m
  lessThan : Operator.lessThan.holds a b = true ↔ m < n

theorem Gives.stands (gives : Gives n a) :
    ∃ d, Double.ofInt n.value = some d ∧ place? a = some (d.ticks : WithTop Int) := by
  obtain ⟨d, rounded, read⟩ := Reading.ofChars?_whole n
  refine ⟨d, rounded, ?_⟩
  cases gives with
  | number => simp [place?, numberOf, Json.Number.toDouble, rounded, Reading.place?]
  | digits =>
    have number : readNumber (toString n.value) = some (.finite d) := by
      have trimmed : Text.Trimmed (toString n.value).toList := Json.Number.trimmed_text (.whole n)
      rw [readNumber, trimmed.trimChars_eq, read]
    rw [place?, numberOf, number]
    rfl

theorem comparesAs_of_places {x y : Int} (first : place? a = some (x : WithTop Int))
    (second : place? b = some (y : WithTop Int)) : ComparesAs a b x y := by
  have equals : equal a b = true ↔ x = y := by
    rw [equal_iff first second]
    simp
  refine ⟨equals, ?_, ?_, ?_⟩
  · simp [Operator.holds, ← equals]
  · simp [Operator.holds, less_iff_of_places second first]
  · simp [Operator.holds, less_iff_of_places first second]

/-- A scale does not change how numbers compare. -/
theorem ComparesAs.of_scaled {x y scale : Int} (positive : 0 < scale)
    (scaled : ComparesAs a b (x * scale) (y * scale)) : ComparesAs a b x y where
  equals := scaled.equals.trans (mul_left_inj' positive.ne')
  notEquals := scaled.notEquals.trans (not_congr (mul_left_inj' positive.ne'))
  greaterThan := scaled.greaterThan.trans (Int.mul_lt_mul_right positive)
  lessThan := scaled.lessThan.trans (Int.mul_lt_mul_right positive)

/-- Whole numbers are compared as the doubles nearest to them. So they are compared exactly as far
as they are doubles themselves, and elsewhere they are never told apart in the wrong direction. -/
theorem compared_as_nearest (first : Gives m a) (second : Gives n b) :
    (∃ x y, Double.Nearest m.value x ∧ Double.Nearest n.value y ∧
      ComparesAs a b x.ticks y.ticks) ∧
      (m.value.natAbs ≤ 2 ^ 53 → n.value.natAbs ≤ 2 ^ 53 → ComparesAs a b m.value n.value) ∧
      (m.value = n.value → Operator.equals.holds a b = true) ∧
      (Operator.lessThan.holds a b = true → m.value < n.value) ∧
      (Operator.greaterThan.holds a b = true → n.value < m.value) := by
  obtain ⟨x, roundedX, standsX⟩ := first.stands
  obtain ⟨y, roundedY, standsY⟩ := second.stands
  have nearestX := Double.ofInt_nearest roundedX
  have nearestY := Double.ofInt_nearest roundedY
  have compares := comparesAs_of_places standsX standsY
  have same (values : m.value = n.value) : x.ticks = y.ticks := by
    rw [values, roundedY] at roundedX
    rw [Option.some.inj roundedX]
  refine ⟨⟨x, y, nearestX, nearestY, compares⟩, ?_, fun values => compares.equals.mpr (same values),
    ?_, ?_⟩
  · intro few others
    rw [nearestX.ticks_eq few, nearestY.ticks_eq others] at compares
    exact compares.of_scaled (Int.natCast_pos.mpr Double.unit_pos)
  · intro less
    have before := compares.lessThan.mp less
    rcases lt_trichotomy m.value n.value with up | values | down
    · exact up
    · exact absurd (same values) before.ne
    · exact absurd (nearestY.ticks_le nearestX down) (not_le.mpr before)
  · intro greater
    have after := compares.greaterThan.mp greater
    rcases lt_trichotomy n.value m.value with down | values | up
    · exact down
    · exact absurd (same values.symm) after.ne'
    · exact absurd (nearestX.ticks_le nearestY up) (not_le.mpr after)

theorem extremes_compared :
    let greatest : Whole := ⟨18446744073709551615, by decide⟩
    let least : Whole := ⟨-9223372036854775808, by decide⟩
    Gives least (.string "-9223372036854775808") ∧ Gives greatest (.number (.whole greatest)) ∧
      Operator.lessThan.holds (.string "-9223372036854775808") (.number (.whole greatest)) = true ∧
      least.value < greatest.value := by
  have first : Gives ⟨-9223372036854775808, by decide⟩ (.string "-9223372036854775808") := .digits
  have second : Gives ⟨18446744073709551615, by decide⟩
      (.number (.whole ⟨18446744073709551615, by decide⟩)) := .number
  have less : Operator.lessThan.holds (.string "-9223372036854775808")
      (.number (.whole ⟨18446744073709551615, by decide⟩)) = true := by
    decide +kernel
  exact ⟨first, second, less, (compared_as_nearest first second).2.2.2.1 less⟩

/-- Above 2^53 neighbours may have the same nearest double, and then they count as equal. -/
theorem neighbours_not_told_apart :
    let great : Whole := ⟨9007199254740993, by decide⟩
    let small : Whole := ⟨9007199254740992, by decide⟩
    Gives great (.number (.whole great)) ∧ Gives small (.number (.whole small)) ∧
      Gives small (.string "9007199254740992") ∧ great.value ≠ small.value ∧
      Operator.equals.holds (.number (.whole great)) (.number (.whole small)) = true ∧
      Operator.equals.holds (.number (.whole great)) (.string "9007199254740992") = true ∧
      ¬ ComparesAs (.number (.whole great)) (.number (.whole small)) great.value small.value ∧
      ¬ ComparesAs (.number (.whole great)) (.string "9007199254740992") great.value
        small.value := by
  have numbers : Operator.equals.holds (.number (.whole ⟨9007199254740993, by decide⟩))
      (.number (.whole ⟨9007199254740992, by decide⟩)) = true := by
    decide +kernel
  have digits : Operator.equals.holds (.number (.whole ⟨9007199254740993, by decide⟩))
      (.string "9007199254740992") = true := by
    decide +kernel
  have apart : (9007199254740993 : Int) ≠ 9007199254740992 := by decide
  exact ⟨.number, .number, .digits, apart, numbers, digits,
    fun compares => apart (compares.equals.mp numbers),
    fun compares => apart (compares.equals.mp digits)⟩

end Comparison

end Scenario
