import Mathlib.Data.List.TakeDrop
import Mathlib.Data.List.TakeWhile
import Scenario.Json.Parser
import Scenario.Proofs.Success
/-!
Numbers that read back.

A number is read up to the first character that is no part of it, so it is read the same whatever
stands behind it. A whole number reads back as it was. Of a double this is said in so many words,
`Double.ReadsBack`: reading multiplies by powers of ten that were rounded themselves, so a double
need not be the one that its shortest decimal reads as.
-/
namespace Scenario.Json

namespace Parser

open Scenario.Number

/-- Nothing in front of which a value could go on: the text is over, or a blank, a comma or a
closing bracket or brace comes next. -/
def Closes (text : List Char) : Prop :=
  ∀ c ∈ text.head?, isSpace c = true ∨ c = ',' ∨ c = ']' ∨ c = '}'

theorem closes_nil : Closes [] := by
  rintro c ⟨⟩

theorem Closes.head {c : Char} {rest : List Char} (closes : Closes (c :: rest)) :
    c.isDigit = false ∧ c ≠ '.' ∧ isExponentMark c = false := by
  rcases closes c rfl with blank | rfl | rfl | rfl
  · simp only [isSpace, Bool.or_eq_true, beq_iff_eq] at blank
    rcases blank with ((rfl | rfl) | rfl) | rfl <;> decide
  · decide
  · decide
  · decide

section Locality

variable {n : Number} {text left rest : List Char} {negative : Bool} {significand : Nat}

theorem inRange_append {value : Option Double} (read : inRange text value = .ok (n, left)) :
    inRange (text ++ rest) value = .ok (n, left ++ rest) := by
  cases value with
  | none => cases read
  | some d =>
    cases read
    rfl

theorem scaledAt_append {exponent : Int}
    (read : scaledAt negative significand exponent text = .ok (n, left)) :
    scaledAt negative significand exponent (text ++ rest) = .ok (n, left ++ rest) :=
  inRange_append read

theorem wholeNumber_append (read : wholeNumber negative significand text = .ok (n, left)) :
    wholeNumber negative significand (text ++ rest) = .ok (n, left ++ rest) := by
  unfold wholeNumber at read ⊢
  dsimp only at read ⊢
  by_cases minusZero : negative = true ∧ significand = 0
  · rw [if_pos minusZero] at read ⊢
    cases read
    rfl
  · rw [if_neg minusZero] at read ⊢
    split at read
    · cases read
      rfl
    · exact scaledAt_append read

theorem exponentPart_of_unsigned {start : Int} {c : Char} (plus : c ≠ '+') (minus : c ≠ '-')
    (later : List Char) :
    exponentPart negative significand start (c :: later) =
      exponentBody negative significand start false (c :: later) := by
  unfold exponentPart
  split
  · simp_all
  · simp_all
  · rfl

theorem afterWhole_nil (dropped : Nat) :
    afterWhole negative significand dropped [] =
      if dropped = 0 then wholeNumber negative significand []
      else afterDigits negative significand dropped [] := by
  unfold afterWhole
  rfl

theorem afterWhole_of_ne {dropped : Nat} {c : Char} (noPoint : c ≠ '.') (later : List Char) :
    afterWhole negative significand dropped (c :: later) =
      if dropped = 0 then
        if isExponentMark c then exponentPart negative significand 0 later
        else wholeNumber negative significand (c :: later)
      else afterDigits negative significand dropped (c :: later) := by
  unfold afterWhole
  split
  · simp_all
  · rfl

theorem number_minus (later : List Char) :
    number ('-' :: later) = (unsigned true later).map fun read => (.number read.1, read.2) := by
  have own : number ('-' :: later) =
      unsigned true later >>= fun read => .ok (.number read.1, read.2) := rfl
  rw [own]
  cases unsigned true later <;> rfl

theorem number_of_ne {c : Char} (noMinus : c ≠ '-') (later : List Char) :
    number (c :: later) =
      (unsigned false (c :: later)).map fun read => (.number read.1, read.2) := by
  unfold number
  split
  · simp_all
  · cases unsigned false (c :: later) <;> rfl

variable (closes : Closes rest)
include closes

theorem digits_append (text : List Char) :
    digits (text ++ rest) = ((digits text).1, (digits text).2 ++ rest) := by
  simp only [digits, List.span_eq_takeWhile_dropWhile]
  induction text with
  | nil =>
    cases rest with
    | nil => rfl
    | cons c later => simp [closes.head.1]
  | cons c text ih =>
    obtain ⟨front, back⟩ := Prod.mk.inj ih
    cases digit : c.isDigit <;> simp [digit, front, back]

theorem exponentBody_append {start : Int} {downward : Bool}
    (read : exponentBody negative significand start downward text = .ok (n, left)) :
    exponentBody negative significand start downward (text ++ rest) = .ok (n, left ++ rest) := by
  cases text with
  | nil => cases read
  | cons c body =>
    have whole := digits_append closes (c :: body)
    rw [List.cons_append] at whole ⊢
    unfold exponentBody at read ⊢
    dsimp only at read ⊢
    rw [whole]
    by_cases digit : c.isDigit = true
    · rw [if_pos digit] at read ⊢
      dsimp only at read ⊢
      split at read
      · exact scaledAt_append read
      · split at read
        · cases read
        · rename_i small
          rw [if_neg small]
          cases read
          rfl
    · rw [if_neg digit] at read
      cases read

theorem exponentPart_append {start : Int}
    (read : exponentPart negative significand start text = .ok (n, left)) :
    exponentPart negative significand start (text ++ rest) = .ok (n, left ++ rest) := by
  cases text with
  | nil => cases read
  | cons c body =>
    by_cases plus : c = '+'
    · subst plus
      have digits : exponentBody negative significand start false body = .ok (n, left) := read
      exact exponentBody_append closes digits
    by_cases minus : c = '-'
    · subst minus
      have digits : exponentBody negative significand start true body = .ok (n, left) := read
      exact exponentBody_append closes digits
    rw [exponentPart_of_unsigned plus minus] at read
    rw [List.cons_append, exponentPart_of_unsigned plus minus, ← List.cons_append]
    exact exponentBody_append closes read

theorem afterDigits_append {exponent : Int}
    (read : afterDigits negative significand exponent text = .ok (n, left)) :
    afterDigits negative significand exponent (text ++ rest) = .ok (n, left ++ rest) := by
  cases text with
  | nil =>
    -- Here the number was over, and it still is: what closes a value is no exponent mark.
    rw [afterDigits] at read
    have scaled : scaledAt negative significand exponent rest = .ok (n, left ++ rest) :=
      scaledAt_append read
    cases rest with
    | nil => exact scaled
    | cons c later =>
      rw [List.nil_append, afterDigits, closes.head.2.2, if_neg Bool.false_ne_true]
      exact scaled
  | cons c body =>
    rw [afterDigits] at read
    rw [List.cons_append, afterDigits]
    split at read
    · rename_i mark
      rw [if_pos mark]
      exact exponentPart_append closes read
    · rename_i noMark
      rw [if_neg noMark, ← List.cons_append]
      exact scaledAt_append read

theorem fractionPart_append {exponent : Int}
    (read : fractionPart negative significand exponent text = .ok (n, left)) :
    fractionPart negative significand exponent (text ++ rest) = .ok (n, left ++ rest) := by
  unfold fractionPart at read ⊢
  rw [digits_append closes]
  dsimp only at read ⊢
  by_cases none : (digits text).1.isEmpty = true
  · rw [if_pos none] at read
    cases read
  · rw [if_neg none] at read ⊢
    exact afterDigits_append closes read

theorem afterWhole_append {dropped : Nat}
    (read : afterWhole negative significand dropped text = .ok (n, left)) :
    afterWhole negative significand dropped (text ++ rest) = .ok (n, left ++ rest) := by
  cases text with
  | nil =>
    cases rest with
    | nil =>
      rw [List.append_nil, List.append_nil]
      exact read
    | cons c later =>
      obtain ⟨-, noPoint, noMark⟩ := closes.head
      rw [List.nil_append, afterWhole_of_ne noPoint, noMark, if_neg Bool.false_ne_true]
      rw [afterWhole_nil] at read
      by_cases all : dropped = 0
      · rw [if_pos all] at read ⊢
        rw [← List.nil_append (c :: later)]
        exact wholeNumber_append read
      · rw [if_neg all, ← List.nil_append (c :: later)]
        rw [if_neg all] at read
        exact afterDigits_append closes read
  | cons c body =>
    by_cases point : c = '.'
    · subst point
      have fraction : fractionPart negative significand dropped body = .ok (n, left) := read
      exact fractionPart_append closes fraction
    rw [afterWhole_of_ne point] at read
    rw [List.cons_append, afterWhole_of_ne point]
    by_cases all : dropped = 0
    · rw [if_pos all] at read ⊢
      by_cases mark : isExponentMark c = true
      · rw [if_pos mark] at read ⊢
        exact exponentPart_append closes read
      · rw [if_neg mark] at read ⊢
        rw [← List.cons_append]
        exact wholeNumber_append read
    · rw [if_neg all] at read ⊢
      rw [← List.cons_append]
      exact afterDigits_append closes read

theorem unsigned_append (read : unsigned negative text = .ok (n, left)) :
    unsigned negative (text ++ rest) = .ok (n, left ++ rest) := by
  cases text with
  | nil => cases read
  | cons first second =>
    have whole := digits_append closes (first :: second)
    rw [List.cons_append] at whole ⊢
    unfold unsigned at read ⊢
    dsimp only at read ⊢
    rw [whole]
    by_cases digit : first.isDigit = true
    · rw [if_pos digit] at read ⊢
      by_cases leading : first = '0' ∧ (digits (first :: second)).1.length ≠ 1
      · rw [if_pos leading] at read
        cases read
      · rw [if_neg leading] at read ⊢
        exact afterWhole_append closes read
    · rw [if_neg digit] at read
      cases read

theorem number_append {v : Value} (read : number text = .ok (v, left)) :
    number (text ++ rest) = .ok (v, left ++ rest) := by
  cases text with
  | nil => cases read
  | cons c body =>
    by_cases minus : c = '-'
    · subst minus
      rw [number_minus, Success.map_iff] at read
      obtain ⟨⟨n, after⟩, taken, done⟩ := read
      cases done
      rw [List.cons_append, number_minus, unsigned_append closes taken]
      rfl
    · rw [number_of_ne minus, Success.map_iff] at read
      obtain ⟨⟨n, after⟩, taken, done⟩ := read
      cases done
      rw [List.cons_append, number_of_ne minus, ← List.cons_append, unsigned_append closes taken]
      rfl

end Locality

section Whole

theorem le_ofDigitChars (written : List Char) (significand : Nat) :
    significand ≤ Nat.ofDigitChars 10 written significand := by
  rw [Nat.ofDigitChars_eq_ofDigitChars_zero]
  have scaled := Nat.le_mul_of_pos_left significand (Nat.pow_pos (n := written.length)
    (show 0 < 10 by decide))
  omega

theorem gather_eq {written : List Char} {significand : Nat}
    (fits : Nat.ofDigitChars 10 written significand ≤ largestSignificand) :
    gather significand written = (Nat.ofDigitChars 10 written significand, written.length) := by
  induction written generalizing significand with
  | nil => rfl
  | cons c later ih =>
    have larger : significand * 10 + digitValue c =
        10 * significand + (c.toNat - '0'.toNat) := by
      rw [digitValue, Nat.mul_comm]
    rw [Nat.ofDigitChars_cons] at fits ⊢
    have small := Nat.le_trans (le_ofDigitChars later _) fits
    rw [gather, larger, if_pos small, ih fits]
    rfl

theorem digits_toDigits (m : Nat) : digits (Nat.toDigits 10 m) = (Nat.toDigits 10 m, []) := by
  have all : ∀ c ∈ Nat.toDigits 10 m, c.isDigit = true :=
    fun c member => Nat.isDigit_of_mem_toDigits (by decide) (by decide) member
  rw [digits, List.span_eq_takeWhile_dropWhile, List.takeWhile_eq_self_iff.mpr all,
    List.dropWhile_eq_nil_iff.mpr all]

theorem eq_zero_of_leading_zero {m : Nat} (leading : (Nat.toDigits 10 m).head? = some '0') :
    m = 0 := by
  induction m using Nat.strongRecOn with
  | ind m ih =>
    by_cases small : m < 10
    · rw [Nat.toDigits_of_lt_base small] at leading
      simpa using leading
    · rw [Nat.toDigits_of_base_le (by decide) (Nat.le_of_not_lt small),
        List.head?_append_of_ne_nil _ Nat.toDigits_ne_nil] at leading
      have zero := ih (m / 10) (by omega) leading
      omega

theorem unsigned_toDigits (negative : Bool) {m : Nat} (fits : m ≤ largestSignificand) :
    unsigned negative (Nat.toDigits 10 m) = wholeNumber negative m [] := by
  have value : Nat.ofDigitChars 10 (Nat.toDigits 10 m) 0 = m :=
    Nat.ofDigitChars_toDigits (by decide) (by decide)
  have gathered := gather_eq (value ▸ fits)
  rw [value] at gathered
  have split := digits_toDigits m
  cases written : Nat.toDigits 10 m with
  | nil => exact absurd written Nat.toDigits_ne_nil
  | cons first second =>
    have digit : first.isDigit = true :=
      Nat.isDigit_of_mem_toDigits (b := 10) (n := m) (by decide) (by decide)
        (written ▸ List.mem_cons_self)
    -- A reader refuses leading zeros, so it matters that none are written.
    have noLeading : ¬ (first = '0' ∧ (first :: second).length ≠ 1) := by
      rintro ⟨rfl, long⟩
      have zero : m = 0 := eq_zero_of_leading_zero (by rw [written, List.head?_cons])
      rw [zero, Nat.toDigits_zero] at written
      cases written
      exact long rfl
    rw [written] at split gathered
    unfold unsigned
    dsimp only
    rw [split, if_pos digit, if_neg noLeading, gathered]
    dsimp only
    rw [Nat.sub_self, afterWhole_nil, if_pos rfl]

theorem wholeNumber_of_range {negative : Bool} {m : Nat} {n : Whole}
    (value : (if negative then -(m : Int) else m) = n.value)
    (nonzero : ¬ (negative = true ∧ m = 0)) :
    wholeNumber negative m [] = .ok (.whole n, []) := by
  have range : Whole.ofInt? n.value = some n := dif_pos n.range
  unfold wholeNumber
  dsimp only
  rw [if_neg nonzero, value, range]

theorem number_whole (n : Whole) :
    number (Number.whole n).text.toList = .ok (.number (.whole n), []) := by
  obtain ⟨low, high⟩ := n.range
  rw [Number.text, Int.toString_eq_repr]
  cases value : n.value with
  | ofNat m =>
    rw [value] at high
    have fits : m ≤ largestSignificand := by
      rw [largestSignificand]
      simp only [Int.ofNat_eq_natCast] at high
      omega
    have read : unsigned false (Nat.toDigits 10 m) = .ok (.whole n, []) := by
      rw [unsigned_toDigits false fits]
      exact wholeNumber_of_range value.symm (by simp)
    rw [Int.repr, Nat.toList_repr]
    cases written : Nat.toDigits 10 m with
    | nil => exact absurd written Nat.toDigits_ne_nil
    | cons first second =>
      have noMinus : first ≠ '-' := by
        rintro rfl
        have digit : '-'.isDigit = true :=
          Nat.isDigit_of_mem_toDigits (b := 10) (n := m) (by decide) (by decide)
            (written ▸ List.mem_cons_self)
        cases digit
      rw [written] at read
      rw [number_of_ne noMinus, read]
      rfl
  | negSucc m =>
    rw [value] at low
    have fits : m + 1 ≤ largestSignificand := by
      rw [largestSignificand]
      omega
    have read : unsigned true (Nat.toDigits 10 (m + 1)) = .ok (.whole n, []) := by
      rw [unsigned_toDigits true fits]
      exact wholeNumber_of_range value.symm (by simp)
    have written : (Int.negSucc m).repr.toList = '-' :: Nat.toDigits 10 (m + 1) := by
      rw [Int.repr, String.toList_append, Nat.toList_repr]
      rfl
    rw [written, number_minus, read]
    rfl

end Whole

theorem head_of_number {text left : List Char} {v : Value} (read : number text = .ok (v, left)) :
    ∃ c later, text = c :: later ∧ (c.isDigit || c == '-') = true := by
  cases text with
  | nil => cases read
  | cons c later =>
    refine ⟨c, later, rfl, ?_⟩
    by_cases minus : c = '-'
    · rw [minus]
      rfl
    · rw [number_of_ne minus] at read
      by_cases digit : c.isDigit = true
      · rw [digit]
        rfl
      · rw [unsigned, if_neg digit] at read
        cases read

end Parser

end Scenario.Json

namespace Scenario.Number.Double

/-- The text of the double reads as the double. -/
def ReadsBack (d : Double) : Prop :=
  Json.Parser.number d.text.toList = .ok (.number (.double d), [])

instance (d : Double) : Decidable d.ReadsBack := inferInstanceAs (Decidable (_ = _))

end Scenario.Number.Double
