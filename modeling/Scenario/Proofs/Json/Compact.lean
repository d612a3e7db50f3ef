import Scenario.Proofs.Json.Layout
import Scenario.Proofs.Text
import Scenario.Proofs.Text.Trim
/-!
The text of a value without blanks.

It is a layout like any other, so it is read as the value that was written. Control characters are
escaped in strings and written nowhere else, so the text stands on one line, whatever is in it.
-/
namespace Scenario.Json

open Text (forall_of_all)

/-- No control character. -/
def Printable (c : Char) : Prop := 0x20 ≤ c.toNat

instance : DecidablePred Printable := fun c => inferInstanceAs (Decidable (0x20 ≤ c.toNat))

/-- A character that numbers are written with. -/
def InNumber (c : Char) : Prop := c.isDigit = true ∨ c ∈ ['+', '-', '.', 'e']

instance : DecidablePred InNumber := fun _ => inferInstanceAs (Decidable (_ ∨ _))

namespace InNumber

theorem printable {c : Char} (inside : InNumber c) : Printable c := by
  rcases inside with digit | sign
  · exact Nat.le_trans (by decide) (Char.isDigit_iff_toNat.mp digit).1
  · exact forall_of_all (by decide) c sign

theorem isBlank_eq_false {c : Char} (inside : InNumber c) : Text.isBlank c = false := by
  rcases inside with digit | sign
  · obtain ⟨least, greatest⟩ : 48 ≤ c.toNat ∧ c.toNat ≤ 57 := Char.isDigit_iff_toNat.mp digit
    simp [Text.isBlank]
    omega
  · have signs : ∀ c ∈ ['+', '-', '.', 'e'], Text.isBlank c = false := forall_of_all (by decide)
    exact signs c sign

theorem repr (n : Nat) : ∀ c ∈ (Nat.repr n).toList, InNumber c := by
  intro c member
  rw [Nat.toList_repr] at member
  exact .inl (Nat.isDigit_of_mem_toDigits (by decide) (by decide) member)

theorem write (l : Number.Double.Layout) (decimal : Number.Decimal) :
    ∀ c ∈ (l.write decimal).toList, InNumber c := by
  have digits := repr decimal.digits
  have zeros (n : Nat) : ∀ c ∈ List.replicate n '0', InNumber c := by
    intro c member
    rw [List.eq_of_mem_replicate member]
    decide
  have front (n : Nat) : ∀ c ∈ (Nat.repr decimal.digits).toList.take n, InNumber c :=
    fun c member => digits c (List.mem_of_mem_take member)
  have back (n : Nat) : ∀ c ∈ (Nat.repr decimal.digits).toList.drop n, InNumber c :=
    fun c member => digits c (List.mem_of_mem_drop member)
  unfold Number.Double.Layout.write
  dsimp only
  split_ifs <;> simp only [String.toList_append, String.toList_ofList, List.forall_mem_append]
  · exact ⟨forall_of_all (by decide), zeros _, digits⟩
  · exact ⟨⟨digits, zeros _⟩, forall_of_all (by decide)⟩
  · exact ⟨⟨front _, forall_of_all (by decide)⟩, back _⟩
  · exact ⟨⟨⟨front _, forall_of_all (by decide)⟩, forall_of_all (by decide)⟩, repr _⟩
  · exact ⟨⟨⟨front _, forall_of_all (by decide)⟩, forall_of_all (by decide)⟩, repr _⟩
  · exact ⟨⟨⟨front _, forall_of_all (by decide), back _⟩, forall_of_all (by decide)⟩, repr _⟩
  · exact ⟨⟨⟨front _, forall_of_all (by decide), back _⟩, forall_of_all (by decide)⟩, repr _⟩

theorem number (n : Number) : ∀ c ∈ n.text.toList, InNumber c := by
  cases n with
  | whole n =>
    cases value : n.value with
    | ofNat m =>
      rw [Number.text, value]
      exact repr m
    | negSucc m =>
      have minus : toString (Int.negSucc m) = "-" ++ Nat.repr (m + 1) := rfl
      rw [Number.text, value, minus, String.toList_append, List.forall_mem_append]
      exact ⟨forall_of_all (by decide), repr (m + 1)⟩
  | double d =>
    rw [Number.text, Number.Double.text, String.toList_append, List.forall_mem_append]
    refine ⟨?_, write _ _⟩
    split <;> exact forall_of_all (by decide)

end InNumber

theorem Number.trimmed_text (n : Number) : Text.Trimmed n.text.toList :=
  .of_all fun c member => (InNumber.number n c member).isBlank_eq_false

namespace Printable

theorem hexDigit : ∀ n < 16, Printable (hexDigit n) := by decide

theorem escapeChar (c : Char) : ∀ d ∈ escapeChar c, Printable d := by
  unfold Json.escapeChar
  split_ifs with isQuote isBackslash isBackspace isFeed isLine isReturn isTab isControl
  iterate 7 exact forall_of_all (by decide)
  · simp only [List.forall_mem_cons]
    exact ⟨by decide, by decide, by decide, by decide, hexDigit _ (by omega),
      hexDigit _ (by omega), by simp⟩
  · simpa [Printable] using isControl

theorem quoted (s : String) : ∀ c ∈ quoted s, Printable c := by
  unfold Json.quoted
  rw [List.cons_append, List.forall_mem_cons, List.forall_mem_append]
  refine ⟨by decide, ?_, forall_of_all (by decide)⟩
  intro c member
  obtain ⟨written, -, inside⟩ := List.mem_flatMap.mp member
  exact escapeChar written c inside

theorem number (n : Number) : ∀ c ∈ n.text.toList, Printable c :=
  fun c member => (InNumber.number n c member).printable

theorem compactItems {items : List Value}
    (all : ∀ item ∈ items, ∀ c ∈ item.compactChars, Printable c) :
    ∀ c ∈ Value.compactItems items, Printable c := by
  induction items with
  | nil => simp [Value.compactItems]
  | cons item later ih =>
    obtain ⟨first, others⟩ := List.forall_mem_cons.mp all
    cases later with
    | nil => exact first
    | cons second more =>
      change ∀ c ∈ item.compactChars ++ ',' :: Value.compactItems (second :: more), Printable c
      rw [List.forall_mem_append, List.forall_mem_cons]
      exact ⟨first, by decide, ih others⟩

theorem compactFields {fields : List (String × Value)}
    (all : ∀ field ∈ fields, ∀ c ∈ field.2.compactChars, Printable c) :
    ∀ c ∈ Value.compactFields fields, Printable c := by
  induction fields with
  | nil => simp [Value.compactFields]
  | cons field later ih =>
    obtain ⟨key, v⟩ := field
    obtain ⟨first, others⟩ := List.forall_mem_cons.mp all
    have member : ∀ c ∈ Json.quoted key ++ ':' :: v.compactChars, Printable c := by
      rw [List.forall_mem_append, List.forall_mem_cons]
      exact ⟨quoted key, by decide, first⟩
    cases later with
    | nil => exact member
    | cons second more =>
      change ∀ c ∈ (Json.quoted key ++ ':' :: v.compactChars) ++
        ',' :: Value.compactFields (second :: more), Printable c
      rw [List.forall_mem_append, List.forall_mem_cons]
      exact ⟨member, by decide, ih others⟩

theorem compactChars (v : Value) : ∀ c ∈ v.compactChars, Printable c := by
  induction v using Value.induction with
  | null => exact forall_of_all (by decide)
  | bool b => cases b <;> exact forall_of_all (by decide)
  | number n => exact number n
  | string s => exact quoted s
  | array items ih =>
    rw [Value.compactChars, List.cons_append, List.forall_mem_cons, List.forall_mem_append]
    exact ⟨by decide, compactItems ih, forall_of_all (by decide)⟩
  | object fields ih =>
    rw [Value.compactChars, List.cons_append, List.forall_mem_cons, List.forall_mem_append]
    exact ⟨by decide, compactFields ih, forall_of_all (by decide)⟩

end Printable

namespace Layout

def compact : Layout where
  line _ := []
  gap := []
  lineBlank := by simp
  gapBlank := by simp

end Layout

namespace Value

theorem compactItems_eq {items : List Value}
    (all : ∀ item ∈ items, ∀ level, item.compactChars = Layout.compact.value level item)
    (level : Nat) : compactItems items = Layout.compact.items level items := by
  induction items with
  | nil => rfl
  | cons item later ih =>
    obtain ⟨first, others⟩ := List.forall_mem_cons.mp all
    cases later with
    | nil =>
      rw [compactItems, Layout.items, first level]
      rfl
    | cons second more =>
      change item.compactChars ++ ',' :: compactItems (second :: more) = _
      rw [first level, ih others]
      rfl

theorem compactFields_eq {fields : List (String × Value)}
    (all : ∀ field ∈ fields, ∀ level,
      field.2.compactChars = Layout.compact.value level field.2)
    (level : Nat) : compactFields fields = Layout.compact.fields level fields := by
  induction fields with
  | nil => rfl
  | cons field later ih =>
    obtain ⟨key, v⟩ := field
    obtain ⟨first, others⟩ := List.forall_mem_cons.mp all
    cases later with
    | nil =>
      rw [compactFields, Layout.fields, first level]
      rfl
    | cons second more =>
      change quoted key ++ ':' :: v.compactChars ++ ',' :: compactFields (second :: more) = _
      rw [first level, ih others]
      rfl

theorem compactChars_eq (v : Value) (level : Nat) :
    v.compactChars = Layout.compact.value level v := by
  have tight (level : Nat) : Layout.compact.line level = [] := rfl
  induction v using Value.induction generalizing level with
  | null | number | string => rfl
  | bool b => cases b <;> rfl
  | array items ih =>
    cases items with
    | nil => rfl
    | cons item later =>
      rw [compactChars, Layout.value, compactItems_eq ih (level + 1), tight, List.append_nil]
  | object fields ih =>
    cases fields with
    | nil => rfl
    | cons field later =>
      rw [compactChars, Layout.value, compactFields_eq ih (level + 1), tight, List.append_nil]

/-- The text is read as one value to its end, however deep it nests. -/
theorem read_compactChars (v : Value) :
    ∃ fuel depth, Parser.value fuel depth v.compactChars = .ok (v.reread, []) := by
  have reads := (Layout.reads (l := .compact) (Nat.le_refl v.nesting)).read 0 _ []
    Parser.closes_nil (Nat.le_refl _)
  rw [List.append_nil, ← compactChars_eq] at reads
  exact ⟨_, _, reads⟩

/-- What is written without blanks is read again. -/
theorem parse_compact {v : Value} (ordered : v.Ordered)
    (shallow : v.nesting ≤ Parser.nestingLimit) : parse v.compact = .ok v.reread := by
  rw [compact, v.compactChars_eq 0]
  exact Layout.compact.parse_value 0 ordered shallow

theorem compactChars_ne_nil (v : Value) : v.compactChars ≠ [] := by
  obtain ⟨c, later, written, -⟩ := (Layout.reads (l := .compact) (Nat.le_refl v.nesting)).starts 0
  rw [v.compactChars_eq 0, written]
  exact List.cons_ne_nil c later

theorem trimmed_compactChars (v : Value) : Text.Trimmed v.compactChars := by
  cases v with
  | null => exact .of_all (forall_of_all (by decide))
  | bool b => cases b <;> exact .of_all (forall_of_all (by decide))
  | number n => exact n.trimmed_text
  | string | array | object => exact .enclosed (by decide) (by decide)

end Value

end Scenario.Json
