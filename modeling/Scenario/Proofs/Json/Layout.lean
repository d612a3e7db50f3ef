import Mathlib.Tactic.SplitIfs
import Scenario.Json.Printer
import Scenario.Proofs.Json.Reread
/-!
Writing and reading JSON.

Both ways of writing put the same tokens one after the other and differ in the blanks between them,
which are given by a `Layout`. In whatever layout a value is written, it is read again, if it does
not nest too deep: as the same value, but with its doubles as their texts are read.
-/
namespace Scenario.Json

/-- Where blanks stand: before each item and field, given the number of arrays and objects that
enclose it, and behind colons. -/
structure Layout where
  line : Nat → List Char
  gap : List Char
  lineBlank : ∀ level, ∀ c ∈ line level, Parser.isSpace c = true
  gapBlank : ∀ c ∈ gap, Parser.isSpace c = true

namespace Layout

mutual
/-- The text of a value in a layout, within so many arrays and objects. -/
def value (l : Layout) (level : Nat) : Value → List Char
  | .null => "null".toList
  | .bool true => "true".toList
  | .bool false => "false".toList
  | .number n => n.text.toList
  | .string s => quoted s
  | .array [] => ['[', ']']
  | .array (item :: later) => '[' :: l.items (level + 1) (item :: later) ++ l.line level ++ [']']
  | .object [] => ['{', '}']
  | .object (field :: later) =>
    '{' :: l.fields (level + 1) (field :: later) ++ l.line level ++ ['}']

def items (l : Layout) (level : Nat) : List Value → List Char
  | [] => []
  | [item] => l.line level ++ l.value level item
  | item :: later => l.line level ++ l.value level item ++ ',' :: l.items level later

def fields (l : Layout) (level : Nat) : List (String × Value) → List Char
  | [] => []
  | [(key, value)] => l.line level ++ quoted key ++ ':' :: (l.gap ++ l.value level value)
  | (key, value) :: later =>
    l.line level ++ quoted key ++ ':' :: (l.gap ++ l.value level value)
      ++ ',' :: l.fields level later
end

def pretty : Layout where
  line := Value.newLine
  gap := [' ']
  lineBlank := by
    intro level c member
    rcases List.mem_cons.mp member with rfl | inside
    · rfl
    · rw [List.eq_of_mem_replicate inside]
      rfl
  gapBlank := by
    intro c member
    rw [List.mem_singleton.mp member]
    rfl

end Layout

namespace Parser

variable {fuel depth : Nat} {text rest later : List Char} {c : Char}

theorem skip_append {blanks : List Char} (blank : ∀ c ∈ blanks, isSpace c = true)
    (text : List Char) : skip (blanks ++ text) = skip text :=
  List.dropWhile_append_of_pos blank

theorem skip_cons (solid : isSpace c = false) : skip (c :: later) = c :: later :=
  List.dropWhile_cons_of_neg (by simp [solid])

theorem closes_comma : Closes (',' :: later) := by
  rintro c ⟨⟩
  exact .inr (.inl rfl)

theorem closes_bracket : Closes (']' :: later) := by
  rintro c ⟨⟩
  exact .inr (.inr (.inl rfl))

theorem closes_brace : Closes ('}' :: later) := by
  rintro c ⟨⟩
  exact .inr (.inr (.inr rfl))

theorem closes_of_skip (closing : skip text = c :: later) (closes : Closes (c :: later)) :
    Closes text := by
  cases text with
  | nil => exact closes_nil
  | cons first others =>
    cases blank : isSpace first with
    | true =>
      rintro other ⟨⟩
      exact .inl blank
    | false =>
      rw [skip_cons blank] at closing
      rwa [closing]

theorem word_append (letters : List Char) (v : Value) (rest : List Char) :
    word letters v (letters ++ rest) = .ok (v, rest) := by
  induction letters with
  | nil => cases rest <;> rfl
  | cons letter letters ih =>
    rw [List.cons_append, word, if_pos rfl]
    exact ih

section Strings

theorem hexQuad_hexDigit :
    ∀ n < 32, hexQuad '0' '0' (hexDigit (n / 16)) (hexDigit (n % 16)) = some n := by
  decide

theorem stringBody_escapeChar (read : List Char) (c : Char) (later : List Char) :
    stringBody read (escapeChar c ++ later) = stringBody (c :: read) later := by
  unfold escapeChar
  split_ifs with isQuote isBackslash isBackspace isFeed isLine isReturn isTab isControl
  · simp [isQuote, stringBody, shortEscape]
  · simp [isBackslash, stringBody, shortEscape]
  · simp [isBackspace, stringBody, shortEscape]
  · simp [isFeed, stringBody, shortEscape]
  · simp [isLine, stringBody, shortEscape]
  · simp [isReturn, stringBody, shortEscape]
  · simp [isTab, stringBody, shortEscape]
  · -- Only control characters are written by their codes, and these are no surrogates.
    have code := hexQuad_hexDigit c.toNat isControl
    have noTrailing : isTrailing c.toNat = false := by
      simp [isTrailing]
      omega
    have noLeading : isLeading c.toNat = false := by
      simp [isLeading]
      omega
    simp [stringBody, code, noTrailing, noLeading]
  · simp [stringBody, isBackslash, isControl]

theorem stringBody_escaped (read cs rest : List Char) :
    stringBody read (cs.flatMap escapeChar ++ '"' :: rest) =
      .ok (String.ofList (read.reverse ++ cs), rest) := by
  induction cs generalizing read with
  | nil => simp [stringBody]
  | cons c cs ih =>
    rw [List.flatMap_cons, List.append_assoc, stringBody_escapeChar, ih, List.reverse_cons,
      List.append_assoc]
    rfl

/-- What stands between quotes is read back, the opening quote having been read. -/
theorem stringBody_quoted (s : String) (rest : List Char) :
    stringBody [] (s.toList.flatMap escapeChar ++ '"' :: rest) = .ok (s, rest) := by
  rw [stringBody_escaped, List.reverse_nil, List.nil_append, String.ofList_toList]

end Strings

theorem value_blank {blanks : List Char} (blank : ∀ c ∈ blanks, isSpace c = true)
    (text : List Char) : value (fuel + 1) depth (blanks ++ text) = value (fuel + 1) depth text := by
  rw [value, value, skip_append blank]

theorem solid_of_number (start : (c.isDigit || c == '-') = true) :
    isSpace c = false ∧ c ≠ ']' := by
  by_cases minus : c = '-'
  · rw [minus]
    decide
  · have digit : c.isDigit = true := by simpa [minus] using start
    constructor
    · cases blank : isSpace c with
      | false => rfl
      | true =>
        have closes : Closes [c] := by
          rintro other ⟨⟩
          exact .inl blank
        rw [closes.head.1] at digit
        cases digit
    · rintro rfl
      cases digit

theorem value_number (start : (c.isDigit || c == '-') = true) :
    value (fuel + 1) depth (c :: later) = number (c :: later) := by
  rw [value, skip_cons (solid_of_number start).1]
  split
  · rename_i same
    cases same
  iterate 6
    · rename_i same
      cases same
      cases start
  · rename_i same
    cases same
    rw [if_pos start]

theorem value_string (s : String) (rest : List Char) :
    value (fuel + 1) depth (quoted s ++ rest) = .ok (.string s, rest) := by
  have text : quoted s ++ rest = '"' :: (s.toList.flatMap escapeChar ++ '"' :: rest) := by
    simp [quoted]
  have opened (later : List Char) : value (fuel + 1) depth ('"' :: later) =
      stringBody [] later >>= fun read => .ok (.string read.1, read.2) := rfl
  rw [text, opened, stringBody_quoted]
  rfl

/-- An array is read if its items are. -/
theorem value_array {items : List Value} (inside : skip text = c :: later) (more : c ≠ ']')
    (read : Parser.items fuel depth (c :: later) = .ok (items, rest)) :
    value (fuel + 1) (depth + 1) ('[' :: text) = .ok (.array items, rest) := by
  rw [value, skip_cons (by decide)]
  simp only [inside]
  split
  · rename_i same
    cases same
    exact absurd rfl more
  · rename_i same
    cases same
  · rw [read]
    rfl

theorem value_object {fields : List (String × Value)} (inside : skip text = '"' :: later)
    (read : Parser.fields fuel depth later = .ok (fields, rest)) :
    value (fuel + 1) (depth + 1) ('{' :: text) = .ok (.object fields, rest) := by
  rw [value, skip_cons (by decide)]
  simp only [inside, read]
  rfl

section Members

variable {item : Value} {after : List Char}

theorem items_last (read : value fuel depth text = .ok (item, after))
    (closing : skip after = ']' :: rest) :
    items (fuel + 1) depth text = .ok ([item], rest) := by
  rw [items, read]
  simp only [bind, Except.bind, closing]

theorem items_more {items : List Value} (read : value fuel depth text = .ok (item, ',' :: after))
    (onward : skip after = c :: later) (more : c ≠ ']')
    (others : Parser.items fuel depth (c :: later) = .ok (items, rest)) :
    Parser.items (fuel + 1) depth text = .ok (item :: items, rest) := by
  have comma : skip (',' :: after) = ',' :: after := skip_cons (by decide)
  rw [Parser.items, read]
  simp only [bind, Except.bind, comma, onward]
  split
  · rename_i same
    cases same
    exact absurd rfl more
  · rename_i same
    cases same
  · rw [others]
    rfl

theorem colon_colon (rest : List Char) : colon (':' :: rest) = .ok rest := rfl

theorem fields_last {key : String}
    (read : value fuel depth text = .ok (item, after)) (closing : skip after = '}' :: rest) :
    fields (fuel + 1) depth (key.toList.flatMap escapeChar ++ '"' :: ':' :: text) =
      .ok ([(key, item)], rest) := by
  rw [fields, stringBody_quoted]
  simp only [bind, Except.bind, colon_colon, read, moreFields, closing]
  rfl

theorem fields_more {key : String} {fields : List (String × Value)}
    (read : value fuel depth text = .ok (item, ',' :: after)) (onward : skip after = '"' :: later)
    (others : Parser.fields fuel depth later = .ok (fields, rest)) :
    Parser.fields (fuel + 1) depth (key.toList.flatMap escapeChar ++ '"' :: ':' :: text) =
      .ok ((key, item) :: fields, rest) := by
  have comma : skip (',' :: after) = ',' :: after := skip_cons (by decide)
  rw [Parser.fields, stringBody_quoted]
  simp only [bind, Except.bind, colon_colon, read, moreFields, comma, onward, others]
  rfl

end Members

end Parser

namespace Layout

/-- Written in the layout, the value is read again, whatever stands behind it and closes it. -/
structure Reads (l : Layout) (depth : Nat) (v : Value) : Prop where
  starts : ∀ level, ∃ c later, l.value level v = c :: later ∧ Parser.isSpace c = false ∧ c ≠ ']'
  read : ∀ (level fuel : Nat) (rest : List Char), Parser.Closes rest →
    2 * (l.value level v ++ rest).length + 1 ≤ fuel →
    Parser.value fuel depth (l.value level v ++ rest) = .ok (v.reread, rest)

variable {l : Layout} {level fuel depth : Nat} {tail rest : List Char}

section Shape

variable (l : Layout) (level : Nat) (tail : List Char)

theorem items_singleton_append (item : Value) :
    l.items level [item] ++ tail = l.line level ++ (l.value level item ++ tail) := by
  rw [items, List.append_assoc]

theorem items_cons_append (item second : Value) (more : List Value) :
    l.items level (item :: second :: more) ++ tail = l.line level ++
      (l.value level item ++ ',' :: (l.items level (second :: more) ++ tail)) := by
  simp [items]

theorem fields_singleton_append (key : String) (v : Value) :
    l.fields level [(key, v)] ++ tail = l.line level ++ '"' ::
      (key.toList.flatMap escapeChar ++ '"' :: ':' :: (l.gap ++ (l.value level v ++ tail))) := by
  simp [fields, quoted]

theorem fields_cons_append (key : String) (v : Value) (second : String × Value)
    (more : List (String × Value)) :
    l.fields level ((key, v) :: second :: more) ++ tail = l.line level ++ '"' ::
      (key.toList.flatMap escapeChar ++ '"' :: ':' :: (l.gap ++ (l.value level v ++
        ',' :: (l.fields level (second :: more) ++ tail)))) := by
  simp [fields, quoted]

end Shape

theorem Reads.read_gap {v : Value} (reads : l.Reads depth v) (closes : Parser.Closes rest)
    (enough : 2 * (l.value level v ++ rest).length + 1 ≤ fuel) :
    Parser.value fuel depth (l.gap ++ (l.value level v ++ rest)) = .ok (v.reread, rest) := by
  cases fuel with
  | zero => omega
  | succ fuel =>
    rw [Parser.value_blank l.gapBlank]
    exact reads.read level (fuel + 1) rest closes enough

theorem reads_items {items : List Value} (some : items ≠ [])
    (all : ∀ item ∈ items, l.Reads depth item) (closing : Parser.skip tail = ']' :: rest)
    (enough : 2 * (l.items level items ++ tail).length + 2 ≤ fuel) :
    ∃ c later, Parser.skip (l.items level items ++ tail) = c :: later ∧ c ≠ ']' ∧
      Parser.items fuel depth (c :: later) = .ok (items.map Value.reread, rest) := by
  induction items generalizing fuel with
  | nil => exact absurd rfl some
  | cons item later ih =>
    obtain ⟨reads, others⟩ := List.forall_mem_cons.mp all
    obtain ⟨c, text, written, solid, opens⟩ := reads.starts level
    cases fuel with
    | zero => omega
    | succ fuel =>
      cases later with
      | nil =>
        -- The last item is closed by the blanks and the bracket, every other one by its comma.
        have closes := Parser.closes_of_skip closing Parser.closes_bracket
        rw [items_singleton_append] at enough ⊢
        rw [List.length_append] at enough
        have enoughHere : 2 * (l.value level item ++ tail).length + 1 ≤ fuel := by omega
        have read := reads.read level fuel tail closes enoughHere
        rw [Parser.skip_append (l.lineBlank level)]
        rw [written, List.cons_append] at read ⊢
        exact ⟨c, text ++ tail, Parser.skip_cons solid, opens, Parser.items_last read closing⟩
      | cons second more =>
        rw [items_cons_append, List.length_append, List.length_append, List.length_cons] at enough
        have enoughLater : 2 * (l.items level (second :: more) ++ tail).length + 2 ≤ fuel := by
          omega
        have enoughHere : 2 * (l.value level item ++ ',' ::
            (l.items level (second :: more) ++ tail)).length + 1 ≤ fuel := by
          rw [List.length_append, List.length_cons]
          omega
        obtain ⟨first, onward, skipped, notClosed, readOthers⟩ :=
          ih (List.cons_ne_nil second more) others enoughLater
        have read := reads.read level fuel _ Parser.closes_comma enoughHere
        rw [items_cons_append, Parser.skip_append (l.lineBlank level)]
        rw [written, List.cons_append] at read ⊢
        exact ⟨c, _, Parser.skip_cons solid, opens,
          Parser.items_more read skipped notClosed readOthers⟩

theorem reads_fields {fields : List (String × Value)} (some : fields ≠ [])
    (all : ∀ field ∈ fields, l.Reads depth field.2) (closing : Parser.skip tail = '}' :: rest)
    (enough : 2 * (l.fields level fields ++ tail).length + 2 ≤ fuel) :
    ∃ later, Parser.skip (l.fields level fields ++ tail) = '"' :: later ∧
      Parser.fields fuel depth later =
        .ok (fields.map fun field => (field.1, field.2.reread), rest) := by
  induction fields generalizing fuel with
  | nil => exact absurd rfl some
  | cons field later ih =>
    obtain ⟨key, v⟩ := field
    obtain ⟨reads, others⟩ := List.forall_mem_cons.mp all
    cases fuel with
    | zero => omega
    | succ fuel =>
      cases later with
      | nil =>
        have closes := Parser.closes_of_skip closing Parser.closes_brace
        rw [fields_singleton_append] at enough ⊢
        simp only [List.length_append, List.length_cons] at enough
        have enoughHere : 2 * (l.value level v ++ tail).length + 1 ≤ fuel := by
          rw [List.length_append]
          omega
        have read := reads.read_gap closes enoughHere
        rw [Parser.skip_append (l.lineBlank level)]
        exact ⟨_, Parser.skip_cons (by decide), Parser.fields_last read closing⟩
      | cons second more =>
        rw [fields_cons_append] at enough ⊢
        simp only [List.length_append, List.length_cons] at enough
        have enoughLater : 2 * (l.fields level (second :: more) ++ tail).length + 2 ≤ fuel := by
          rw [List.length_append]
          omega
        have enoughHere : 2 * (l.value level v ++ ',' ::
            (l.fields level (second :: more) ++ tail)).length + 1 ≤ fuel := by
          simp only [List.length_append, List.length_cons]
          omega
        obtain ⟨onward, skipped, readOthers⟩ := ih (List.cons_ne_nil second more) others enoughLater
        have read := reads.read_gap Parser.closes_comma enoughHere
        rw [Parser.skip_append (l.lineBlank level)]
        exact ⟨_, Parser.skip_cons (by decide), Parser.fields_more read skipped readOthers⟩

theorem Reads.of_succ {v : Value}
    (starts : ∀ level, ∃ c later, l.value level v = c :: later ∧ Parser.isSpace c = false ∧ c ≠ ']')
    (read : ∀ (level fuel : Nat) (rest : List Char), Parser.Closes rest →
      2 * (l.value level v ++ rest).length ≤ fuel →
      Parser.value (fuel + 1) depth (l.value level v ++ rest) = .ok (v.reread, rest)) :
    l.Reads depth v := by
  refine ⟨starts, fun level fuel rest closes enough => ?_⟩
  cases fuel with
  | zero => omega
  | succ fuel => exact read level fuel rest closes (Nat.le_of_succ_le_succ enough)

/-- A value whose text is the same everywhere, whatever stands behind it. -/
theorem reads_fixed {v : Value} {c : Char} {letters : List Char}
    (written : ∀ level, l.value level v = c :: letters)
    (starts : Parser.isSpace c = false ∧ c ≠ ']')
    (read : ∀ fuel rest,
      Parser.value (fuel + 1) depth (c :: (letters ++ rest)) = .ok (v.reread, rest)) :
    l.Reads depth v := by
  refine .of_succ (fun level => ⟨c, letters, written level, starts⟩) ?_
  intro level fuel rest _ _
  rw [written, List.cons_append]
  exact read fuel rest

theorem reads_number (n : Number) : l.Reads depth (.number n) := by
  have read := n.reads_text
  obtain ⟨c, later, written, start⟩ := Parser.head_of_number read
  refine .of_succ (fun level => ⟨c, later, written, Parser.solid_of_number start⟩) ?_
  intro level fuel rest closes _
  have whole := Parser.number_append closes read
  rw [value]
  rw [written, List.cons_append] at whole ⊢
  rw [Parser.value_number start, whole, List.nil_append]

theorem reads_array {items : List Value} (all : ∀ item ∈ items, l.Reads depth item) :
    l.Reads (depth + 1) (.array items) := by
  cases items with
  | nil => exact reads_fixed (fun _ => rfl) (by decide) fun _ _ => rfl
  | cons item later =>
    refine .of_succ (fun level => ⟨'[', _, rfl, rfl, by decide⟩) ?_
    intro level fuel rest _ enough
    have shape : l.value level (.array (item :: later)) ++ rest =
        '[' :: (l.items (level + 1) (item :: later) ++ (l.line level ++ ']' :: rest)) := by
      simp [value]
    have closing : Parser.skip (l.line level ++ ']' :: rest) = ']' :: rest :=
      Parser.skip_append (l.lineBlank level) _
    rw [shape, List.length_cons] at enough
    obtain ⟨c, text, skipped, opens, read⟩ :=
      reads_items (List.cons_ne_nil item later) all closing enough
    rw [shape, Value.reread, Value.mapDoubles_array]
    exact Parser.value_array skipped opens read

theorem reads_object {fields : List (String × Value)}
    (all : ∀ field ∈ fields, l.Reads depth field.2) : l.Reads (depth + 1) (.object fields) := by
  cases fields with
  | nil => exact reads_fixed (fun _ => rfl) (by decide) fun _ _ => rfl
  | cons field later =>
    refine .of_succ (fun level => ⟨'{', _, rfl, rfl, by decide⟩) ?_
    intro level fuel rest _ enough
    have shape : l.value level (.object (field :: later)) ++ rest =
        '{' :: (l.fields (level + 1) (field :: later) ++ (l.line level ++ '}' :: rest)) := by
      simp [value]
    have closing : Parser.skip (l.line level ++ '}' :: rest) = '}' :: rest :=
      Parser.skip_append (l.lineBlank level) _
    rw [shape, List.length_cons] at enough
    obtain ⟨text, skipped, read⟩ :=
      reads_fields (List.cons_ne_nil field later) all closing enough
    rw [shape, Value.reread, Value.mapDoubles_object]
    exact Parser.value_object skipped read

/-- In every layout a value is read again that does not nest too deep. -/
theorem reads {v : Value} (shallow : v.nesting ≤ depth) : l.Reads depth v := by
  induction v using Value.induction generalizing depth with
  | null =>
    exact reads_fixed (fun _ => rfl) (by decide) fun _ => Parser.word_append "ull".toList _
  | bool b =>
    cases b with
    | true =>
      exact reads_fixed (fun _ => rfl) (by decide) fun _ => Parser.word_append "rue".toList _
    | false =>
      exact reads_fixed (fun _ => rfl) (by decide) fun _ => Parser.word_append "alse".toList _
  | number n => exact reads_number n
  | string s =>
    refine .of_succ (fun level => ⟨'"', _, rfl, rfl, by decide⟩) ?_
    exact fun level fuel rest _ _ => Parser.value_string s rest
  | array items ih =>
    rw [Value.nesting] at shallow
    cases depth with
    | zero => omega
    | succ depth =>
      have inside := (Value.nestingItems_le_iff items depth).mp (by omega)
      exact reads_array fun item member => ih item member (inside item member)
  | object fields ih =>
    rw [Value.nesting] at shallow
    cases depth with
    | zero => omega
    | succ depth =>
      have inside := (Value.nestingFields_le_iff fields depth).mp (by omega)
      exact reads_object fun field member => ih field member (inside field member)

/-- A text in some layout is read as the value that was written, with its doubles read again. -/
theorem parse_value (l : Layout) (level : Nat) {v : Value} (ordered : v.Ordered)
    (shallow : v.nesting ≤ Parser.nestingLimit) :
    parse (String.ofList (l.value level v)) = .ok v.reread := by
  -- The fuel for a text is twice its length and two, so it never runs out first.
  have enough : 2 * (l.value level v ++ []).length + 1 ≤ Parser.fuelFor (l.value level v) := by
    rw [List.append_nil, Parser.fuelFor]
    omega
  have read := (l.reads shallow).read level _ [] Parser.closes_nil enough
  rw [List.append_nil] at read
  have whole : Parser.document Parser.nestingLimit (l.value level v) = .ok v.reread := by
    rw [Parser.document, read]
    rfl
  rw [parse, parseAsWritten, String.toList_ofList, whole]
  exact congrArg Except.ok (Value.normalize_of_ordered (Value.ordered_mapDoubles _ ordered))

end Layout

namespace Value

theorem prettyItems_eq {items : List Value}
    (all : ∀ item ∈ items, ∀ level, item.prettyChars level = Layout.pretty.value level item)
    (level : Nat) : prettyItems level items = Layout.pretty.items level items := by
  induction items with
  | nil => rfl
  | cons item later ih =>
    obtain ⟨first, others⟩ := List.forall_mem_cons.mp all
    cases later with
    | nil =>
      rw [prettyItems, Layout.items, first]
      rfl
    | cons second more =>
      change newLine level ++ item.prettyChars level ++
        ',' :: prettyItems level (second :: more) = _
      rw [first, ih others]
      rfl

theorem prettyFields_eq {fields : List (String × Value)}
    (all : ∀ field ∈ fields, ∀ level,
      field.2.prettyChars level = Layout.pretty.value level field.2)
    (level : Nat) : prettyFields level fields = Layout.pretty.fields level fields := by
  induction fields with
  | nil => rfl
  | cons field later ih =>
    obtain ⟨key, v⟩ := field
    obtain ⟨first, others⟩ := List.forall_mem_cons.mp all
    cases later with
    | nil =>
      rw [prettyFields, Layout.fields, first]
      rfl
    | cons second more =>
      change newLine level ++ quoted key ++ ':' :: ' ' :: v.prettyChars level ++
        ',' :: prettyFields level (second :: more) = _
      rw [first, ih others]
      rfl

theorem prettyChars_eq (v : Value) (level : Nat) :
    v.prettyChars level = Layout.pretty.value level v := by
  induction v using Value.induction generalizing level with
  | null | number | string => rfl
  | bool b => cases b <;> rfl
  | array items ih =>
    cases items with
    | nil => rfl
    | cons item later =>
      rw [prettyChars, Layout.value, prettyItems_eq ih]
      rfl
  | object fields ih =>
    cases fields with
    | nil => rfl
    | cons field later =>
      rw [prettyChars, Layout.value, prettyFields_eq ih]
      rfl

theorem parse_pretty {v : Value} (ordered : v.Ordered)
    (shallow : v.nesting ≤ Parser.nestingLimit) : parse v.pretty = .ok v.reread := by
  rw [pretty, prettyChars_eq]
  exact Layout.pretty.parse_value 0 ordered shallow

end Value

end Scenario.Json
