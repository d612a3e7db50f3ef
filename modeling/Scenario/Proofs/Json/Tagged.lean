import Scenario.Json.Tagged
import Scenario.Proofs.Json.Compact
import Scenario.Proofs.Json.Fields
/-!
Tagged variants written and read.

The reader of a tagged variant goes along its text and looks for the tag while it reads. In whatever
layout an object is written and whatever its fields, this reader finds the variant that is found
among the fields themselves, and has read the other fields as they are read by any reader. Of the
text of a value whose doubles are read as they are it decodes what is decoded from the value itself.
-/
namespace Scenario.Json

namespace Value

/-- The text of the value is read as the value itself. -/
def ReadsBack (v : Value) : Prop := parse v.compact = .ok v

/-- A value is read back if its fields are in order, it does not nest too deep and its doubles are
read as they are. -/
theorem readsBack_iff (v : Value) :
    v.ReadsBack ↔ v.Ordered ∧ v.nesting ≤ Parser.nestingLimit ∧ v.reread = v := by
  constructor
  · intro back
    obtain ⟨ordered, shallow⟩ := ordered_of_parse back
    exact ⟨ordered, shallow, Except.ok.inj ((parse_compact ordered shallow).symm.trans back)⟩
  · rintro ⟨ordered, shallow, same⟩
    rw [ReadsBack, parse_compact ordered shallow, same]

theorem normalize_eq_self_iff (v : Value) : v.normalize = v ↔ v.Ordered := by
  constructor
  · intro same
    rw [← same]
    exact v.normalize_ordered
  · exact normalize_of_ordered

instance (v : Value) : Decidable v.ReadsBack :=
  decidable_of_iff (v.normalize = v ∧ v.nesting ≤ Parser.nestingLimit ∧ v.reread = v) (by
    rw [normalize_eq_self_iff, readsBack_iff])

theorem ordered_of_field? {v field : Value} {key : String} (ordered : v.Ordered)
    (found : v.field? key = some field) : field.Ordered := by
  cases v with
  | object fields =>
    rw [Ordered, orderedFields_iff] at ordered
    exact ordered.2 _ (Entries.mem_of_get? found)
  | null | bool | number | string | array => cases found

theorem reread_object_iff {fields : List (String × Value)} :
    (object fields).reread = .object fields ↔ ∀ field ∈ fields, field.2.reread = field.2 := by
  rw [reread, mapDoubles_object, object.injEq]
  constructor
  · intro kept field inside
    rw [← List.map_id fields, List.map_map, List.map_inj_left] at kept
    exact congrArg Prod.snd (kept field inside)
  · intro same
    have kept : ∀ field ∈ fields,
        (field.1, mapDoubles Number.Double.reread field.2) = field :=
      fun field inside => Prod.ext rfl (same field inside)
    rw [List.map_congr_left kept, List.map_id']

/-- The value nests no deeper and its doubles are read as they are, in whatever order its fields
stand. -/
structure Lasting (depth : Nat) (v : Value) : Prop where
  shallow : v.nesting ≤ depth
  same : v.reread = v

theorem ReadsBack.lasting {v : Value} (back : v.ReadsBack) : v.Lasting Parser.nestingLimit :=
  have reads := (readsBack_iff v).mp back
  ⟨reads.2.1, reads.2.2⟩

theorem lasting_object_iff {depth : Nat} {fields : List (String × Value)} :
    (object fields).Lasting (depth + 1) ↔ ∀ field ∈ fields, field.2.Lasting depth := by
  constructor
  · intro lasting field inside
    have shallow := Nat.le_of_succ_le_succ lasting.shallow
    exact ⟨(nestingFields_le_iff fields depth).mp shallow field inside,
      reread_object_iff.mp lasting.same field inside⟩
  · intro all
    have shallow :=
      (nestingFields_le_iff fields depth).mpr fun field inside => (all field inside).shallow
    exact ⟨Nat.succ_le_succ shallow,
      reread_object_iff.mpr fun field inside => (all field inside).same⟩

theorem Puts.lasting_iff {make : List (String × Value) → Value} (puts : Puts make) {depth : Nat}
    {fields : List (String × Value)} (distinct : (fields.map Prod.fst).Nodup) :
    (make fields).Lasting (depth + 1) ↔ ∀ field ∈ fields, field.2.Lasting depth := by
  obtain ⟨kept, made, perm⟩ := puts fields distinct
  rw [made, lasting_object_iff]
  exact forall_congr' fun field => imp_congr_left perm.mem_iff

end Value

namespace Tagged

variable {α : Type} {tag : String} {variants : List (Variant α)} {fuel depth : Nat}
  {found picked : Option (Variant α)} {before : List (String × Value)}

/-- The value of one field, behind its colon. -/
def member (tag : String) (variants : List (Variant α)) (fuel depth : Nat)
    (found : Option (Variant α)) (before : List (String × Value)) (name : String)
    (text : List Char) : Except Halt (Option (Variant α) × List (String × Value) × List Char) :=
  if name = tag then do
    let (variant, rest) ← tagValue fuel depth variants text
    pure (some variant, before, rest)
  else do
    let (v, rest) ← reading (Parser.value fuel depth text)
    pure (found, before ++ [(name, v)], rest)

section Fields

variable {key : String} {text after later rest : List Char}
  {next : Option (Variant α)} {kept : List (String × Value)}

theorem fields_succ (single : ¬ (key = tag ∧ found.isSome))
    (read : member tag variants fuel depth found before key text = .ok (next, kept, after)) :
    fields tag variants (fuel + 1) depth found before
        (key.toList.flatMap escapeChar ++ '"' :: ':' :: text) = do
      let (more, rest) ← reading (Parser.moreFields after)
      if more then fields tag variants fuel depth next kept rest
      else return (next, kept, rest) := by
  rw [fields, Parser.stringBody_quoted]
  by_cases same : key = tag
  · rw [member, if_pos same] at read
    obtain ⟨⟨variant, behind⟩, value, done⟩ := Success.bind_iff.mp read
    cases done
    simp only [reading, Except.mapError, bind, Except.bind, if_neg single, Parser.colon_colon,
      if_pos same, value]
    rfl
  · rw [member, if_neg same] at read
    obtain ⟨⟨v, behind⟩, value, done⟩ := Success.bind_iff.mp read
    cases done
    rw [reading, Success.mapError_iff] at value
    simp only [reading, Except.mapError, bind, Except.bind, if_neg single, Parser.colon_colon,
      if_neg same, value]
    rfl

theorem fields_last (single : ¬ (key = tag ∧ found.isSome))
    (read : member tag variants fuel depth found before key text = .ok (next, kept, after))
    (closing : Parser.skip after = '}' :: rest) :
    fields tag variants (fuel + 1) depth found before
      (key.toList.flatMap escapeChar ++ '"' :: ':' :: text) = .ok (next, kept, rest) := by
  rw [fields_succ single read, Parser.moreFields, closing]
  rfl

theorem fields_more (single : ¬ (key = tag ∧ found.isSome))
    (read : member tag variants fuel depth found before key text = .ok (next, kept, ',' :: after))
    (onward : Parser.skip after = '"' :: later) :
    fields tag variants (fuel + 1) depth found before
      (key.toList.flatMap escapeChar ++ '"' :: ':' :: text) =
        fields tag variants fuel depth next kept later := by
  have comma : Parser.skip (',' :: after) = ',' :: after := Parser.skip_cons (by decide)
  rw [fields_succ single read, Parser.moreFields, comma]
  simp only [onward]
  rfl

end Fields

section Written

variable {l : Layout} {level : Nat} {key : String} {v : Value} {after tail rest : List Char}
  {written later : List (String × Value)}

/-- What is read of fields beside their tag. -/
def untagged (tag : String) (written : List (String × Value)) : List (String × Value) :=
  (Entries.erase tag written).map fun field => (field.1, field.2.reread)

theorem untagged_cons (tag : String) (field : String × Value) (later : List (String × Value)) :
    untagged tag (field :: later) = untagged tag [field] ++ untagged tag later := by
  rw [untagged, untagged, untagged, ← List.map_append, Entries.erase, Entries.erase, Entries.erase,
    ← List.filter_append, List.singleton_append]

theorem string_of_ofTag {variant : Variant α}
    (named : Variant.ofTag .plain variants v = .ok variant) : ∃ name, v = .string name := by
  cases v with
  | string name => exact ⟨name, rfl⟩
  | number n => cases n <;> cases named
  | null | bool | array | object => cases named

theorem tagValue_written {variant : Variant α}
    (named : Variant.ofTag .plain variants v = .ok variant) :
    tagValue fuel depth variants (l.gap ++ (l.value level v ++ after)) = .ok (variant, after) := by
  obtain ⟨name, rfl⟩ := string_of_ofTag named
  have text : l.value level (.string name) ++ after =
      '"' :: (name.toList.flatMap escapeChar ++ '"' :: after) := by
    simp [Layout.value, quoted]
  rw [tagValue, Parser.skip_append l.gapBlank, text, Parser.skip_cons (by decide)]
  simp only [Parser.stringBody_quoted, reading, Except.mapError, bind, Except.bind, named]

theorem member_written (reads : l.Reads depth v) (closes : Parser.Closes after)
    (enough : 2 * (l.value level v ++ after).length + 1 ≤ fuel)
    (chosen : Variant.ofFields .plain tag variants found ((key, v) :: later) = .ok picked) :
    ¬ (key = tag ∧ found.isSome) ∧ ∃ next,
      member tag variants fuel depth found before key (l.gap ++ (l.value level v ++ after)) =
        .ok (next, before ++ untagged tag [(key, v)], after) ∧
      Variant.ofFields .plain tag variants next later = .ok picked := by
  rw [Variant.ofFields.eq_def] at chosen
  dsimp only at chosen
  by_cases same : key = tag
  · rw [if_pos same] at chosen
    cases found with
    | some variant => cases chosen
    | none =>
      obtain ⟨variant, named, others⟩ := Success.bind_iff.mp chosen
      refine ⟨by simp, some variant, ?_, others⟩
      rw [member, if_pos same, tagValue_written named]
      simp [untagged, Entries.erase, same]
  · rw [if_neg same] at chosen
    refine ⟨fun both => same both.1, found, ?_, chosen⟩
    rw [member, if_neg same, reads.read_gap closes enough]
    simp [untagged, Entries.erase, same, reading, Except.mapError]

theorem fields_written (filled : written ≠ []) (all : ∀ field ∈ written, l.Reads depth field.2)
    (closing : Parser.skip tail = '}' :: rest)
    (enough : 2 * (l.fields level written ++ tail).length + 2 ≤ fuel)
    (chosen : Variant.ofFields .plain tag variants found written = .ok picked) :
    ∃ later, Parser.skip (l.fields level written ++ tail) = '"' :: later ∧
      fields tag variants fuel depth found before later =
        .ok (picked, before ++ untagged tag written, rest) := by
  -- By induction on the fields, whatever was read before. A brace stands behind the last one and a
  -- comma behind each other one, so there are two lemmas for a field.
  induction written generalizing fuel found before with
  | nil => exact absurd rfl filled
  | cons field later ih =>
    obtain ⟨key, v⟩ := field
    have reads : l.Reads depth v := all (key, v) List.mem_cons_self
    have others := (List.forall_mem_cons.mp all).2
    cases fuel with
    | zero => omega
    | succ fuel =>
      cases later with
      | nil =>
        have closes := Parser.closes_of_skip closing Parser.closes_brace
        rw [Layout.fields_singleton_append] at enough ⊢
        simp only [List.length_append, List.length_cons] at enough
        have enoughHere : 2 * (l.value level v ++ tail).length + 1 ≤ fuel := by
          rw [List.length_append]
          omega
        obtain ⟨single, next, read, ends⟩ := member_written reads closes enoughHere chosen
        cases ends
        rw [Parser.skip_append (l.lineBlank level)]
        exact ⟨_, Parser.skip_cons (by decide), fields_last single read closing⟩
      | cons second more =>
        rw [Layout.fields_cons_append] at enough ⊢
        simp only [List.length_append, List.length_cons] at enough
        have enoughLater : 2 * (l.fields level (second :: more) ++ tail).length + 2 ≤ fuel := by
          rw [List.length_append]
          omega
        have enoughHere : 2 * (l.value level v ++ ',' ::
            (l.fields level (second :: more) ++ tail)).length + 1 ≤ fuel := by
          simp only [List.length_append, List.length_cons]
          omega
        obtain ⟨single, next, read, onward⟩ :=
          member_written reads Parser.closes_comma enoughHere chosen
        obtain ⟨text, skipped, readOthers⟩ :=
          ih (List.cons_ne_nil second more) others enoughLater onward
        rw [Parser.skip_append (l.lineBlank level)]
        refine ⟨_, Parser.skip_cons (by decide), ?_⟩
        rw [fields_more single read skipped, readOthers,
          untagged_cons tag (key, v) (second :: more), List.append_assoc]

/-- The variant is found and its content is read, whatever stands behind the object. -/
theorem variant_written (kind : String) {variant : Variant α}
    (all : ∀ field ∈ written, l.Reads depth field.2)
    (enough : 2 * (l.value level (.object written) ++ rest).length ≤ fuel)
    (chosen : Variant.ofFields .plain tag variants none written = .ok (some variant)) :
    Tagged.variant fuel depth tag kind variants (l.value level (.object written) ++ rest) =
      .ok (variant, .object (untagged tag written), rest) := by
  cases written with
  | nil => cases chosen
  | cons field later =>
    have shape : l.value level (.object (field :: later)) ++ rest =
        '{' :: (l.fields (level + 1) (field :: later) ++ (l.line level ++ '}' :: rest)) := by
      simp [Layout.value]
    have closing : Parser.skip (l.line level ++ '}' :: rest) = '}' :: rest :=
      Parser.skip_append (l.lineBlank level) _
    rw [shape, List.length_cons] at enough
    obtain ⟨text, skipped, read⟩ : ∃ text,
        Parser.skip (l.fields (level + 1) (field :: later) ++ (l.line level ++ '}' :: rest)) =
          '"' :: text ∧
        fields tag variants fuel depth none [] text =
          .ok (some variant, untagged tag (field :: later), rest) :=
      fields_written (List.cons_ne_nil field later) all closing (by omega) chosen
    rw [shape, Tagged.variant, Parser.skip_cons (by decide)]
    simp only [skipped, read, bind, Except.bind]

end Written

end Tagged

namespace Variant

variable {α : Type} {tag kind : String} {variants : List (Variant α)} {variant : Variant α}

/-- A tagged object that is written in some layout is read as the content of its variant. -/
theorem read_written (l : Layout) (level : Nat) {written : List (String × Value)}
    {blanks : List Char} (blank : ∀ c ∈ blanks, Parser.isSpace c = true)
    (shallow : (Value.object written).nesting ≤ Parser.nestingLimit)
    (chosen : ofFields .plain tag variants none written = .ok (some variant)) :
    read tag kind variants (String.ofList (l.value level (.object written) ++ blanks)) =
      (variant.content (.object (Tagged.untagged tag written))).mapError .badContent := by
  have inside : ∀ field ∈ written, field.2.nesting ≤ Parser.nestingLimit - 1 := by
    rw [Value.nesting] at shallow
    exact (Value.nestingFields_le_iff written _).mp (by omega)
  have ends : Parser.skip blanks = [] := List.dropWhile_eq_nil_iff.mpr blank
  have enough : 2 * (l.value level (.object written) ++ blanks).length ≤
      Parser.fuelFor (l.value level (.object written) ++ blanks) := Nat.le_add_right _ 2
  have read := Tagged.variant_written kind
    (fun field member => l.reads (inside field member)) enough chosen
  rw [Variant.read, String.toList_ofList, read]
  cases decoded : variant.content (.object (Tagged.untagged tag written)) with
  | error e => simp only [decoded, Except.mapError]
  | ok x => simp only [decoded, ends, Except.mapError]

theorem read_of_decode {fields : List (String × Value)} {blanks : List Char} {x : α}
    (blank : ∀ c ∈ blanks, Parser.isSpace c = true)
    (lasting : (Value.object fields).Lasting Parser.nestingLimit)
    (decoded : decode .plain tag kind variants (.object fields) = .ok x) :
    read tag kind variants ((Value.object fields).compact ++ String.ofList blanks) = .ok x := by
  rw [decode] at decoded
  obtain ⟨found, chosen, content⟩ := Success.bind_iff.mp decoded
  cases found with
  | none => cases content
  | some variant =>
    have kept : Tagged.untagged tag fields = Entries.erase tag fields := by
      have others : ∀ field ∈ Entries.erase tag fields, (field.1, field.2.reread) = field := by
        intro field member
        rw [Value.reread_object_iff.mp lasting.same field (List.mem_of_mem_filter member)]
      rw [Tagged.untagged, List.map_congr_left others, List.map_id']
    have text : (Value.object fields).compact ++ String.ofList blanks =
        String.ofList (Layout.compact.value 0 (.object fields) ++ blanks) := by
      rw [Value.compact, Value.compactChars_eq _ 0, String.ofList_append]
    rw [text, read_written .compact 0 blank lasting.shallow chosen, kept]
    exact congrArg (Except.mapError TaggedError.badContent) content

end Variant

end Scenario.Json
