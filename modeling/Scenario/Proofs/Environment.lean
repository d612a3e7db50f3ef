import Scenario.Environment
import Scenario.Proofs.Dict
import Scenario.Proofs.Json.Compact
import Scenario.Proofs.Text
/-!
Reading environments.

Every line is read by itself, so what stands below overrides what stands above. A line that is
written for an entry is read as that entry: its key ends at the first equals sign, and its value
begins and ends with characters that no trimming takes away.
-/
namespace Scenario.Environment

open Json (Value)

section Lines

theorem trimChars_dropReturn (line : List Char) :
    Text.trimChars (Text.dropReturn line) = Text.trimChars line := by
  rw [Text.dropReturn]
  cases cut : ['\r'].isSuffixOf? line with
  | none => rfl
  | some rest =>
    have blank : ∀ c ∈ ['\r'], Text.isBlank c = true := Text.forall_of_all (by decide)
    rw [← List.isSuffixOf?_eq_some_iff_append_eq.mp cut, Text.trimChars_append blank]
    rfl

theorem readLine_dropReturn (line : List Char) :
    readLine (Text.dropReturn line) = readLine line := by
  rw [readLine, readLine, trimChars_dropReturn]

/-- It does not matter how a line ends, nor whether the last one does. -/
theorem filterMap_lines (text : List Char) :
    (Text.lines text).filterMap readLine = (Text.splitOn '\n' text).filterMap readLine := by
  obtain ⟨front, last, pieces⟩ : ∃ front last, Text.splitOn '\n' text = front ++ [last] :=
    ⟨_, _, (List.dropLast_concat_getLast (Text.splitOn_ne_nil '\n' text)).symm⟩
  have returned : (front.map Text.dropReturn).filterMap readLine = front.filterMap readLine := by
    rw [List.filterMap_map]
    exact congrFun (congrArg List.filterMap (funext readLine_dropReturn)) front
  rw [Text.lines, pieces]
  simp only [List.getLastD_concat, List.dropLast_concat, List.filterMap_append, returned]
  cases last with
  | nil => rfl
  | cons c later => rfl

theorem read_eq (text : String) :
    read text = .ofList ((Text.splitOn '\n' text.toList).filterMap readLine) := by
  rw [read, filterMap_lines]

theorem read_below (above below : String) :
    read (above ++ "\n" ++ below) = (read above).override (read below).entries := by
  have pieces : Text.splitOn '\n' (above ++ "\n" ++ below).toList =
      Text.splitOn '\n' above.toList ++ Text.splitOn '\n' below.toList := by
    simp [← Text.splitOn_append_separator]
  rw [read_eq, pieces, List.filterMap_append, Dict.ofList_append, ← read_eq, ← read_eq]

end Lines

section Writing

/-- Text stands between double quotes as it is; every other value is JSON. -/
def writeValue : Value → List Char
  | .string s => '"' :: s.toList ++ ['"']
  | v => v.compactChars

def writeLine (entry : String × Value) : String :=
  entry.1 ++ "=" ++ String.ofList (writeValue entry.2)

/-- A key that a line can hold. -/
structure Keyed (key : List Char) : Prop where
  some : key ≠ []
  trimmed : Text.Trimmed key
  free : '=' ∉ key
  unbroken : '\n' ∉ key
  uncommented : ¬ ['#'] <+: key
  unexported : ¬ exportWord <+: key

/-- A value that a line can hold: text, or JSON that is read back if its doubles are. -/
inductive Valued : Value → Prop where
  | text {s : String} (unbroken : '\n' ∉ s.toList) : Valued (.string s)
  | json {v : Value} (other : v.asString? = none) (ordered : v.Ordered)
    (shallow : v.nesting ≤ Json.Parser.nestingLimit) (back : ∀ d ∈ v.doubles, d.ReadsBack) :
    Valued v

structure Writable (entry : String × Value) : Prop where
  keyed : Keyed entry.1.toList
  valued : Valued entry.2

variable {v : Value} {key raw : List Char} {quote : Char}

theorem writeValue_of_other (other : v.asString? = none) : writeValue v = v.compactChars := by
  cases v with
  | string => cases other
  | _ => rfl

theorem unquote_quoted (quote : Char) (inner : List Char) :
    unquote quote (quote :: inner ++ [quote]) = some inner := by
  cases inner with
  | nil => simp [unquote]
  | cons c inner =>
    have last : (c :: (inner ++ [quote])).getLast? = some quote := by
      rw [← List.cons_append, List.getLast?_concat]
    have front : (c :: (inner ++ [quote])).dropLast = c :: inner := by
      rw [← List.cons_append, List.dropLast_concat]
    simp only [unquote, List.cons_append, last, front, and_self, if_true]

theorem unquote_of_head (apart : raw.head? ≠ some quote) : unquote quote raw = none := by
  cases raw with
  | nil => rfl
  | cons first later =>
    cases later with
    | nil => rfl
    | cons second later =>
      rw [unquote, if_neg]
      rintro ⟨same, -⟩
      exact apart (congrArg some same)

theorem head_compactChars (other : v.asString? = none) :
    ∀ c ∈ v.compactChars.head?, c ≠ '"' ∧ c ≠ '\'' := by
  cases v with
  | string => cases other
  | number n =>
    intro c first
    have inside : Json.InNumber c := Json.InNumber.number n c (List.mem_of_mem_head? first)
    constructor
    · rintro rfl
      exact absurd inside (by decide)
    · rintro rfl
      exact absurd inside (by decide)
  | bool b => cases b <;> simp [Value.compactChars]
  | null | array | object => simp [Value.compactChars]

theorem readValue_compactChars (other : v.asString? = none)
    (parsed : Json.parse v.compact = .ok v) : readValue v.compactChars = v := by
  have double : unquote '"' v.compactChars = none :=
    unquote_of_head fun first => (head_compactChars other _ first).1 rfl
  have single : unquote '\'' v.compactChars = none :=
    unquote_of_head fun first => (head_compactChars other _ first).2 rfl
  have document : Json.parse (String.ofList v.compactChars) = .ok v := parsed
  simp only [readValue, double, single, document]
  cases v with
  | string => cases other
  | _ => rfl

namespace Valued

theorem reads (valued : Valued v) : readValue (writeValue v) = v := by
  cases valued with
  | text =>
    rw [writeValue, readValue, unquote_quoted]
    exact congrArg Value.string String.ofList_toList
  | json other ordered shallow back =>
    have parsed := Value.parse_compact ordered shallow
    rw [Value.reread_of_readsBack back] at parsed
    rw [writeValue_of_other other, readValue_compactChars other parsed]

theorem trimmed (valued : Valued v) : Text.Trimmed (writeValue v) := by
  cases valued with
  | text => exact .enclosed (by decide) (by decide)
  | json other =>
    rw [writeValue_of_other other]
    exact v.trimmed_compactChars

theorem ne_nil (valued : Valued v) : writeValue v ≠ [] := by
  cases valued with
  | text => exact List.cons_ne_nil _ _
  | json other =>
    rw [writeValue_of_other other]
    exact v.compactChars_ne_nil

theorem unbroken (valued : Valued v) : '\n' ∉ writeValue v := by
  cases valued with
  | text unbroken => simpa [writeValue] using unbroken
  | json other =>
    rw [writeValue_of_other other]
    exact fun member => absurd (Json.Printable.compactChars v _ member) (by decide)

end Valued

namespace Keyed

theorem isPrefixOf?_exportWord (keyed : Keyed key) (rest : List Char) :
    exportWord.isPrefixOf? (key ++ '=' :: rest) = none := by
  have ends : key ++ ['='] <+: key ++ '=' :: rest := ⟨rest, by simp⟩
  have inside : '=' ∉ exportWord := by decide
  rw [← Option.not_isSome_iff_eq_none, List.isSome_isPrefixOf?_eq_isPrefixOf,
    List.isPrefixOf_iff_prefix]
  intro word
  rcases List.prefix_or_prefix_of_prefix word ends with short | long
  · rcases List.prefix_concat_iff.mp short with same | shorter
    · exact inside (by simp [same])
    · exact keyed.unexported shorter
  · exact inside (long.subset (by simp))

theorem readLine_eq (keyed : Keyed key) (some : raw ≠ []) (trimmed : Text.Trimmed raw) :
    readLine (key ++ '=' :: raw) = .some (String.ofList key, readValue raw) := by
  have whole : Text.Trimmed (key ++ '=' :: raw) := by
    simpa using keyed.trimmed.surround keyed.some ['='] trimmed some
  have cut := Text.splitFirst_append keyed.free raw
  have unexported := keyed.isPrefixOf?_exportWord raw
  have keyTrimmed := keyed.trimmed.trimChars_eq
  obtain ⟨c, later, rfl⟩ := List.exists_cons_of_ne_nil keyed.some
  have uncommented : c ≠ '#' := by
    rintro rfl
    exact keyed.uncommented ⟨later, rfl⟩
  unfold readLine
  rw [whole.trimChars_eq]
  split
  · contradiction
  · rename_i comment
    exact absurd (List.cons.inj comment).1 uncommented
  · simp only [unexported, Option.getD_none, cut, keyTrimmed, trimmed.trimChars_eq]

end Keyed

theorem Writable.readLine_eq {entry : String × Value} (writable : Writable entry) :
    readLine (writeLine entry).toList = some entry := by
  obtain ⟨keyed, valued⟩ := writable
  have line : (writeLine entry).toList = entry.1.toList ++ '=' :: writeValue entry.2 := by
    simp [writeLine]
  rw [line, keyed.readLine_eq valued.ne_nil valued.trimmed, valued.reads, String.ofList_toList]

theorem Writable.unbroken {entry : String × Value} (writable : Writable entry) :
    '\n' ∉ (writeLine entry).toList := by
  simp [writeLine, writable.keyed.unbroken, writable.valued.unbroken]

variable {m : Variables} {lines : List String}

/-- In whatever order the entries of a map are written, their lines hold them and nothing else. -/
theorem filterMap_pieces (writable : ∀ entry ∈ m.entries, Writable entry)
    (written : lines.Perm (m.entries.map writeLine)) :
    ((lines.map String.toList).filterMap readLine).Perm m.entries := by
  have read : ((m.entries.map writeLine).map String.toList).filterMap readLine = m.entries := by
    rw [List.map_map, List.filterMap_map]
    exact (List.filterMap_congr fun entry member => (writable entry member).readLine_eq).trans
      List.filterMap_some
  have reordered := (written.map String.toList).filterMap readLine
  rwa [read] at reordered

theorem splitOn_lines (unbroken : ∀ line ∈ lines, '\n' ∉ line.toList) :
    (Text.splitOn '\n' ("\n".intercalate lines).toList).filterMap readLine =
      (lines.map String.toList).filterMap readLine := by
  cases lines with
  | nil => rfl
  | cons first later =>
    have free : ∀ piece ∈ (first :: later).map String.toList, '\n' ∉ piece :=
      List.forall_mem_map.mpr unbroken
    rw [String.toList_intercalate]
    exact congrArg (List.filterMap readLine)
      (Text.splitOn_intercalate (by simp) free)

theorem read_lines (writable : ∀ entry ∈ m.entries, Writable entry)
    (written : lines.Perm (m.entries.map writeLine)) : read ("\n".intercalate lines) = m := by
  have unbroken : ∀ line ∈ lines, '\n' ∉ line.toList := by
    intro line member
    obtain ⟨entry, inside, rfl⟩ := List.mem_map.mp (written.mem_iff.mp member)
    exact (writable entry inside).unbroken
  rw [read_eq, splitOn_lines unbroken]
  exact Dict.ofList_of_perm (filterMap_pieces writable written)

theorem read_append_break (text : String) : read (text ++ "\n") = read text := by
  have below := read_below text ""
  rw [String.append_empty] at below
  rw [below]
  rfl

/-- Environments are read line by line, and reading undoes writing: a text below another overrides
it, and the lines that hold the entries of a map, in any order, are read as that map. -/
theorem read_line_by_line :
    (∀ above below, read (above ++ "\n" ++ below) = (read above).override (read below).entries) ∧
      ∀ (m : Variables) (lines : List String), (∀ entry ∈ m.entries, Writable entry) →
        lines.Perm (m.entries.map writeLine) →
          ∀ ending ∈ ["", "\n"], read ("\n".intercalate lines ++ ending) = m := by
  refine ⟨read_below, ?_⟩
  intro m lines writable written ending member
  have whole := read_lines writable written
  simp only [List.mem_cons, List.not_mem_nil, or_false] at member
  rcases member with rfl | rfl
  · rwa [String.append_empty]
  · rwa [read_append_break]

def settings : Variables :=
  ⟨[("flags #1", .object [("beta", .array [.bool true, .null])]), ("token", .string "a=\"b")],
    by decide⟩

theorem settings_read_back :
    (∀ entry ∈ settings.entries, Writable entry) ∧
      ["token=\"a=\"b\"", "flags #1=\x7b\"beta\":[true,null]\x7d"].Perm
        (settings.entries.map writeLine) ∧
      read "token=\"a=\"b\"\nflags #1=\x7b\"beta\":[true,null]\x7d\n" = settings := by
  have flags : Writable ("flags #1", .object [("beta", .array [.bool true, .null])]) := {
    keyed := ⟨by decide, by decide, by decide, by decide, by decide, by decide⟩
    valued := .json rfl ⟨by decide, ⟨trivial, trivial, trivial⟩, trivial⟩ (by decide) (by decide) }
  have token : Writable ("token", .string "a=\"b") := {
    keyed := ⟨by decide, by decide, by decide, by decide, by decide, by decide⟩
    valued := .text (by decide) }
  have writable : ∀ entry ∈ settings.entries, Writable entry :=
    List.forall_mem_cons.mpr ⟨flags, List.forall_mem_singleton.mpr token⟩
  have written : ["token=\"a=\"b\"", "flags #1=\x7b\"beta\":[true,null]\x7d"].Perm
      (settings.entries.map writeLine) := by
    have lines : settings.entries.map writeLine =
        ["flags #1=\x7b\"beta\":[true,null]\x7d", "token=\"a=\"b\""] := by decide
    rw [lines]
    exact .swap _ _ _
  exact ⟨writable, written, read_line_by_line.2 settings _ writable written "\n" (by decide)⟩

end Writing

end Scenario.Environment
