import Scenario.Proofs.Bytes.Base64
import Scenario.Proofs.Bytes.Text
import Scenario.Proofs.Text
import Scenario.Proofs.Text.Trim
import Scenario.Run.Handler
/-!
Data URLs.

The content type ends at the first comma, so it may hold anything but a comma; the payload may
stand between blanks. A data URL is read exactly if it is written like this, and nothing else is
read.
-/
namespace Scenario

namespace Base64

theorem forall_mem_encode {p : Char → Prop} (symbols : ∀ n, p (symbol n)) (equals : p '=')
    (bytes : List UInt8) : ∀ c ∈ encode bytes, p c := by
  induction bytes using encode.induct with
  | case1 => simp [encode]
  | case2 | case3 => simp [encode, symbols, equals]
  | case4 a b c rest ih => simpa [encode, symbols] using ih

theorem symbol_plain (n : Nat) :
    (symbol n).toNat ≤ 127 ∧ Text.isBlank (symbol n) = false := by
  have small : ∀ n < 64, (symbol n).toNat ≤ 127 ∧ Text.isBlank (symbol n) = false := by decide
  by_cases below : n < 64
  · exact small n below
  · have last : symbol n = symbol 63 := by
      unfold symbol
      split_ifs <;> first | omega | rfl
    rw [last]
    exact small 63 (by decide)

theorem trimmed_encode (bytes : List UInt8) : Text.Trimmed (encode bytes) :=
  .of_all (forall_mem_encode (fun n => (symbol_plain n).2) (by decide) bytes)

theorem bytesOf_encode (bytes : List UInt8) : Scenario.bytesOf (encode bytes) = written bytes :=
  bytesOf_ascii (forall_mem_encode (fun n => (symbol_plain n).1) (by decide) bytes)

theorem decode_bytesOf_eq_ok_iff {text : List Char} {bytes : List UInt8} :
    decode (Scenario.bytesOf text) = .ok bytes ↔ text = encode bytes := by
  rw [decode_eq_ok_iff, ← bytesOf_encode]
  constructor
  · intro same
    rw [← String.toList_ofList (l := text), ← String.toList_ofList (l := encode bytes)] at same
    exact String.ofList_injective (bytesOf_inj same)
  · rintro rfl
    rfl

end Base64

/-- A file in a data URL. -/
structure DataUrl where
  type : String
  bytes : List UInt8
  before : List Char
  after : List Char
  free : ',' ∉ type.toList
  blankBefore : ∀ c ∈ before, Text.isBlank c = true
  blankAfter : ∀ c ∈ after, Text.isBlank c = true

namespace DataUrl

def payload (file : DataUrl) : String :=
  String.ofList (file.before ++ Base64.encode file.bytes ++ file.after)

def url (file : DataUrl) : String := "data:" ++ file.type ++ ";base64," ++ file.payload

def content (file : DataUrl) : Option String × List UInt8 :=
  (if file.type = "" then none else some file.type, file.bytes)

variable {url : String} {fault : StepFault}

theorem toList_url (file : DataUrl) : file.url.toList =
    "data:".toList ++ ((file.type.toList ++ ";base64".toList) ++ ',' :: file.payload.toList) := by
  simp [DataUrl.url]

theorem trimChars_payload (file : DataUrl) :
    Text.trimChars file.payload.toList = Base64.encode file.bytes := by
  rw [payload, String.toList_ofList, Text.trimChars_surrounded file.blankBefore file.blankAfter,
    (Base64.trimmed_encode file.bytes).trimChars_eq]

theorem decode_url (file : DataUrl) : decodeDataUrl file.url = .ok file.content := by
  have free : ',' ∉ file.type.toList ++ ";base64".toList := by
    rw [List.mem_append, not_or]
    exact ⟨file.free, by decide⟩
  have opened := List.isPrefixOf?_eq_some_iff_append_eq.mpr file.toList_url.symm
  have cut := Text.splitFirst_append free file.payload.toList
  have closed : ";base64".toList.isSuffixOf? (file.type.toList ++ ";base64".toList) =
      some file.type.toList := List.isSuffixOf?_eq_some_iff_append_eq.mpr rfl
  have read : Base64.decode (bytesOf (Text.trimChars file.payload.toList)) = .ok file.bytes :=
    Base64.decode_bytesOf_eq_ok_iff.mpr file.trimChars_payload
  simp only [decodeDataUrl, opened, cut, closed, read]
  simp [content]

theorem exists_of_decode {content : Option String × List UInt8}
    (read : decodeDataUrl url = .ok content) :
    ∃ file : DataUrl, file.url = url ∧ file.content = content := by
  unfold decodeDataUrl at read
  split at read
  · cases read
  rename_i rest opened
  split at read
  · cases read
  rename_i heading payload cut
  split at read
  · cases read
  rename_i type closed
  split at read
  · cases read
  rename_i bytes decoded
  obtain ⟨whole, free⟩ := Text.splitFirst_eq_some cut
  have opens := List.isPrefixOf?_eq_some_iff_append_eq.mp opened
  have closes := List.isSuffixOf?_eq_some_iff_append_eq.mp closed
  obtain ⟨before, after, around, blankBefore, blankAfter⟩ := Text.exists_surrounding payload
  rw [Base64.decode_bytesOf_eq_ok_iff.mp decoded] at around
  have typeFree : ',' ∉ (String.ofList type).toList := by
    rw [String.toList_ofList]
    intro member
    exact free (closes ▸ List.mem_append_left _ member)
  let file : DataUrl :=
    ⟨String.ofList type, bytes, before, after, typeFree, blankBefore, blankAfter⟩
  have written : file.url.toList = url.toList := calc
    file.url.toList = "data:".toList ++ ((type ++ ";base64".toList) ++ ',' :: payload) := by
      simp [toList_url, DataUrl.payload, file, around]
    _ = url.toList := by rw [closes, ← whole, opens]
  refine ⟨file, String.toList_inj.mp written, ?_⟩
  rw [← Except.ok.inj read]
  simp [DataUrl.content, file]

theorem message_badBase64 (bad : Base64.Fault) : (StepError.invalid (.badBase64 bad)).message =
    "Invalid node data: form-data value " ++ ("has invalid base64: " ++ bad.message) := by
  have front : "Invalid node data: " ++ "form-data value has invalid base64: " =
      "Invalid node data: form-data value " ++ "has invalid base64: " := by decide
  calc
    _ = "Invalid node data: " ++ ("form-data value has invalid base64: " ++ bad.message) := rfl
    _ = _ := by rw [← String.append_assoc, front, String.append_assoc]

theorem message_of_decode (failed : decodeDataUrl url = .error fault) : ∃ reason,
    (StepError.invalid fault).message = "Invalid node data: form-data value " ++ reason := by
  unfold decodeDataUrl at failed
  split at failed
  · cases failed
    exact ⟨"is not a data URL", by decide⟩
  split at failed
  · cases failed
    exact ⟨"has no payload", by decide⟩
  split at failed
  · cases failed
    exact ⟨"is not base64 encoded", by decide⟩
  split at failed
  · rename_i bad _
    cases failed
    exact ⟨"has invalid base64: " ++ bad.message, message_badBase64 bad⟩
  · cases failed

/-- Exactly the data URLs are read, and each as the file that it was made for; any other text is
refused as invalid data of the step. -/
theorem decode_exactly :
    (∀ file : DataUrl, decodeDataUrl file.url = .ok file.content) ∧
      (∀ url content, decodeDataUrl url = .ok content →
        ∃ file : DataUrl, file.url = url ∧ file.content = content) ∧
      ∀ url, (∀ file : DataUrl, file.url ≠ url) → ∃ fault reason,
        decodeDataUrl url = .error fault ∧
          (StepError.invalid fault).message = "Invalid node data: form-data value " ++ reason := by
  refine ⟨decode_url, fun _ _ => exists_of_decode, ?_⟩
  intro url none
  cases read : decodeDataUrl url with
  | ok content =>
    obtain ⟨file, same, -⟩ := exists_of_decode read
    exact absurd same (none file)
  | error fault =>
    obtain ⟨reason, message⟩ := message_of_decode read
    exact ⟨fault, reason, rfl, message⟩

def hello : DataUrl where
  type := "text/plain"
  bytes := [104, 101, 108, 108, 111]
  before := [' ']
  after := ['\n']
  free := by decide
  blankBefore := Text.forall_of_all (by decide)
  blankAfter := Text.forall_of_all (by decide)

theorem hello_read : hello.url = "data:text/plain;base64, aGVsbG8=\n" ∧
    decodeDataUrl "data:text/plain;base64, aGVsbG8=\n" =
      .ok (some "text/plain", [104, 101, 108, 108, 111]) ∧
    (∀ file : DataUrl, file.url ≠ "data:text/plain,hello") ∧
    ∃ fault reason, decodeDataUrl "data:text/plain,hello" = .error fault ∧
      (StepError.invalid fault).message = "Invalid node data: form-data value " ++ reason := by
  have written : hello.url = "data:text/plain;base64, aGVsbG8=\n" := by decide
  have none : ∀ file : DataUrl, file.url ≠ "data:text/plain,hello" := by
    intro file same
    have refused : decodeDataUrl "data:text/plain,hello" = .error .notBase64 := by decide
    rw [← same, file.decode_url] at refused
    cases refused
  exact ⟨written, written ▸ decode_exactly.1 hello, none, decode_exactly.2.2 _ none⟩

end DataUrl

end Scenario
