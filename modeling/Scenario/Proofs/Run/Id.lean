import Mathlib.Data.String.Basic
import Mathlib.Data.List.OfFn
import Scenario.Run.Id
/-!
Ids and their texts.

An id is written in 32 digits with hyphens between their groups, so its text has 36 bytes and is read
as five groups. The digits without the hyphens are those that were written, and their value is the
number of the id.
-/
namespace Scenario.RunId

section Digits

/-- The digits of an id, with zeros in front of them. -/
def digits (id : RunId) : List Char :=
  let digits := Nat.toDigits 16 id.number
  List.replicate (32 - digits.length) '0' ++ digits

/-- What the digits say if so much stands in front of them. -/
def value? (front : Nat) (digits : List Char) : Option Nat :=
  digits.foldlM (fun n c => (hexValue? c).map (n * 16 + ·)) front

theorem length_digits (id : RunId) : id.digits.length = 32 := by
  have short : (Nat.toDigits 16 id.number).length ≤ 32 :=
    (Nat.length_toDigits_le_iff (by decide) (by decide)).mpr id.number.isLt
  rw [digits, List.length_append, List.length_replicate]
  omega

theorem hexValue?_digitChar {d : Nat} (small : d < 16) : hexValue? (Nat.digitChar d) = some d := by
  have all : ∀ d : Fin 16, hexValue? (Nat.digitChar d) = some d.val := by decide
  exact all ⟨d, small⟩

theorem value?_toDigits (n : Nat) : value? 0 (Nat.toDigits 16 n) = some n := by
  induction n using Nat.strongRecOn with
  | ind n ih =>
    by_cases small : n < 16
    · rw [Nat.toDigits_of_lt_base small, value?, List.foldlM_cons, hexValue?_digitChar small]
      simp
    · have last : n % 16 < 16 := Nat.mod_lt n (by decide)
      have front : value? 0 (Nat.toDigits 16 (n / 16)) = some (n / 16) := ih _ (by omega)
      rw [value?] at front
      rw [Nat.toDigits_of_base_le (by decide) (Nat.le_of_not_lt small), value?, List.foldlM_append,
        front, Option.bind_eq_bind, Option.bind_some, List.foldlM_cons, hexValue?_digitChar last]
      simp only [Option.map_some, Option.bind_eq_bind, Option.bind_some, List.foldlM_nil]
      exact congrArg some (by omega)

theorem value?_zeros (count : Nat) : value? 0 (List.replicate count '0') = some 0 := by
  induction count with
  | zero => rfl
  | succ count ih => exact ih

theorem value?_digits (id : RunId) : value? 0 id.digits = some id.number.val := by
  have zeros := value?_zeros (32 - (Nat.toDigits 16 id.number).length)
  have number := value?_toDigits id.number
  rw [value?] at zeros number
  rw [digits, value?, List.foldlM_append, zeros, Option.bind_eq_bind, Option.bind_some, number]

theorem ofDigits_digits (id : RunId) : ofDigits id.digits = some id := by
  have value := id.value?_digits
  rw [value?] at value
  rw [ofDigits, if_pos id.length_digits, value, Option.map_some]
  exact congrArg (fun number => some (RunId.mk number)) (Fin.ofNat_val_eq_self id.number)

theorem exists_digit {n : Nat} {c : Char} (member : c ∈ Nat.toDigits 16 n) :
    ∃ d : Fin 16, c = Nat.digitChar d := by
  induction n using Nat.strongRecOn with
  | ind n ih =>
    by_cases small : n < 16
    · rw [Nat.toDigits_of_lt_base small] at member
      exact ⟨⟨n, small⟩, List.mem_singleton.mp member⟩
    · rw [Nat.toDigits_of_base_le (by decide) (Nat.le_of_not_lt small)] at member
      rcases List.mem_append.mp member with front | last
      · exact ih (n / 16) (by omega) front
      · exact ⟨⟨n % 16, Nat.mod_lt n (by decide)⟩, List.mem_singleton.mp last⟩

end Digits

section Texts

theorem text_eq (id : RunId) : id.text = String.ofList (hyphenate id.digits) := rfl

theorem mem_hyphenate {digits : List Char} {c : Char} (member : c ∈ hyphenate digits) :
    c = '-' ∨ c ∈ digits := by
  obtain ⟨⟨d, position⟩, found, chosen⟩ := List.mem_flatMap.mp member
  have digit : d ∈ digits := List.fst_mem_of_mem_zipIdx found
  dsimp only at chosen
  split at chosen
  · rcases List.mem_pair.mp chosen with rfl | rfl
    · exact .inl rfl
    · exact .inr digit
  · exact .inr (List.mem_singleton.mp chosen ▸ digit)

theorem mem_text {id : RunId} {c : Char} (member : c ∈ id.text.toList) :
    c = '-' ∨ ∃ d : Fin 16, c = Nat.digitChar d := by
  rw [text_eq, String.toList_ofList] at member
  rcases mem_hyphenate member with hyphen | digit
  · exact .inl hyphen
  · right
    rcases List.mem_append.mp digit with zero | digit
    · exact ⟨0, (List.mem_replicate.mp zero).2⟩
    · exact exists_digit digit

theorem forall_mem_text {p : Char → Prop} (hyphen : p '-')
    (digit : ∀ d : Fin 16, p (Nat.digitChar d)) (id : RunId) : ∀ c ∈ id.text.toList, p c := by
  intro c member
  rcases mem_text member with rfl | ⟨d, rfl⟩
  · exact hyphen
  · exact digit d

/-- The hyphens stand where they are looked for, and what is left are the digits. -/
theorem dropHyphens_hyphenate {digits : List Char} (length : digits.length = 32) :
    (hyphenate digits).length = 36 ∧ dropHyphens (hyphenate digits) = some digits := by
  -- With each digit named, both functions can be evaluated.
  have named (d : Fin 32 → Char) : (hyphenate (List.ofFn d)).length = 36 ∧
      dropHyphens (hyphenate (List.ofFn d)) = some (List.ofFn d) := ⟨rfl, rfl⟩
  have same : List.ofFn (fun i => digits.get (Fin.cast length.symm i)) = digits := by
    apply List.ext_getElem
    · rw [List.length_ofFn, length]
    · intro i _ _
      rw [List.getElem_ofFn]
      rfl
  exact same ▸ named _

theorem utf8ByteSize_of_ascii {text : List Char} (ascii : ∀ c ∈ text, c.utf8Size = 1) :
    (String.ofList text).utf8ByteSize = text.length := by
  rw [String.utf8ByteSize_ofList]
  induction text with
  | nil => rfl
  | cons c text ih =>
    obtain ⟨one, ascii⟩ := List.forall_mem_cons.mp ascii
    rw [String.utf8Len_cons, ih ascii, one, List.length_cons]

theorem utf8ByteSize_text (id : RunId) : id.text.utf8ByteSize = 36 := by
  have ascii := forall_mem_text (p := fun c => c.utf8Size = 1) (by decide) (by decide) id
  rw [text_eq, String.toList_ofList] at ascii
  rw [text_eq, utf8ByteSize_of_ascii ascii, (dropHyphens_hyphenate id.length_digits).1]

theorem ofText_text (id : RunId) : ofText id.text = .ok id := by
  have size := id.utf8ByteSize_text
  rw [ofText, size, groups?, if_pos rfl, text_eq, String.toList_ofList]
  dsimp only
  rw [(dropHyphens_hyphenate id.length_digits).2, Option.bind_some, ofDigits_digits]

theorem slash_not_mem_text (id : RunId) : '/' ∉ id.text.toList :=
  fun member => forall_mem_text (p := (· ≠ '/')) (by decide) (by decide) id '/' member rfl

end Texts

end Scenario.RunId
