import Scenario.Bytes.Base64
import Scenario.Proofs.Success
/-!
Reading Base64.

A group of four symbols and a group of three bytes hold the same 24 bits, so each is found from the
other. A text is read exactly if it is what is written for the bytes that are read: behind one or
two bytes the missing ones count as zero, and the bits of the last symbol that are theirs must be.
-/
namespace Scenario.Base64

def byteOf (c : Char) : UInt8 := UInt8.ofNat c.toNat

def letter (n : Nat) : UInt8 := byteOf (symbol n)

def written (bytes : List UInt8) : List UInt8 := (encode bytes).map byteOf

section Symbols

theorem byteOf_equals : byteOf '=' = pad := rfl

theorem value?_letter : ∀ n < 64, value? (letter n) = some n := by decide

theorem letter_ne_pad : ∀ n < 64, letter n ≠ pad := by decide

theorem toNat_letter : ∀ n < 64, (letter n).toNat =
    if n < 26 then 65 + n else if n < 52 then 97 + (n - 26) else if n < 62 then 48 + (n - 52)
      else if n = 62 then 43 else 47 := by
  decide

theorem letter_of_value? {byte : UInt8} {n : Nat} (value : value? byte = some n) :
    n < 64 ∧ letter n = byte := by
  simp only [value?] at value
  have small : n < 64 := by
    split_ifs at value <;> simp only [Option.some.injEq] at value <;> omega
  refine ⟨small, UInt8.toNat_inj.mp ?_⟩
  rw [toNat_letter n small]
  split_ifs at value <;> simp only [Option.some.injEq] at value <;> subst value <;> grind

end Symbols

section Words

/-- The 24 bits of three bytes. -/
def word (a b c : UInt8) : Nat := a.toNat * 0x10000 + b.toNat * 0x100 + c.toNat

/-- 24 bits as four numbers of six bits. -/
def sextets (n : Nat) : List Nat := [n / 0x40000, n / 0x1000 % 64, n / 0x40 % 64, n % 64]

theorem word_lt (a b c : UInt8) : word a b c < 0x1000000 := by
  have := a.toNat_lt
  have := b.toNat_lt
  have := c.toNat_lt
  unfold word
  omega

theorem sextets_lt (a b c : UInt8) : ∀ n ∈ sextets (word a b c), n < 64 := by
  have := word_lt a b c
  simp only [sextets, List.forall_mem_cons]
  exact ⟨by omega, by omega, by omega, by omega, by simp⟩

variable {p q r s : Nat}

theorem bytesOf_eq {a b c : UInt8}
    (same : word a b c = p * 0x40000 + q * 0x1000 + r * 0x40 + s) :
    bytesOf p q r s = [a, b, c] := by
  have := a.toNat_lt
  have := b.toNat_lt
  have := c.toNat_lt
  simp only [bytesOf, ← same, word, List.cons.injEq, UInt8.ofNat_eq_iff_mod_eq_toNat, and_true]
  omega

theorem bytesOf_sextets (a b c : UInt8) :
    bytesOf (word a b c / 0x40000) (word a b c / 0x1000 % 64) (word a b c / 0x40 % 64)
      (word a b c % 64) = [a, b, c] :=
  bytesOf_eq (by omega)

theorem exists_word (smallP : p < 64) (smallQ : q < 64) (smallR : r < 64) (smallS : s < 64) :
    ∃ a b c, word a b c = p * 0x40000 + q * 0x1000 + r * 0x40 + s ∧
      sextets (word a b c) = [p, q, r, s] := by
  obtain ⟨n, whole⟩ : ∃ n, n = p * 0x40000 + q * 0x1000 + r * 0x40 + s := ⟨_, rfl⟩
  have same : word (UInt8.ofNat (n / 0x10000)) (UInt8.ofNat (n / 0x100)) (UInt8.ofNat n) = n := by
    simp only [word, UInt8.toNat_ofNat']
    omega
  refine ⟨_, _, _, same.trans whole, ?_⟩
  rw [same, whole]
  simp only [sextets, List.cons.injEq, and_true]
  omega

end Words

section Groups

variable {symbols : List Nat} {group : List UInt8} {offset start position pads : Nat}

theorem values_letters (small : ∀ n ∈ symbols, n < 64) :
    values offset (symbols.map letter) = .ok symbols := by
  induction symbols generalizing offset with
  | nil => rfl
  | cons n later ih =>
    obtain ⟨first, others⟩ := List.forall_mem_cons.mp small
    rw [List.map_cons, values, value?_letter n first]
    simp only [ih others]
    rfl

theorem letters_of_values (read : values offset group = .ok symbols) :
    group = symbols.map letter ∧ ∀ n ∈ symbols, n < 64 := by
  induction group generalizing offset symbols with
  | nil =>
    cases read
    exact ⟨rfl, by simp⟩
  | cons byte rest ih =>
    rw [values] at read
    split at read
    · cases read
    · rename_i n value
      obtain ⟨others, later, rfl⟩ := Success.map_iff.mp read
      obtain ⟨small, same⟩ := letter_of_value? value
      obtain ⟨letters, smaller⟩ := ih later
      rw [List.map_cons, same, ← letters]
      exact ⟨rfl, List.forall_mem_cons.mpr ⟨small, smaller⟩⟩

theorem lastGroup_pads (first : Nat) (late : 2 ≤ position) :
    lastGroup start position (some first) (List.replicate pads pad) = .ok ([], pads) := by
  induction pads generalizing position with
  | zero => rfl
  | succ pads ih =>
    rw [List.replicate_succ, lastGroup, if_pos rfl, if_neg (by omega), Option.some_or,
      ih (by omega)]
    rfl

theorem lastGroup_letters (small : ∀ n ∈ symbols, n < 64)
    (enough : pads = 0 ∨ 2 ≤ position + symbols.length) :
    lastGroup start position none (symbols.map letter ++ List.replicate pads pad) =
      .ok (symbols, pads) := by
  induction symbols generalizing position with
  | nil =>
    cases pads with
    | zero => rfl
    | succ pads =>
      have late : 2 ≤ position := by simpa using enough
      rw [List.map_nil, List.nil_append, List.replicate_succ, lastGroup, if_pos rfl,
        if_neg (by omega), Option.none_or, lastGroup_pads position (by omega)]
      rfl
  | cons n later ih =>
    obtain ⟨first, others⟩ := List.forall_mem_cons.mp small
    have onward : pads = 0 ∨ 2 ≤ position + 1 + later.length := by
      rw [List.length_cons] at enough
      omega
    rw [List.map_cons, List.cons_append, lastGroup, if_neg (letter_ne_pad n first)]
    simp only [value?_letter n first, ih others onward]
    rfl

/-- What is read as symbols and padding consists of them; behind padding there is only padding. -/
theorem letters_of_lastGroup {firstPad : Option Nat}
    (read : lastGroup start position firstPad group = .ok (symbols, pads)) :
    group = symbols.map letter ++ List.replicate pads pad ∧ (∀ n ∈ symbols, n < 64) ∧
      (firstPad.isSome → symbols = []) := by
  induction group generalizing position firstPad symbols pads with
  | nil =>
    cases read
    simp
  | cons byte rest ih =>
    unfold lastGroup at read
    split at read
    · rename_i isPad
      split at read
      · cases read
      · obtain ⟨⟨others, more⟩, later, same⟩ := Success.map_iff.mp read
        obtain ⟨rfl, rfl⟩ := Prod.mk.inj same
        obtain ⟨letters, -, none⟩ := ih later
        have empty : others = [] := none (by simp)
        rw [letters, isPad, empty]
        exact ⟨rfl, by simp, fun _ => rfl⟩
    · split at read
      · cases read
      split at read
      · cases read
      rename_i n value
      obtain ⟨⟨others, more⟩, later, same⟩ := Success.map_iff.mp read
      obtain ⟨rfl, rfl⟩ := Prod.mk.inj same
      obtain ⟨small, byteOf⟩ := letter_of_value? value
      obtain ⟨letters, smaller, -⟩ := ih later
      rw [List.map_cons, byteOf, List.cons_append, ← letters]
      exact ⟨rfl, List.forall_mem_cons.mpr ⟨small, smaller⟩, by simp⟩

end Groups

section Reading

variable {bytes group text : List UInt8} {start offset : Nat}

theorem written_cons (a b c : UInt8) (rest : List UInt8) :
    written (a :: b :: c :: rest) = (sextets (word a b c)).map letter ++ written rest := rfl

theorem written_three (a b c : UInt8) :
    written [a, b, c] = ((sextets (word a b c)).take 4).map letter ++ List.replicate 0 pad :=
  written_cons a b c []

theorem written_two (a b : UInt8) :
    written [a, b] = ((sextets (word a b 0)).take 3).map letter ++ List.replicate 1 pad := by
  simp [written, encode, sextets, word, letter, byteOf_equals]

theorem written_one (a : UInt8) :
    written [a] = ((sextets (word a 0 0)).take 2).map letter ++ List.replicate 2 pad := by
  simp [written, encode, sextets, word, letter, byteOf_equals]

theorem lastGroup_sextets (start : Nat) (a b c : UInt8) {kept : Nat} (enough : 2 ≤ kept)
    (pads : Nat) :
    lastGroup start 0 none
        (((sextets (word a b c)).take kept).map letter ++ List.replicate pads pad) =
      .ok ((sextets (word a b c)).take kept, pads) := by
  have small := sextets_lt a b c
  apply lastGroup_letters fun n member => small n (List.mem_of_mem_take member)
  right
  simp [sextets, List.length_take]
  omega

section Finish

variable {p q r s pads : Nat}

theorem finish_one (split : lastGroup start 0 none group = .ok ([p, q], 2)) (unused : q % 16 = 0) :
    finish start group = .ok ((bytesOf p q 0 0).take 1) := by
  simp [finish, split, unused, bind, Except.bind]

theorem finish_two (split : lastGroup start 0 none group = .ok ([p, q, r], 1))
    (unused : r % 4 = 0) : finish start group = .ok ((bytesOf p q r 0).take 2) := by
  simp [finish, split, unused, bind, Except.bind]

theorem finish_three (split : lastGroup start 0 none group = .ok ([p, q, r, s], 0)) :
    finish start group = .ok (bytesOf p q r s) := by
  simp [finish, split, bind, Except.bind]

end Finish

theorem finish_written (few : bytes.length ≤ 3) : finish start (written bytes) = .ok bytes := by
  match bytes with
  | [] => rfl
  | [a] =>
    have split := lastGroup_sextets start a 0 0 (by decide : 2 ≤ 2) 2
    rw [← written_one] at split
    have unused : word a 0 0 % 0x10000 = 0 := by simp [word]
    have same : word a 0 0 = word a 0 0 / 0x40000 * 0x40000 +
        word a 0 0 / 0x1000 % 64 * 0x1000 + 0 * 0x40 + 0 := by omega
    rw [finish_one split (by omega), bytesOf_eq same]
    rfl
  | [a, b] =>
    have split := lastGroup_sextets start a b 0 (by decide : 2 ≤ 3) 1
    rw [← written_two] at split
    have unused : word a b 0 % 0x100 = 0 := by
      simp [word]
      omega
    have same : word a b 0 = word a b 0 / 0x40000 * 0x40000 +
        word a b 0 / 0x1000 % 64 * 0x1000 + word a b 0 / 0x40 % 64 * 0x40 + 0 := by omega
    rw [finish_two split (by omega), bytesOf_eq same]
    rfl
  | [a, b, c] =>
    have split := lastGroup_sextets start a b c (by decide : 2 ≤ 4) 0
    rw [← written_three] at split
    rw [finish_three split, bytesOf_sextets]

theorem written_of_finish (few : group.length ≤ 4) (read : finish start group = .ok bytes) :
    group = written bytes := by
  obtain ⟨⟨symbols, pads⟩, split, rest⟩ := Success.bind_iff.mp read
  obtain ⟨letters, small, -⟩ := letters_of_lastGroup split
  match symbols with
  | [] =>
    simp only at rest
    split at rest
    · rename_i empty
      cases rest
      exact List.isEmpty_iff.mp empty
    · cases rest
  | [_] => cases rest
  | [p, q] =>
    simp only at rest
    split_ifs at rest with missing unused
    obtain ⟨a, b, c, same, six⟩ := exists_word (small p (by simp)) (small q (by simp))
      (by decide : 0 < 64) (by decide : 0 < 64)
    -- The second symbol ends with zeros, so the bytes behind the first one are zero.
    have zero : b.toNat = 0 ∧ c.toNat = 0 := by
      have := b.toNat_lt
      have := c.toNat_lt
      unfold word at same
      omega
    obtain rfl : b = 0 := UInt8.toNat_inj.mp zero.1
    obtain rfl : c = 0 := UInt8.toNat_inj.mp zero.2
    rw [bytesOf_eq same] at rest
    cases rest
    rw [List.take_succ_cons, List.take_zero, written_one, six, letters, of_not_not missing]
    rfl
  | [p, q, r] =>
    simp only at rest
    split_ifs at rest with missing unused
    obtain ⟨a, b, c, same, six⟩ := exists_word (small p (by simp)) (small q (by simp))
      (small r (by simp)) (by decide : 0 < 64)
    have zero : c.toNat = 0 := by
      have := c.toNat_lt
      unfold word at same
      omega
    obtain rfl : c = 0 := UInt8.toNat_inj.mp zero
    rw [bytesOf_eq same] at rest
    cases rest
    rw [List.take_succ_cons, List.take_succ_cons, List.take_zero, written_two, six, letters,
      of_not_not missing]
    rfl
  | p :: q :: r :: s :: more =>
    simp only at rest
    split_ifs at rest with missing
    obtain ⟨a, b, c, same, six⟩ := exists_word (small p (by simp)) (small q (by simp))
      (small r (by simp)) (small s (by simp))
    have none : more = [] := by
      have length := congrArg List.length letters
      simp only [List.length_append, List.length_map, List.length_cons] at length
      exact List.eq_nil_of_length_eq_zero (by omega)
    rw [bytesOf_eq same] at rest
    cases rest
    rw [written_cons, six, letters, none, of_not_not missing]
    rfl

theorem groups_more {a b c d e : UInt8} {p q r s : Nat} {later : List UInt8}
    (first : values offset [a, b, c, d] = .ok [p, q, r, s])
    (others : groups (offset + 4) (e :: group) = .ok later) (whole : bytesOf p q r s = bytes) :
    groups offset (a :: b :: c :: d :: e :: group) = .ok (bytes ++ later) := by
  rw [groups, first, others, ← whole]
  rfl

theorem groups_last (few : group.length ≤ 4) : groups offset group = finish offset group := by
  match group with
  | [] | [_] | [_, _] | [_, _, _] | [_, _, _, _] => rfl

theorem written_ne_nil (some : bytes ≠ []) : written bytes ≠ [] := by
  match bytes with
  | [] => exact absurd rfl some
  | [_] | [_, _] | _ :: _ :: _ :: _ => exact List.cons_ne_nil _ _

theorem groups_written (bytes : List UInt8) : groups offset (written bytes) = .ok bytes := by
  induction bytes using encode.induct generalizing offset with
  | case1 => rfl
  | case2 a => exact (groups_last (by simp [written, encode])).trans (finish_written (by simp))
  | case3 a b => exact (groups_last (by simp [written, encode])).trans (finish_written (by simp))
  | case4 a b c rest ih =>
    cases rest with
    | nil => exact (groups_last (by simp [written, encode])).trans (finish_written (by simp))
    | cons d rest =>
      obtain ⟨e, later, more⟩ :=
        List.exists_cons_of_ne_nil (written_ne_nil (List.cons_ne_nil d rest))
      have first : values offset ((sextets (word a b c)).map letter) =
          .ok (sextets (word a b c)) := values_letters (sextets_lt a b c)
      have others : groups (offset + 4) (e :: later) = .ok (d :: rest) := more ▸ ih
      rw [written_cons, more]
      exact groups_more first others (bytesOf_sextets a b c)

theorem written_of_groups (read : groups offset text = .ok bytes) : text = written bytes := by
  induction offset, text using groups.induct generalizing bytes with
  | case1 offset a b c d e rest ih =>
    rw [groups] at read
    obtain ⟨symbols, first, read⟩ := Success.bind_iff.mp read
    obtain ⟨others, later, read⟩ := Success.bind_iff.mp read
    obtain ⟨letters, small⟩ := letters_of_values first
    have four : symbols.length = 4 := by
      rw [← List.length_map letter, ← letters]
      rfl
    match symbols, four with
    | [p, q, r, s], _ =>
      obtain ⟨x, y, z, same, six⟩ := exists_word (small p (by simp)) (small q (by simp))
        (small r (by simp)) (small s (by simp))
      simp only [bytesOf_eq same] at read
      cases read
      have front : a :: b :: c :: d :: e :: rest = [a, b, c, d] ++ (e :: rest) := rfl
      rw [front, letters, ih later, ← six, ← written_cons]
      rfl
  | case2 offset group few =>
    have short : group.length ≤ 4 := by
      match group with
      | [] | [_] | [_, _] | [_, _, _] | [_, _, _, _] => simp
      | a :: b :: c :: d :: e :: rest => exact (few a b c d e rest rfl).elim
    rw [groups_last short] at read
    exact written_of_finish short read

theorem length_written (bytes : List UInt8) : (written bytes).length % 4 = 0 := by
  induction bytes using encode.induct with
  | case1 => rfl
  | case2 | case3 => simp [written, encode]
  | case4 a b c rest ih =>
    rw [written_cons, List.length_append, List.length_map, sextets]
    simp [ih]

/-- A text is read as bytes exactly if it is what is written for them. -/
theorem decode_eq_ok_iff : decode text = .ok bytes ↔ text = written bytes := by
  constructor
  · intro read
    rw [decode] at read
    split at read
    · cases read
    · exact written_of_groups read
  · rintro rfl
    have whole := length_written bytes
    rw [decode, if_neg (by omega), groups_written]

end Reading

end Scenario.Base64
