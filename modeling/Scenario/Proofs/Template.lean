import Mathlib.Data.List.Infix
import Mathlib.Data.List.TakeWhile
import Scenario.Proofs.Text.Trim
import Scenario.Template
/-!
What is a token.

A `Token` is a path between its braces, with the blanks that may stand around it.
`Template.tokenAt` finds the tokens that stand at the front of a text and nothing else. `Cuts` says
how a template is cut from left to right, with a token taken wherever one begins that is no part of
an earlier one. Every text can be cut, and a template is rendered by filling in the tokens of its cut.
-/
namespace Scenario.Template

/-- A token in one of the ways in which it may be written. -/
structure Token where
  before : List Char
  path : List Char
  after : List Char
  before_blank : ∀ c ∈ before, Text.isBlank c = true
  after_blank : ∀ c ∈ after, Text.isBlank c = true
  path_ne_nil : path ≠ []
  path_free : ∀ c ∈ path, c ≠ '}' ∧ Text.isBlank c = false

namespace Token

def written (token : Token) : List Char :=
  '$' :: '{' :: (token.before ++ token.path ++ token.after ++ ['}'])

def tail (token : Token) : List Char :=
  '{' :: (token.before ++ token.path ++ token.after ++ ['}'])

theorem written_eq (token : Token) : token.written = '$' :: token.tail := rfl

end Token

theorem inPath_iff (c : Char) : inPath c = true ↔ c ≠ '}' ∧ Text.isBlank c = false := by
  simp [inPath]

theorem dropWhile_append {p : Char → Bool} {front rest : List Char} (all : ∀ c ∈ front, p c = true)
    (stop : ∀ c ∈ rest.head?, p c = false) : (front ++ rest).dropWhile p = rest := by
  rw [List.dropWhile_append_of_pos all]
  cases rest with
  | nil => rfl
  | cons c rest => exact List.dropWhile_cons_of_neg (by simp [stop c rfl])

theorem takeWhile_append {p : Char → Bool} {front rest : List Char} (all : ∀ c ∈ front, p c = true)
    (stop : ∀ c ∈ rest.head?, p c = false) : (front ++ rest).takeWhile p = front := by
  rw [List.takeWhile_append_of_pos all]
  cases rest with
  | nil => simp
  | cons c rest => simp [stop c rfl]

theorem tokenAt_written (token : Token) (rest : List Char) :
    tokenAt (token.written ++ rest) = some (token.path, rest) := by
  obtain ⟨before, path, after, before_blank, after_blank, path_ne_nil, path_free⟩ := token
  have inside : ∀ c ∈ path, inPath c = true :=
    fun c member => (inPath_iff c).mpr (path_free c member)
  have text : (before ++ path ++ after ++ ['}']) ++ rest =
      before ++ (path ++ (after ++ '}' :: rest)) := by simp
  have blanks : Text.trimStart (before ++ (path ++ (after ++ '}' :: rest))) =
      path ++ (after ++ '}' :: rest) := by
    refine dropWhile_append before_blank fun c first => ?_
    rw [List.head?_append_of_ne_nil _ path_ne_nil] at first
    exact (path_free c (List.mem_of_mem_head? first)).2
  -- Behind the path stands a blank or the brace, and neither may stand in a path.
  have stops : ∀ c ∈ (after ++ '}' :: rest).head?, inPath c = false := by
    cases after with
    | nil =>
      rintro c ⟨⟩
      decide
    | cons blank after =>
      rintro c ⟨⟩
      simp [inPath, after_blank blank List.mem_cons_self]
  have closes : Text.trimStart (after ++ '}' :: rest) = '}' :: rest := by
    refine dropWhile_append after_blank ?_
    rintro c ⟨⟩
    decide
  rw [Token.written, List.cons_append, List.cons_append, tokenAt, text, blanks,
    List.span_eq_takeWhile_dropWhile, takeWhile_append inside stops, dropWhile_append inside stops]
  dsimp only
  rw [closes]
  cases path with
  | nil => exact absurd rfl path_ne_nil
  | cons c path => rfl

theorem exists_token {text path rest : List Char} (found : tokenAt text = some (path, rest)) :
    ∃ token : Token, token.path = path ∧ text = token.written ++ rest := by
  unfold tokenAt at found
  split at found
  swap
  · cases found
  rename_i inner
  rw [List.span_eq_takeWhile_dropWhile] at found
  dsimp only at found
  split at found
  · cases found
  · rename_i c path' behind taken closes
    cases found
    have whole : inner = inner.takeWhile Text.isBlank ++ (c :: path' ++
        (((Text.trimStart inner).dropWhile inPath).takeWhile Text.isBlank ++ '}' :: rest)) := by
      rw [← closes, Text.blanks_append, ← taken, List.takeWhile_append_dropWhile,
        Text.blanks_append]
    have inside : ∀ d ∈ c :: path', d ≠ '}' ∧ Text.isBlank d = false := by
      intro d member
      rw [← taken] at member
      exact (inPath_iff d).mp (List.mem_takeWhile_imp member)
    refine ⟨⟨inner.takeWhile Text.isBlank, c :: path',
      ((Text.trimStart inner).dropWhile inPath).takeWhile Text.isBlank,
      fun _ => List.mem_takeWhile_imp, fun _ => List.mem_takeWhile_imp,
      List.cons_ne_nil c path', inside⟩, rfl, ?_⟩
    conv_lhs => rw [whole]
    simp [Token.written]
  · cases found

theorem tokenAt_eq_none_iff (text : List Char) :
    tokenAt text = none ↔ ∀ token : Token, ¬ token.written <+: text := by
  constructor
  · rintro none token ⟨rest, rfl⟩
    rw [tokenAt_written] at none
    cases none
  · intro absent
    cases found : tokenAt text with
    | none => rfl
    | some parts =>
      obtain ⟨token, -, rfl⟩ := exists_token found
      exact absurd (List.prefix_append _ _) (absent token)

section Pieces

theorem piecesFrom_append (front rest : List Char) :
    piecesFrom front.length (front ++ rest) = pieces rest := by
  induction front with
  | nil => rfl
  | cons c front ih => exact ih

theorem pieces_written (token : Token) (rest : List Char) :
    pieces (token.written ++ rest) = .token token.path token.written :: pieces rest := by
  have found := tokenAt_written token rest
  rw [Token.written_eq, List.cons_append] at found ⊢
  have length : (token.tail ++ rest).length + 1 - rest.length = token.tail.length + 1 := by
    rw [List.length_append]
    omega
  rw [pieces, piecesFrom, found]
  dsimp only
  rw [length, Nat.add_sub_cancel, piecesFrom_append, List.take_succ_cons, List.take_left]

theorem pieces_char {c : Char} {rest : List Char} (none : tokenAt (c :: rest) = none) :
    pieces (c :: rest) = .char c :: pieces rest := by
  rw [pieces, piecesFrom, none]
  rfl

end Pieces

/-- A part of a template. -/
inductive Part where
  | char (c : Char)
  | token (token : Token)

namespace Part

def written : Part → List Char
  | .char c => [c]
  | .token one => one.written

/-- What is found of a part when the text is read. -/
def piece : Part → Piece
  | .char c => .char c
  | .token one => .token one.path one.written

/-- The text in the place of a part, if that of the path of each token is given. -/
def filled (resolve : List Char → Option (List Char)) : Part → List Char
  | .char c => [c]
  | .token one => (resolve one.path).getD one.written

end Part

/-- Parts into which a text is cut from left to right: a token wherever one begins, and a character
where none does. -/
inductive Cuts : List Char → List Part → Prop where
  | nil : Cuts [] []
  | char {c : Char} {rest : List Char} {parts : List Part}
    (none : ∀ token : Token, ¬ token.written <+: c :: rest) (later : Cuts rest parts) :
    Cuts (c :: rest) (.char c :: parts)
  | token {rest : List Char} {parts : List Part} (token : Token) (later : Cuts rest parts) :
    Cuts (token.written ++ rest) (.token token :: parts)

theorem exists_cuts (text : List Char) : ∃ parts, Cuts text parts := by
  induction size : text.length using Nat.strongRecOn generalizing text with
  | ind length ih =>
    cases text with
    | nil => exact ⟨[], .nil⟩
    | cons c rest =>
      cases found : tokenAt (c :: rest) with
      | none =>
        obtain ⟨parts, later⟩ := ih rest.length (by simp [← size]) rest rfl
        exact ⟨_, .char ((tokenAt_eq_none_iff _).mp found) later⟩
      | some cut =>
        obtain ⟨token, -, begins⟩ := exists_token found
        have shorter : cut.2.length < length := by
          rw [← size, begins, List.length_append, Token.written_eq, List.length_cons]
          omega
        obtain ⟨parts, later⟩ := ih cut.2.length shorter cut.2 rfl
        rw [begins]
        exact ⟨_, .token token later⟩

namespace Cuts

variable {text rest : List Char} {parts later : List Part}

theorem flatMap_written (cuts : Cuts text parts) : parts.flatMap Part.written = text := by
  induction cuts with
  | nil => rfl
  | char _ _ ih => rw [List.flatMap_cons, ih, Part.written, List.singleton_append]
  | token _ _ ih => rw [List.flatMap_cons, ih, Part.written]

/-- The pieces are those of the one cut that there is. -/
theorem pieces_eq (cuts : Cuts text parts) : pieces text = parts.map Part.piece := by
  induction cuts with
  | nil => rfl
  | char none _ ih => rw [pieces_char ((tokenAt_eq_none_iff _).mpr none), ih, List.map_cons, Part.piece]
  | token token _ ih => rw [pieces_written, ih, List.map_cons, Part.piece]

theorem render_eq (cuts : Cuts text parts) (resolve : List Char → Option (List Char)) :
    render resolve text = parts.flatMap (Part.filled resolve) := by
  rw [render, cuts.pieces_eq, List.flatMap_map]
  refine List.flatMap_congr fun part _ => ?_
  cases part with
  | char c => rfl
  | token token => rfl

/-- If no token is filled in, nothing changes. -/
theorem render_eq_self (cuts : Cuts text parts) {resolve : List Char → Option (List Char)}
    (unknown : ∀ token, .token token ∈ parts → resolve token.path = none) :
    render resolve text = text := by
  rw [cuts.render_eq]
  conv_rhs => rw [← cuts.flatMap_written]
  refine List.flatMap_congr fun part member => ?_
  cases part with
  | char c => rfl
  | token token => rw [Part.filled, unknown token member, Part.written, Option.getD_none]

end Cuts

/-- The two characters with which a token begins stand nowhere in the text together. -/
def Plain (text : List Char) : Prop := ¬ ['$', '{'] <:+: text

instance (text : List Char) : Decidable (Plain text) :=
  inferInstanceAs (Decidable (¬ ['$', '{'] <:+: text))

/-- A token and the text behind it, up to the next token. -/
structure Slot where
  token : Token
  behind : List Char
  plain : Plain behind

/-- A template of tokens and the texts between them. -/
def compose (first : List Char) (slots : List Slot) : List Char :=
  first ++ slots.flatMap fun slot => slot.token.written ++ slot.behind

/-- Plain text is cut into its characters, if what follows does not make a token of its end. -/
theorem Cuts.plain_append {text rest : List Char} {parts : List Part} (plain : Plain text)
    (open_ : rest.head? ≠ some '{') (later : Cuts rest parts) :
    Cuts (text ++ rest) (text.map .char ++ parts) := by
  induction text with
  | nil => exact later
  | cons c text ih =>
    refine .char (fun token begins => ?_) (ih fun inside => plain (List.infix_cons inside))
    -- The dollar is the last character of the text, and the brace behind it begins the rest.
    obtain ⟨dollar, ⟨behind, opens⟩⟩ := List.cons_prefix_cons.mp begins
    subst dollar
    cases text with
    | nil => exact open_ (congrArg List.head? opens.symm)
    | cons brace text =>
      obtain rfl : '{' = brace := (List.cons.inj opens).1
      exact plain ⟨[], text, rfl⟩

theorem cuts_compose {first : List Char} (plain : Plain first) (slots : List Slot) :
    Cuts (compose first slots)
      (first.map .char ++
        slots.flatMap fun slot => .token slot.token :: slot.behind.map .char) := by
  induction slots generalizing first with
  | nil => exact .plain_append plain (by simp) .nil
  | cons slot slots ih =>
    have later := Cuts.token slot.token (ih slot.plain)
    have whole : compose first (slot :: slots) =
        first ++ (slot.token.written ++ compose slot.behind slots) := by
      rw [compose, compose, List.flatMap_cons, List.append_assoc]
    rw [whole, List.flatMap_cons, List.cons_append]
    exact .plain_append plain (by simp [Token.written]) later

/-- A token with nothing but blanks around it. -/
structure Lone where
  before : List Char
  token : Token
  after : List Char
  before_blank : ∀ c ∈ before, Text.isBlank c = true
  after_blank : ∀ c ∈ after, Text.isBlank c = true

namespace Lone

def text (lone : Lone) : List Char := lone.before ++ lone.token.written ++ lone.after

def parts (lone : Lone) : List Part :=
  lone.before.map .char ++ .token lone.token :: lone.after.map .char

end Lone

theorem lonePath?_eq_some_iff {text path : List Char} :
    lonePath? text = some path ↔ ∃ lone : Lone, text = lone.text ∧ lone.token.path = path := by
  constructor
  · intro found
    unfold lonePath? at found
    split at found
    swap
    · cases found
    rename_i path' behind begins
    obtain ⟨token, rfl, whole⟩ := exists_token begins
    split at found
    swap
    · cases found
    rename_i blank
    cases found
    refine ⟨⟨text.takeWhile Text.isBlank, token, behind,
      fun _ => List.mem_takeWhile_imp, List.all_eq_true.mp blank⟩, ?_, rfl⟩
    rw [Lone.text, List.append_assoc, ← whole, Text.blanks_append]
  · rintro ⟨⟨before, token, after, leading, trailing⟩, rfl, rfl⟩
    have begins : Text.trimStart (before ++ token.written ++ after) = token.written ++ after := by
      rw [List.append_assoc]
      apply dropWhile_append leading
      rintro c ⟨⟩
      decide
    rw [lonePath?, Lone.text, begins, tokenAt_written]
    dsimp only
    rw [if_pos (List.all_eq_true.mpr trailing)]

theorem plain_of_blank {text : List Char} (blank : ∀ c ∈ text, Text.isBlank c = true) :
    Plain text := by
  intro opens
  have dollar : '$' ∈ text := opens.subset List.mem_cons_self
  have not_blank : Text.isBlank '$' = false := by decide
  exact Bool.false_ne_true (not_blank.symm.trans (blank '$' dollar))

theorem Lone.not_plain (lone : Lone) : ¬ Plain lone.text := by
  intro plain
  apply plain
  exact ⟨lone.before, lone.token.before ++ lone.token.path ++ lone.token.after ++ ['}'] ++
    lone.after, by simp [Lone.text, Token.written]⟩

theorem cuts_of_plain {text : List Char} (plain : Plain text) : Cuts text (text.map .char) := by
  have alone := Cuts.plain_append plain (by simp) Cuts.nil
  rwa [List.append_nil, List.append_nil] at alone

/-- A lone token is found as such among the tokens of a template, however its path looks. -/
theorem Lone.cuts (lone : Lone) : Cuts lone.text lone.parts := by
  have behind := cuts_of_plain (plain_of_blank lone.after_blank)
  have last := Cuts.token lone.token behind
  rw [Lone.text, List.append_assoc]
  exact Cuts.plain_append (plain_of_blank lone.before_blank) (by simp [Token.written]) last

end Scenario.Template
