/-!
Finite maps from text to values.

Entries stand in ascending order of their keys, by code point, and each key stands once; so two
maps with the same bindings are equal. `Entries` works on the plain list, which JSON objects hold
as well; `Dict` adds the proof that the list is in order.
-/
namespace Scenario

namespace Entries
variable {α β : Type}

/-- Every key comes before all later ones. -/
def Ascending (entries : List (String × α)) : Prop := entries.Pairwise fun a b => a.1 < b.1

def get? (entries : List (String × α)) (key : String) : Option α :=
  match entries with
  | [] => none
  | (k, v) :: rest => if k = key then some v else get? rest key

def contains (entries : List (String × α)) (key : String) : Bool := (get? entries key).isSome

/-- Binds a key at its place; a key that is bound already gets the new value. -/
def insert (key : String) (value : α) : List (String × α) → List (String × α)
  | [] => [(key, value)]
  | (k, v) :: rest =>
    if k < key then (k, v) :: insert key value rest
    else if k = key then (key, value) :: rest
    else (key, value) :: (k, v) :: rest

def erase (key : String) (entries : List (String × α)) : List (String × α) :=
  entries.filter fun entry => entry.1 ≠ key

/-- The entries in order; of two with one key the later wins. -/
def ofList (entries : List (String × α)) : List (String × α) :=
  entries.foldl (fun sorted entry => insert entry.1 entry.2 sorted) []

theorem mem_insert {key : String} {value : α} {entries : List (String × α)}
    {entry : String × α} (member : entry ∈ insert key value entries) :
    entry = (key, value) ∨ entry ∈ entries := by
  induction entries with
  | nil => simpa [insert] using member
  | cons head rest ih =>
    obtain ⟨k, v⟩ := head
    simp only [insert] at member
    split at member
    · rcases List.mem_cons.1 member with same | tail
      · exact .inr (by simp [same])
      · exact (ih tail).imp_right (List.mem_cons_of_mem _)
    · split at member
      · rcases List.mem_cons.1 member with same | tail
        · exact .inl same
        · exact .inr (List.mem_cons_of_mem _ tail)
      · exact List.mem_cons.1 member

theorem insert_ascending {entries : List (String × α)} (key : String) (value : α)
    (ascending : Ascending entries) : Ascending (insert key value entries) := by
  unfold Ascending at *
  induction entries with
  | nil => simp [insert]
  | cons head rest ih =>
    obtain ⟨k, v⟩ := head
    obtain ⟨first, later⟩ := List.pairwise_cons.1 ascending
    simp only [insert]
    split
    · rename_i before
      refine List.pairwise_cons.2 ⟨fun entry member => ?_, ih later⟩
      rcases mem_insert member with same | tail
      · simpa [same] using before
      · exact first entry tail
    · split
      · rename_i same
        exact List.pairwise_cons.2
          ⟨fun entry member => by simpa [← same] using first entry member, later⟩
      · rename_i notBefore different
        have after : key < k := by
          apply Decidable.byContradiction
          intro notAfter
          exact different
            (String.le_antisymm (String.not_lt.1 notAfter) (String.not_lt.1 notBefore))
        refine List.pairwise_cons.2 ⟨fun entry member => ?_, ascending⟩
        rcases List.mem_cons.1 member with same | tail
        · simpa [same] using after
        · exact String.lt_trans after (first entry tail)

theorem erase_ascending {entries : List (String × α)} (key : String)
    (ascending : Ascending entries) : Ascending (erase key entries) :=
  List.Pairwise.filter _ ascending

theorem ofList_ascending (entries : List (String × α)) : Ascending (ofList entries) := by
  have folded (sorted : List (String × α)) (ascending : Ascending sorted) :
      Ascending (entries.foldl (fun sorted entry => insert entry.1 entry.2 sorted) sorted) := by
    induction entries generalizing sorted with
    | nil => exact ascending
    | cons head rest ih => exact ih _ (insert_ascending _ _ ascending)
  exact folded [] List.Pairwise.nil

end Entries

structure Dict (α : Type) where
  entries : List (String × α)
  ascending : Entries.Ascending entries

namespace Dict
variable {α β : Type}

instance [DecidableEq α] : DecidableEq (Dict α) := fun a b =>
  if same : a.entries = b.entries then
    .isTrue (by cases a; cases b; simp_all)
  else .isFalse fun equal => same (by rw [equal])

def empty : Dict α := ⟨[], List.Pairwise.nil⟩

instance : EmptyCollection (Dict α) := ⟨empty⟩

instance : Inhabited (Dict α) := ⟨empty⟩

def get? (d : Dict α) (key : String) : Option α := Entries.get? d.entries key

def contains (d : Dict α) (key : String) : Bool := (d.get? key).isSome

def insert (d : Dict α) (key : String) (value : α) : Dict α :=
  ⟨Entries.insert key value d.entries, Entries.insert_ascending key value d.ascending⟩

def erase (d : Dict α) (key : String) : Dict α :=
  ⟨Entries.erase key d.entries, Entries.erase_ascending key d.ascending⟩

def ofList (entries : List (String × α)) : Dict α :=
  ⟨Entries.ofList entries, Entries.ofList_ascending entries⟩

def keys (d : Dict α) : List String := d.entries.map Prod.fst

def map (f : α → β) (d : Dict α) : Dict β :=
  ⟨d.entries.map fun entry => (entry.1, f entry.2), by
    simpa [Entries.Ascending, List.pairwise_map] using d.ascending⟩

/-- The bindings of both maps; where both bind a key the second wins. -/
def override (d : Dict α) (entries : List (String × α)) : Dict α :=
  entries.foldl (fun d entry => d.insert entry.1 entry.2) d

theorem ext_entries {a b : Dict α} (same : a.entries = b.entries) : a = b := by
  cases a; cases b; simp_all

end Dict

end Scenario
