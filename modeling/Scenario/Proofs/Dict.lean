import Scenario.Dict
/-!
What finite maps bind.

Each operation on entries is described by the bindings it leaves. Entries in order are put in order
as they are, so a map is what its own entries make.
-/
namespace Scenario

namespace Entries
variable {α β : Type}

instance (entries : List (String × α)) : Decidable (Ascending entries) :=
  inferInstanceAs (Decidable (entries.Pairwise fun a b => a.1 < b.1))

theorem get?_eq_none_iff (entries : List (String × α)) (key : String) :
    get? entries key = none ↔ ∀ entry ∈ entries, entry.1 ≠ key := by
  induction entries with
  | nil => simp [get?]
  | cons head rest ih =>
    obtain ⟨k, v⟩ := head
    rw [get?, List.forall_mem_cons]
    by_cases same : k = key
    · simp [same]
    · simp [same, ih]

theorem get?_append (entries later : List (String × α)) (key : String) :
    get? (entries ++ later) key = (get? entries key).or (get? later key) := by
  induction entries with
  | nil => simp [get?]
  | cons head rest ih =>
    obtain ⟨k, v⟩ := head
    by_cases same : k = key
    · simp [get?, same]
    · simp [get?, same, ih]

theorem get?_insert (key : String) (value : α) (entries : List (String × α)) (other : String) :
    get? (insert key value entries) other =
      if key = other then some value else get? entries other := by
  induction entries with
  | nil => rfl
  | cons head rest ih =>
    obtain ⟨k, v⟩ := head
    rw [insert]
    by_cases before : k < key
    · rw [if_pos before, get?, ih, get?]
      by_cases asked : k = other
      · have apart : key ≠ other := by
          rintro rfl
          exact String.lt_irrefl k (asked ▸ before)
        simp [asked, apart]
      · simp [asked]
    rw [if_neg before]
    by_cases same : k = key
    · rw [if_pos same, get?, get?, same]
      split <;> rfl
    · rw [if_neg same, get?]

/-- Of several entries with one key the last one is bound. -/
theorem get?_ofList (entries : List (String × α)) (key : String) :
    get? (ofList entries) key = get? entries.reverse key := by
  have folded (sorted : List (String × α)) :
      get? (entries.foldl (fun sorted entry => insert entry.1 entry.2 sorted) sorted) key =
        (get? entries.reverse key).or (get? sorted key) := by
    induction entries generalizing sorted with
    | nil => simp [get?]
    | cons head rest ih =>
      rw [List.foldl_cons, ih, get?_insert, List.reverse_cons, get?_append, get?, get?]
      by_cases same : head.1 = key
      · simp [same]
      · simp [same]
  rw [ofList, folded [], get?, Option.or_none]

theorem get?_filter (entries : List (String × α)) (keep : String → Bool) (key : String) :
    get? (entries.filter fun entry => keep entry.1) key =
      if keep key then get? entries key else none := by
  induction entries with
  | nil => simp [get?]
  | cons head rest ih =>
    obtain ⟨k, v⟩ := head
    by_cases same : k = key
    · subst same
      cases kept : keep k <;> simp [get?, kept, ih]
    · cases kept : keep k <;> simp [get?, kept, ih, same]

theorem get?_erase (entries : List (String × α)) (key other : String) :
    get? (erase key entries) other = if other = key then none else get? entries other := by
  have filtered := get?_filter entries (fun k => decide (k ≠ key)) other
  rw [erase, filtered]
  by_cases same : other = key <;> simp [same]

theorem get?_ofList_eq_some {entries : List (String × α)} {key : String} {value : α}
    (last : get? entries.reverse key = some value) : get? (ofList entries) key = some value :=
  (get?_ofList entries key).trans last

theorem get?_erase_ofList_eq_some {entries : List (String × α)} {taken key : String} {value : α}
    (apart : key ≠ taken) (last : get? entries.reverse key = some value) :
    get? (erase taken (ofList entries)) key = some value := by
  rw [get?_erase, if_neg apart]
  exact get?_ofList_eq_some last

theorem nodup_of_ascending {entries : List (String × α)} (ascending : Ascending entries) :
    (entries.map Prod.fst).Nodup := by
  apply (List.pairwise_map.mpr ascending).imp
  rintro key _ before rfl
  exact String.lt_irrefl key before

theorem get?_of_mem_of_nodup {entries : List (String × α)} (distinct : (entries.map Prod.fst).Nodup)
    {key : String} {value : α} (member : (key, value) ∈ entries) :
    get? entries key = some value := by
  induction entries with
  | nil => cases member
  | cons head rest ih =>
    obtain ⟨k, v⟩ := head
    obtain ⟨fresh, later⟩ := List.nodup_cons.mp distinct
    rcases List.mem_cons.mp member with same | tail
    · cases same
      simp [get?]
    · have apart : k ≠ key := by
        rintro rfl
        exact fresh (List.mem_map.mpr ⟨_, tail, rfl⟩)
      rw [get?, if_neg apart]
      exact ih later tail

theorem get?_of_mem {entries : List (String × α)} (ascending : Ascending entries) {key : String}
    {value : α} (member : (key, value) ∈ entries) : get? entries key = some value :=
  get?_of_mem_of_nodup (nodup_of_ascending ascending) member

theorem mem_of_get? {entries : List (String × α)} {key : String} {value : α}
    (found : get? entries key = some value) : (key, value) ∈ entries := by
  induction entries with
  | nil => cases found
  | cons head rest ih =>
    obtain ⟨k, v⟩ := head
    rw [get?] at found
    by_cases same : k = key
    · rw [if_pos same] at found
      cases found
      rw [same]
      exact List.mem_cons_self
    · rw [if_neg same] at found
      exact List.mem_cons_of_mem _ (ih found)

theorem get?_map (f : α → β) (entries : List (String × α)) (key : String) :
    get? (entries.map fun entry => (entry.1, f entry.2)) key = (get? entries key).map f := by
  induction entries with
  | nil => rfl
  | cons head rest ih =>
    rw [List.map_cons, get?, get?, ih]
    split <;> rfl

theorem get?_of_perm {entries other : List (String × α)}
    (distinct : (entries.map Prod.fst).Nodup) (same : other.Perm entries) (key : String) :
    get? other key = get? entries key := by
  have reordered : (other.map Prod.fst).Nodup := (same.map Prod.fst).nodup_iff.mpr distinct
  cases found : get? entries key with
  | some value => exact get?_of_mem_of_nodup reordered (same.mem_iff.mpr (mem_of_get? found))
  | none =>
    rw [get?_eq_none_iff] at found ⊢
    exact fun entry member => found entry (same.mem_iff.mp member)

theorem get?_reverse {entries : List (String × α)} (distinct : (entries.map Prod.fst).Nodup)
    (key : String) : get? entries.reverse key = get? entries key :=
  get?_of_perm distinct entries.reverse_perm key

theorem nodup_of_keys {entries : List (String × α)} (distinct : (entries.map Prod.fst).Nodup) :
    entries.Nodup :=
  (List.pairwise_map.mp distinct).imp fun apart same => apart (congrArg Prod.fst same)

theorem ofList_perm {entries : List (String × α)} (distinct : (entries.map Prod.fst).Nodup) :
    (ofList entries).Perm entries := by
  have ordered := nodup_of_ascending (ofList_ascending entries)
  rw [List.perm_ext_iff_of_nodup (nodup_of_keys ordered) (nodup_of_keys distinct)]
  rintro ⟨key, value⟩
  have same : get? (ofList entries) key = get? entries key :=
    (get?_ofList entries key).trans (get?_reverse distinct key)
  constructor
  · exact fun member => mem_of_get? (same ▸ get?_of_mem_of_nodup ordered member)
  · exact fun member => mem_of_get? (same ▸ get?_of_mem_of_nodup distinct member)

theorem insert_of_last {key : String} {value : α} {entries : List (String × α)}
    (last : ∀ entry ∈ entries, entry.1 < key) :
    insert key value entries = entries ++ [(key, value)] := by
  induction entries with
  | nil => rfl
  | cons head rest ih =>
    obtain ⟨before, later⟩ := List.forall_mem_cons.mp last
    rw [insert, if_pos before, ih later, List.cons_append]

theorem ofList_of_ascending {entries : List (String × α)} (ascending : Ascending entries) :
    ofList entries = entries := by
  -- Each entry is greater than all that were put in order before it.
  have folded (sorted : List (String × α)) (all : Ascending (sorted ++ entries)) :
      entries.foldl (fun sorted entry => insert entry.1 entry.2 sorted) sorted =
        sorted ++ entries := by
    induction entries generalizing sorted with
    | nil => simp
    | cons head rest ih =>
      have last : ∀ entry ∈ sorted, entry.1 < head.1 := by
        intro entry member
        exact (List.pairwise_append.mp all).2.2 entry member head List.mem_cons_self
      have joined : Ascending (sorted ++ [head] ++ rest) := by simpa using all
      rw [List.foldl_cons, insert_of_last last, ih (List.pairwise_cons.mp ascending).2 _ joined]
      simp
  exact folded [] ascending

theorem filter_insert (keep : String → Bool) {key : String} (dropped : keep key = false)
    (value : α) (entries : List (String × α)) :
    (insert key value entries).filter (fun entry => keep entry.1) =
      entries.filter fun entry => keep entry.1 := by
  induction entries with
  | nil => simp [insert, dropped]
  | cons head rest ih =>
    obtain ⟨k, v⟩ := head
    rw [insert]
    by_cases before : k < key
    · rw [if_pos before, List.filter_cons, List.filter_cons, ih]
    rw [if_neg before]
    by_cases same : k = key
    · rw [if_pos same, List.filter_cons, List.filter_cons, same, dropped]
      simp
    · rw [if_neg same, List.filter_cons, dropped]
      simp

theorem map_insert (f : α → β) (key : String) (value : α) (entries : List (String × α)) :
    (insert key value entries).map (fun entry => (entry.1, f entry.2)) =
      insert key (f value) (entries.map fun entry => (entry.1, f entry.2)) := by
  induction entries with
  | nil => rfl
  | cons head rest ih =>
    rw [List.map_cons, insert, insert, ← ih]
    split
    · rfl
    · split <;> rfl

theorem map_ofList (f : α → β) (entries : List (String × α)) :
    (ofList entries).map (fun entry => (entry.1, f entry.2)) =
      ofList (entries.map fun entry => (entry.1, f entry.2)) := by
  have folded (sorted : List (String × α)) :
      (entries.foldl (fun sorted entry => insert entry.1 entry.2 sorted) sorted).map
          (fun entry => (entry.1, f entry.2)) =
        (entries.map fun entry => (entry.1, f entry.2)).foldl
          (fun sorted entry => insert entry.1 entry.2 sorted)
          (sorted.map fun entry => (entry.1, f entry.2)) := by
    induction entries generalizing sorted with
    | nil => rfl
    | cons head rest ih => rw [List.foldl_cons, ih, map_insert, List.map_cons, List.foldl_cons]
  exact folded []

end Entries

namespace Dict
variable {α β : Type}

theorem get?_insert (d : Dict α) (key : String) (value : α) (other : String) :
    (d.insert key value).get? other = if key = other then some value else d.get? other :=
  Entries.get?_insert key value d.entries other

theorem get?_erase (d : Dict α) (key other : String) :
    (d.erase key).get? other = if other = key then none else d.get? other :=
  Entries.get?_erase d.entries key other

theorem get?_empty (key : String) : (∅ : Dict α).get? key = none := rfl

theorem mem_keys_iff (d : Dict α) (key : String) : key ∈ d.keys ↔ (d.get? key).isSome := by
  rw [keys, List.mem_map]
  constructor
  · rintro ⟨⟨k, v⟩, member, rfl⟩
    have bound : d.get? k = some v := Entries.get?_of_mem d.ascending member
    simp [bound]
  · intro present
    obtain ⟨v, bound⟩ := Option.isSome_iff_exists.mp present
    exact ⟨(key, v), Entries.mem_of_get? bound, rfl⟩

theorem keys_ascending (d : Dict α) : d.keys.Pairwise (· < ·) :=
  List.pairwise_map.mpr d.ascending

theorem nodup_keys (d : Dict α) : d.keys.Nodup := Entries.nodup_of_ascending d.ascending

@[simp] theorem keys_map (f : α → β) (d : Dict α) : (d.map f).keys = d.keys := by
  simp [keys, map]

theorem get?_map (f : α → β) (d : Dict α) (key : String) :
    (d.map f).get? key = (d.get? key).map f :=
  Entries.get?_map f d.entries key

theorem map_insert (f : α → β) (d : Dict α) (key : String) (value : α) :
    (d.insert key value).map f = (d.map f).insert key (f value) :=
  ext_entries (Entries.map_insert f key value d.entries)

theorem map_erase (f : α → β) (d : Dict α) (key : String) :
    (d.erase key).map f = (d.map f).erase key := by
  refine ext_entries ?_
  change (d.entries.filter _).map _ = (d.entries.map _).filter _
  rw [List.filter_map]
  rfl

theorem erase_of_absent {d : Dict α} {key : String} (absent : d.get? key = none) :
    d.erase key = d := by
  refine ext_entries (List.filter_eq_self.mpr ?_)
  intro entry member
  exact decide_eq_true ((Entries.get?_eq_none_iff d.entries key).mp absent entry member)

/-- A map is what it binds. -/
theorem ext_get? {a b : Dict α} (same : ∀ key, a.get? key = b.get? key) : a = b := by
  have distinct (d : Dict α) : d.entries.Nodup := by
    apply d.ascending.imp
    rintro entry _ before rfl
    exact String.lt_irrefl entry.1 before
  have bound (d : Dict α) (entry : String × α) :
      entry ∈ d.entries ↔ d.get? entry.1 = some entry.2 :=
    ⟨Entries.get?_of_mem d.ascending, Entries.mem_of_get?⟩
  have reordered : a.entries.Perm b.entries := by
    rw [List.perm_ext_iff_of_nodup (distinct a) (distinct b)]
    intro entry
    rw [bound, bound, same]
  apply ext_entries
  apply reordered.eq_of_pairwise _ a.ascending b.ascending
  intro _ _ _ _ before after
  exact absurd (String.lt_trans before after) (String.lt_irrefl _)

theorem get?_override (d other : Dict α) (key : String) :
    (d.override other.entries).get? key = (other.get? key).or (d.get? key) := by
  obtain ⟨entries, ascending⟩ := other
  change (d.override entries).get? key = (Entries.get? entries key).or (d.get? key)
  induction entries generalizing d with
  | nil => rfl
  | cons head rest ih =>
    obtain ⟨first, later⟩ := List.pairwise_cons.mp ascending
    have onward : d.override (head :: rest) = (d.insert head.1 head.2).override rest := rfl
    rw [onward, ih _ later, get?_insert, Entries.get?]
    by_cases same : head.1 = key
    · -- No later entry has the key again.
      have absent : Entries.get? rest key = none := by
        rw [Entries.get?_eq_none_iff]
        rintro entry member rfl
        exact String.lt_irrefl head.1 (same ▸ first entry member)
      simp [same, absent]
    · simp [same]

theorem ofList_append (entries later : List (String × α)) :
    ofList (entries ++ later) = (ofList entries).override (ofList later).entries := by
  apply ext_get?
  intro key
  rw [get?_override]
  change Entries.get? (Entries.ofList _) key =
    (Entries.get? (Entries.ofList _) key).or (Entries.get? (Entries.ofList _) key)
  rw [Entries.get?_ofList, Entries.get?_ofList, Entries.get?_ofList, List.reverse_append,
    Entries.get?_append]

theorem ofList_of_perm {d : Dict α} {entries : List (String × α)}
    (same : entries.Perm d.entries) : ofList entries = d := by
  apply ext_get?
  intro key
  have reordered : entries.reverse.Perm d.entries := entries.reverse_perm.trans same
  exact (Entries.get?_ofList entries key).trans
    (Entries.get?_of_perm d.nodup_keys reordered key)

end Dict

end Scenario
