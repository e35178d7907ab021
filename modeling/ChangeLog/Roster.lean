/-
  A value for each of some consumers, in the order of their names. Names are compared by code
  points. A roster is decided by its look-ups (`Roster.ext_get?`), and each operation changes the
  look-up of one consumer only.
-/
import ChangeLog.Consumer

namespace ChangeLog

namespace Roster

variable {α : Type}

/-- Whether names come in strictly increasing order. -/
def Sorted (entries : List (Consumer × α)) : Prop :=
  entries.Pairwise fun a b => a.1.name < b.1.name

/-- Puts an entry in its place, instead of the one with the same name if there is one. -/
def insertEntry (c : Consumer) (a : α) : List (Consumer × α) → List (Consumer × α)
  | [] => [(c, a)]
  | (k, b) :: rest =>
    if c.name < k.name then (c, a) :: (k, b) :: rest
    else if c = k then (c, a) :: rest
    else (k, b) :: insertEntry c a rest

theorem mem_insertEntry {c : Consumer} {a : α} {e : Consumer × α} {entries : List (Consumer × α)}
    (h : e ∈ insertEntry c a entries) : e = (c, a) ∨ e ∈ entries := by
  induction entries with
  | nil => simpa [insertEntry] using h
  | cons head rest ih =>
    obtain ⟨k, b⟩ := head
    rw [insertEntry] at h
    split at h
    · simpa using h
    · split at h
      · rcases List.mem_cons.1 h with h | h
        · exact .inl h
        · exact .inr (List.mem_cons_of_mem _ h)
      · rcases List.mem_cons.1 h with h | h
        · exact .inr (h ▸ List.mem_cons_self)
        · rcases ih h with h | h
          · exact .inl h
          · exact .inr (List.mem_cons_of_mem _ h)

theorem eq_of_name_eq {c k : Consumer} (h : c.name = k.name) : c = k := by
  cases c; cases k; simpa using h

theorem name_lt_of_not_lt {c k : Consumer} (h : ¬ c.name < k.name) (ne : c ≠ k) :
    k.name < c.name := by
  rcases String.le_total c.name k.name with le | le
  · exact absurd (eq_of_name_eq (String.le_antisymm le (String.not_lt.1 h))) ne
  · exact Decidable.byContradiction fun n =>
      ne (eq_of_name_eq (String.le_antisymm (String.not_lt.1 n) le))

theorem sorted_insertEntry (c : Consumer) (a : α) {entries : List (Consumer × α)}
    (h : Sorted entries) : Sorted (insertEntry c a entries) := by
  induction entries with
  | nil => simp [insertEntry, Sorted]
  | cons head rest ih =>
    obtain ⟨k, b⟩ := head
    obtain ⟨first, more⟩ := List.pairwise_cons.1 h
    rw [insertEntry]
    split
    · rename_i lt
      refine List.pairwise_cons.2 ⟨fun e he => ?_, h⟩
      rcases List.mem_cons.1 he with rfl | he
      · exact lt
      · exact String.lt_trans lt (first e he)
    · rename_i nlt
      split
      · rename_i eq
        subst eq
        exact List.pairwise_cons.2 ⟨first, more⟩
      · rename_i ne
        refine List.pairwise_cons.2 ⟨fun e he => ?_, ih more⟩
        rcases mem_insertEntry he with rfl | he
        · exact name_lt_of_not_lt nlt ne
        · exact first e he

end Roster

/-- A value for each of some consumers, in the order of their names. -/
structure Roster (α : Type) where
  entries : List (Consumer × α)
  sorted : Roster.Sorted entries
deriving DecidableEq

namespace Roster

variable {α : Type}

/-- Nobody. -/
def empty : Roster α := ⟨[], List.Pairwise.nil⟩

instance : Inhabited (Roster α) := ⟨empty⟩

/-- The value of a consumer. -/
def get? (r : Roster α) (c : Consumer) : Option α := r.entries.lookup c

/-- Sets the value of a consumer. -/
def insert (r : Roster α) (c : Consumer) (a : α) : Roster α :=
  ⟨insertEntry c a r.entries, sorted_insertEntry c a r.sorted⟩

/-- Takes a consumer out. -/
def erase (r : Roster α) (c : Consumer) : Roster α :=
  ⟨r.entries.filter fun e => e.1 ≠ c, List.Pairwise.filter _ r.sorted⟩

/-! ## Laws -/

theorem lookup_cons_ite {κ : Type} [DecidableEq κ] (c k : κ) (a : α) (rest : List (κ × α)) :
    ((c, a) :: rest).lookup k = if k = c then some a else rest.lookup k := by
  by_cases h : k = c
  · simp [h]
  · have : (k == c) = false := by simpa using h
    simp [List.lookup_cons, this, h]

theorem lookup_insertEntry (c k : Consumer) (a : α) (entries : List (Consumer × α)) :
    (insertEntry c a entries).lookup k = if k = c then some a else entries.lookup k := by
  induction entries with
  | nil => exact lookup_cons_ite c k a []
  | cons head rest ih =>
    obtain ⟨k', b⟩ := head
    rw [insertEntry]
    split
    · rw [lookup_cons_ite]
    · split
      · rename_i eq
        subst eq
        simp only [lookup_cons_ite]
        split <;> rfl
      · rename_i ne
        simp only [lookup_cons_ite, ih]
        by_cases h : k = k'
        · subst h; have ne' : k ≠ c := fun e => ne e.symm
          simp [ne']
        · simp [h]

@[simp] theorem get?_insert (r : Roster α) (c k : Consumer) (a : α) :
    (r.insert c a).get? k = if k = c then some a else r.get? k :=
  lookup_insertEntry c k a r.entries

theorem lookup_filter_ne {κ : Type} [DecidableEq κ] (c k : κ) (entries : List (κ × α)) :
    (entries.filter fun e => e.1 ≠ c).lookup k = if k = c then none else entries.lookup k := by
  induction entries with
  | nil => simp
  | cons head rest ih =>
    obtain ⟨k', b⟩ := head
    by_cases hc : k' = c
    · rw [List.filter_cons_of_neg (by simpa using hc), ih, lookup_cons_ite]
      by_cases h : k = c
      · simp [h]
      · have h' : k ≠ k' := fun e => h (e.trans hc)
        simp [h, h']
    · rw [List.filter_cons_of_pos (by simpa using hc), lookup_cons_ite, lookup_cons_ite, ih]
      by_cases h : k = k'
      · subst h; simp [hc]
      · simp [h]

@[simp] theorem get?_erase (r : Roster α) (c k : Consumer) :
    (r.erase c).get? k = if k = c then none else r.get? k :=
  lookup_filter_ne c k r.entries

/-- A name that comes before all others is not among them. -/
theorem lookup_eq_none_of_lt {c : Consumer} {entries : List (Consumer × α)}
    (first : ∀ e ∈ entries, c.name < e.1.name) : entries.lookup c = none := by
  rw [List.lookup_eq_none_iff]
  intro entry there
  have before := first entry there
  rw [bne_iff_ne]
  intro same
  rw [same] at before
  exact String.lt_irrefl _ before

theorem lookup_eq_some_of_mem {entries : List (Consumer × α)} (sorted : Sorted entries)
    {c : Consumer} {a : α} (mem : (c, a) ∈ entries) : entries.lookup c = some a := by
  induction entries with
  | nil => cases mem
  | cons head rest ih =>
    obtain ⟨k, b⟩ := head
    obtain ⟨first, more⟩ := List.pairwise_cons.1 sorted
    rw [lookup_cons_ite]
    rcases List.mem_cons.1 mem with here | later
    · cases here
      rw [if_pos rfl]
    · have lt : k.name < c.name := first (c, a) later
      have ne : c ≠ k := by
        rintro rfl
        exact String.lt_irrefl _ lt
      rw [if_neg ne, ih more later]

/-- Mapping values, and dropping some, keeps names in order. -/
theorem sorted_filterMap {β : Type} (f : α → Option β) {entries : List (Consumer × α)}
    (sorted : Sorted entries) :
    Sorted (entries.filterMap fun e => (f e.2).map fun b => (e.1, b)) := by
  refine List.Pairwise.filterMap _ ?_ sorted
  intro e e' lt b made b' made'
  obtain ⟨-, -, rfl⟩ := Option.map_eq_some_iff.mp made
  obtain ⟨-, -, rfl⟩ := Option.map_eq_some_iff.mp made'
  exact lt

theorem lookup_filterMap {β : Type} (f : α → Option β) {entries : List (Consumer × α)}
    (sorted : Sorted entries) (k : Consumer) :
    (entries.filterMap fun e => (f e.2).map fun b => (e.1, b)).lookup k =
      (entries.lookup k).bind f := by
  induction entries with
  | nil => rfl
  | cons head rest ih =>
    obtain ⟨c, a⟩ := head
    obtain ⟨first, more⟩ := List.pairwise_cons.1 sorted
    have absent := lookup_eq_none_of_lt first
    rw [lookup_cons_ite]
    cases made : f a with
    | none =>
      rw [List.filterMap_cons_none (by rw [made]; rfl), ih more]
      split
      · rename_i same
        rw [same, absent, Option.bind_some, made]
        rfl
      · rfl
    | some b =>
      rw [List.filterMap_cons_some (by rw [made]; rfl), lookup_cons_ite, ih more]
      split
      · rw [Option.bind_some, made]
      · rfl

/-- Rows of names in order that agree in every look-up are the same. -/
theorem eq_of_lookup_eq {entries others : List (Consumer × α)} (sorted : Sorted entries)
    (sorted' : Sorted others) (same : ∀ k, entries.lookup k = others.lookup k) :
    entries = others := by
  induction entries generalizing others with
  | nil =>
    cases others with
    | nil => rfl
    | cons head rest =>
      have there := same head.1
      rw [lookup_cons_ite, if_pos rfl] at there
      cases there
  | cons head rest ih =>
    obtain ⟨c, a⟩ := head
    have here := same c
    rw [lookup_cons_ite, if_pos rfl] at here
    cases others with
    | nil => cases here
    | cons head' rest' =>
      obtain ⟨d, b⟩ := head'
      obtain ⟨first, more⟩ := List.pairwise_cons.1 sorted
      obtain ⟨first', more'⟩ := List.pairwise_cons.1 sorted'
      -- The lower of two different first names would be missing on the other side.
      have names : c = d := by
        refine Decidable.byContradiction fun ne => ?_
        by_cases lt : c.name < d.name
        · rw [lookup_eq_none_of_lt] at here
          · cases here
          · intro e he
            rcases List.mem_cons.1 he with rfl | he
            · exact lt
            · exact String.lt_trans lt (first' e he)
        · have gt := name_lt_of_not_lt lt ne
          have there := same d
          rw [lookup_cons_ite, if_neg (Ne.symm ne), lookup_cons_ite, if_pos rfl,
            lookup_eq_none_of_lt fun e he => String.lt_trans gt (first e he)] at there
          cases there
      subst names
      rw [lookup_cons_ite, if_pos rfl] at here
      cases here
      have rests : ∀ k, rest.lookup k = rest'.lookup k := by
        intro k
        by_cases again : k = c
        · rw [again, lookup_eq_none_of_lt first, lookup_eq_none_of_lt first']
        · have there := same k
          rwa [lookup_cons_ite, lookup_cons_ite, if_neg again, if_neg again] at there
      rw [ih more more' rests]

/-- A roster is decided by its look-ups. -/
theorem ext_get? {r r' : Roster α} (same : ∀ c, r.get? c = r'.get? c) : r = r' := by
  obtain ⟨entries, sorted⟩ := r
  obtain ⟨entries', sorted'⟩ := r'
  have equal : entries = entries' := eq_of_lookup_eq sorted sorted' same
  subst equal
  rfl

end Roster
end ChangeLog
