namespace RecordLocks

/-- Keys are ordered by a rank, and no two keys share one. -/
class Ranked (κ : Type) where
  rank : κ → Nat
  rank_inj : ∀ {a b : κ}, rank a = rank b → a = b

instance : Ranked UInt64 := ⟨UInt64.toNat, UInt64.toNat_inj.mp⟩

instance : Ranked Nat := ⟨id, id⟩

open Ranked (rank rank_inj)

/-- A finite map, kept as its entries in strictly ascending order of their keys. -/
structure Index (κ α : Type) [Ranked κ] where
  entries : List (κ × α)
  ascending : entries.Pairwise fun a b => rank a.1 < rank b.1

namespace Index

variable {κ α : Type} [Ranked κ]

def lookup (key : κ) : List (κ × α) → Option α
  | [] => none
  | (k, value) :: rest => if rank k = rank key then some value else lookup key rest

def place (key : κ) (value : α) : List (κ × α) → List (κ × α)
  | [] => [(key, value)]
  | (k, old) :: rest =>
    if rank key < rank k then (key, value) :: (k, old) :: rest
    else if rank key = rank k then (key, value) :: rest
    else (k, old) :: place key value rest

theorem mem_place {key : κ} {value : α} {entry : κ × α} {entries : List (κ × α)}
    (member : entry ∈ place key value entries) : entry = (key, value) ∨ entry ∈ entries := by
  induction entries with
  | nil => simpa [place] using member
  | cons head rest ih =>
    simp only [place] at member
    split at member
    · simpa using member
    · split at member
      · grind
      · rcases List.mem_cons.mp member with same | later
        · exact .inr (by simp [same])
        · exact (ih later).imp_right (List.mem_cons_of_mem _)

theorem place_ascending (key : κ) (value : α) {entries : List (κ × α)}
    (ascending : entries.Pairwise fun a b => rank a.1 < rank b.1) :
    (place key value entries).Pairwise fun a b => rank a.1 < rank b.1 := by
  induction entries with
  | nil => simp [place]
  | cons head rest ih =>
    obtain ⟨above, tail⟩ := List.pairwise_cons.mp ascending
    simp only [place]
    split
    · refine List.pairwise_cons.mpr ⟨fun entry member => ?_, ascending⟩
      rcases List.mem_cons.mp member with rfl | later
      · assumption
      · exact Nat.lt_trans ‹_› (above entry later)
    · split
      · exact List.pairwise_cons.mpr ⟨fun entry member => by
          have := above entry member
          simp only
          omega, tail⟩
      · refine List.pairwise_cons.mpr ⟨fun entry member => ?_, ih tail⟩
        rcases mem_place member with rfl | later
        · simp only; omega
        · exact above entry later

def empty : Index κ α := ⟨[], .nil⟩

instance : EmptyCollection (Index κ α) := ⟨empty⟩

instance : Inhabited (Index κ α) := ⟨empty⟩

instance [DecidableEq κ] [DecidableEq α] : DecidableEq (Index κ α) := fun a b =>
  if same : a.entries = b.entries then isTrue (by cases a; cases b; simp_all)
  else isFalse (fun equal => same (by rw [equal]))

def toList (index : Index κ α) : List (κ × α) := index.entries

def get? (index : Index κ α) (key : κ) : Option α := lookup key index.entries

def contains (index : Index κ α) (key : κ) : Bool := (index.get? key).isSome

def insert (index : Index κ α) (key : κ) (value : α) : Index κ α :=
  ⟨place key value index.entries, place_ascending key value index.ascending⟩

def filter (index : Index κ α) (keep : κ → α → Bool) : Index κ α :=
  ⟨index.entries.filter fun entry => keep entry.1 entry.2, index.ascending.filter _⟩

def erase (index : Index κ α) (key : κ) : Index κ α :=
  index.filter fun k _ => rank k ≠ rank key

/-- The entries under some of the keys. -/
def restrict (index : Index κ α) (keep : κ → Bool) : Index κ α := index.filter fun key _ => keep key

def keys (index : Index κ α) : List κ := index.entries.map (·.1)

def size (index : Index κ α) : Nat := index.entries.length

/-- Of several entries with one key the last counts. -/
def ofList (entries : List (κ × α)) : Index κ α :=
  entries.foldl (fun index entry => index.insert entry.1 entry.2) empty

theorem lookup_eq_none {key : κ} {entries : List (κ × α)}
    (absent : ∀ entry ∈ entries, rank entry.1 ≠ rank key) : lookup key entries = none := by
  induction entries with
  | nil => rfl
  | cons head rest ih =>
    have different := absent head (by simp)
    simp [lookup, different, ih fun entry member => absent entry (by simp [member])]

theorem lookup_eq_some_iff {key : κ} {value : α} {entries : List (κ × α)}
    (ascending : entries.Pairwise fun a b => rank a.1 < rank b.1) :
    lookup key entries = some value ↔ (key, value) ∈ entries := by
  induction entries with
  | nil => simp [lookup]
  | cons head rest ih =>
    obtain ⟨above, tail⟩ := List.pairwise_cons.mp ascending
    simp only [lookup, List.mem_cons]
    split
    · rename_i same
      have equal : head.1 = key := rank_inj same
      constructor
      · rintro ⟨⟩
        exact .inl (by rw [← equal])
      · rintro (rfl | later)
        · rfl
        · have := above _ later
          simp only at this
          omega
    · rename_i different
      rw [ih tail]
      constructor
      · exact .inr
      · rintro (rfl | later)
        · exact absurd rfl different
        · exact later

theorem mem_toList {index : Index κ α} {key : κ} {value : α} :
    (key, value) ∈ index.toList ↔ index.get? key = some value :=
  (lookup_eq_some_iff index.ascending).symm

theorem lookup_place (key other : κ) (value : α) (entries : List (κ × α)) :
    lookup other (place key value entries) =
      if rank key = rank other then some value else lookup other entries := by
  induction entries with
  | nil => simp [place, lookup]
  | cons head rest ih => grind [place, lookup]

@[simp] theorem get?_empty (key : κ) : (empty : Index κ α).get? key = none := rfl

@[simp] theorem get?_emptyCollection (key : κ) : (∅ : Index κ α).get? key = none := rfl

theorem get?_insert_rank (index : Index κ α) (key other : κ) (value : α) :
    (index.insert key value).get? other =
      if rank key = rank other then some value else index.get? other :=
  lookup_place key other value index.entries

theorem get?_insert [DecidableEq κ] (index : Index κ α) (key other : κ) (value : α) :
    (index.insert key value).get? other = if key = other then some value else index.get? other := by
  rw [get?_insert_rank]
  by_cases same : key = other
  · simp [same]
  · rw [if_neg fun equal => same (rank_inj equal), if_neg same]

theorem get?_filter (index : Index κ α) (keep : κ → α → Bool) (key : κ) :
    (index.filter keep).get? key = (index.get? key).filter (keep key) := by
  cases found : index.get? key with
  | none =>
    refine lookup_eq_none fun entry member same => ?_
    have inside := (List.mem_filter.mp member).1
    have equal : entry.1 = key := rank_inj same
    have present : index.get? key = some entry.2 :=
      mem_toList.mp (by rw [← equal]; exact inside)
    simp [found] at present
  | some value =>
    have inside := mem_toList.mpr found
    by_cases kept : keep key value
    · simp only [Option.filter, kept, if_true]
      exact mem_toList.mp (List.mem_filter.mpr ⟨inside, kept⟩)
    · simp only [Option.filter, kept]
      refine lookup_eq_none fun entry member same => ?_
      obtain ⟨inEntries, held⟩ := List.mem_filter.mp member
      have equal : entry.1 = key := rank_inj same
      have present : index.get? key = some entry.2 :=
        mem_toList.mp (by rw [← equal]; exact inEntries)
      rw [found] at present
      simp_all

theorem get?_erase [DecidableEq κ] (index : Index κ α) (key other : κ) :
    (index.erase key).get? other = if key = other then none else index.get? other := by
  rw [erase, get?_filter]
  by_cases same : key = other
  · subst same
    cases index.get? key <;> simp [Option.filter]
  · have different : rank other ≠ rank key := fun equal => same (rank_inj equal).symm
    cases index.get? other <;> simp [Option.filter, same, different]

theorem mem_keys {index : Index κ α} {key : κ} : key ∈ index.keys ↔ index.contains key := by
  simp only [keys, List.mem_map, contains, Option.isSome_iff_exists]
  constructor
  · rintro ⟨entry, member, rfl⟩
    exact ⟨entry.2, mem_toList.mp member⟩
  · rintro ⟨value, found⟩
    exact ⟨(key, value), mem_toList.mpr found, rfl⟩

theorem keys_ascending (index : Index κ α) : index.keys.Pairwise fun a b => rank a < rank b :=
  index.ascending.map _ fun _ _ less => less

theorem entries_eq {a b : List (κ × α)}
    (ascendingA : a.Pairwise fun x y => rank x.1 < rank y.1)
    (ascendingB : b.Pairwise fun x y => rank x.1 < rank y.1)
    (same : ∀ entry, entry ∈ a ↔ entry ∈ b) : a = b := by
  induction a generalizing b with
  | nil =>
    cases b with
    | nil => rfl
    | cons head rest => exact absurd ((same head).mpr (by simp)) (by simp)
  | cons first restA ih =>
    cases b with
    | nil => exact absurd ((same first).mp (by simp)) (by simp)
    | cons second restB =>
      obtain ⟨aboveA, tailA⟩ := List.pairwise_cons.mp ascendingA
      obtain ⟨aboveB, tailB⟩ := List.pairwise_cons.mp ascendingB
      have heads : first = second := by
        rcases List.mem_cons.mp ((same first).mp (by simp)) with equal | later
        · exact equal
        · rcases List.mem_cons.mp ((same second).mpr (by simp)) with equal | laterA
          · exact equal.symm
          · have := aboveA second laterA
            have := aboveB first later
            omega
      subst heads
      congr 1
      refine ih tailA tailB fun entry => ?_
      have inBoth := same entry
      simp only [List.mem_cons] at inBoth
      constructor
      · intro member
        rcases inBoth.mp (.inr member) with rfl | later
        · have := aboveA _ member
          omega
        · exact later
      · intro member
        rcases inBoth.mpr (.inr member) with rfl | later
        · have := aboveB _ member
          omega
        · exact later

theorem ext_get? {a b : Index κ α} (same : ∀ key, a.get? key = b.get? key) : a = b := by
  have equal : a.entries = b.entries := entries_eq a.ascending b.ascending fun entry => by
    have inA : entry ∈ a.entries ↔ a.get? entry.1 = some entry.2 := mem_toList
    have inB : entry ∈ b.entries ↔ b.get? entry.1 = some entry.2 := mem_toList
    rw [inA, inB, same]
  cases a
  cases b
  simp_all

theorem keys_eq {β : Type} {a : Index κ α} {b : Index κ β}
    (same : ∀ key, key ∈ a.keys ↔ key ∈ b.keys) : a.keys = b.keys := by
  have paired : a.keys.map (fun key => (key, ())) = b.keys.map (fun key => (key, ())) := by
    refine entries_eq (List.pairwise_map.mpr a.keys_ascending)
      (List.pairwise_map.mpr b.keys_ascending) ?_
    rintro ⟨key, ⟨⟩⟩
    simp [same]
  exact (List.map_inj_right fun _ _ equal => (Prod.mk.inj equal).1).mp paired

@[simp] theorem insert_insert (index : Index κ α) (key : κ) (old value : α) :
    (index.insert key old).insert key value = index.insert key value := by
  apply ext_get?
  intro other
  simp only [get?_insert_rank]
  split <;> rfl

theorem insert_of_get? {index : Index κ α} {key : κ} {value : α}
    (present : index.get? key = some value) : index.insert key value = index := by
  apply ext_get?
  intro other
  rw [get?_insert_rank]
  split
  · rename_i same
    rw [← present, rank_inj same]
  · rfl

theorem erase_of_none {index : Index κ α} {key : κ} (absent : index.get? key = none) :
    index.erase key = index := by
  apply ext_get?
  intro other
  rw [erase, get?_filter]
  cases found : index.get? other with
  | none => rfl
  | some value =>
    have different : rank other ≠ rank key := by
      intro same
      rw [rank_inj same, absent] at found
      cases found
    simp [Option.filter, different]

@[simp] theorem erase_insert [DecidableEq κ] (index : Index κ α) (key : κ) (value : α) :
    (index.insert key value).erase key = index.erase key := by
  apply ext_get?
  intro other
  rw [get?_erase, get?_insert, get?_erase]
  split <;> rfl

theorem insert_comm [DecidableEq κ] (index : Index κ α) {key other : κ}
    (different : key ≠ other) (value late : α) :
    (index.insert key value).insert other late = (index.insert other late).insert key value := by
  apply ext_get?
  intro asked
  simp only [get?_insert]
  grind

theorem erase_insert_comm [DecidableEq κ] (index : Index κ α) {key other : κ}
    (different : key ≠ other) (value : α) :
    (index.insert key value).erase other = (index.erase other).insert key value := by
  apply ext_get?
  intro asked
  simp only [get?_erase, get?_insert]
  grind

theorem size_erase_lt {index : Index κ α} {key : κ} (present : index.contains key = true) :
    (index.erase key).size < index.size := by
  obtain ⟨value, found⟩ := Option.isSome_iff_exists.mp present
  refine List.length_filter_lt_length_iff_exists.mpr ⟨(key, value), mem_toList.mpr found, ?_⟩
  simp

theorem exists_of_ne_empty {index : Index κ α} (filled : index ≠ ∅) :
    ∃ key value, index.get? key = some value := by
  obtain ⟨entries, ascending⟩ := index
  cases entries with
  | nil => exact absurd rfl filled
  | cons first rest => exact ⟨first.1, first.2, mem_toList.mp List.mem_cons_self⟩

theorem get?_restrict (index : Index κ α) (keep : κ → Bool) (key : κ) :
    (index.restrict keep).get? key = if keep key then index.get? key else none := by
  rw [restrict, get?_filter]
  cases index.get? key <;> cases keep key <;> simp [Option.filter]

theorem restrict_insert [DecidableEq κ] (index : Index κ α) (keep : κ → Bool) (key : κ)
    (value : α) :
    (index.insert key value).restrict keep =
      if keep key then (index.restrict keep).insert key value else index.restrict keep := by
  apply ext_get?
  intro other
  rw [get?_restrict, get?_insert]
  by_cases same : key = other
  · subst same
    cases kept : keep key <;> simp [kept, get?_insert, get?_restrict]
  · cases keep key <;> simp [same, get?_insert, get?_restrict]

theorem restrict_erase [DecidableEq κ] (index : Index κ α) (keep : κ → Bool) (key : κ) :
    (index.erase key).restrict keep = (index.restrict keep).erase key := by
  apply ext_get?
  intro other
  rw [get?_restrict, get?_erase, get?_erase, get?_restrict]
  by_cases same : key = other <;> cases keep other <;> simp [same]

theorem restrict_keys (index : Index κ α) (keep : κ → Bool) :
    (index.restrict keep).keys = index.keys.filter keep := by
  simp only [restrict, filter, keys, List.filter_map]
  rfl

/-- Two maps whose values correspond have corresponding entries. -/
theorem toList_eq {β : Type} {a : Index κ α} {b : Index κ β} {f : α → β}
    (same : ∀ key, (a.get? key).map f = b.get? key) :
    b.toList = a.toList.map fun entry => (entry.1, f entry.2) := by
  refine entries_eq b.ascending (List.pairwise_map.mpr a.ascending) ?_
  intro ⟨key, value⟩
  rw [mem_toList, ← same key, Option.map_eq_some_iff, List.mem_map]
  constructor
  · intro ⟨old, found, equal⟩
    exact ⟨(key, old), mem_toList.mpr found, by rw [equal]⟩
  · intro ⟨⟨other, old⟩, member, equal⟩
    cases equal
    exact ⟨old, mem_toList.mp member, rfl⟩

end Index

end RecordLocks
