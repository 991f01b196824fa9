import Runboard.Json.Basic

set_option autoImplicit false

namespace Runboard.Keyed

variable {α : Type}

/-- The keys increase, so that none comes twice. -/
def Sorted (map : Keyed α) : Prop := map.Pairwise fun a b => a.1 < b.1

@[simp] theorem get?_nil (key : String) : get? key ([] : Keyed α) = none := rfl

@[simp] theorem get?_cons (key : String) (entry : String × α) (rest : Keyed α) :
    get? key (entry :: rest) = if entry.1 = key then some entry.2 else get? key rest := rfl

theorem get?_insert (key other : String) (value : α) (map : Keyed α) :
    get? other (map.insert key value) = if key = other then some value else get? other map := by
  induction map with
  | nil => rfl
  | cons entry rest ih =>
      obtain ⟨k, v⟩ := entry
      simp only [insert]
      split
      · rfl
      · split
        · rename_i same
          subst same
          by_cases found : key = other <;> simp [found]
        · rename_i apart
          simp only [get?_cons, ih]
          by_cases found : key = other
          · subst found
            simp [Ne.symm apart]
          · simp [found]

theorem get?_erase_ne {key other : String} (map : Keyed α) (apart : key ≠ other) :
    get? other (map.erase key) = get? other map := by
  induction map with
  | nil => rfl
  | cons entry rest ih =>
      obtain ⟨k, v⟩ := entry
      simp only [erase]
      split
      · rename_i same
        subst same
        simp [apart]
      · simp only [get?_cons, ih]

theorem mem_of_get? {key : String} {value : α} {map : Keyed α}
    (found : get? key map = some value) : (key, value) ∈ map := by
  induction map with
  | nil => cases found
  | cons entry rest ih =>
      obtain ⟨k, v⟩ := entry
      rw [get?_cons] at found
      split at found
      · rename_i same
        cases found
        subst same
        exact List.mem_cons_self
      · exact List.mem_cons_of_mem _ (ih found)

theorem Sorted.tail {entry : String × α} {rest : Keyed α} (sorted : Sorted (entry :: rest)) :
    Sorted rest := List.Pairwise.of_cons sorted

theorem Sorted.head_lt {entry other : String × α} {rest : Keyed α}
    (sorted : Sorted (entry :: rest)) (member : other ∈ rest) : entry.1 < other.1 :=
  List.rel_of_pairwise_cons sorted member

/-- The first key of a sorted map does not come again. -/
theorem Sorted.get?_head {entry : String × α} {rest : Keyed α}
    (sorted : Sorted (entry :: rest)) : get? entry.1 rest = none := by
  cases again : get? entry.1 rest with
  | none => rfl
  | some value =>
      have before := sorted.head_lt (mem_of_get? again)
      exact absurd before (String.lt_irrefl _)

theorem Sorted.mem_iff {map : Keyed α} (sorted : map.Sorted) (key : String) (value : α) :
    (key, value) ∈ map ↔ get? key map = some value := by
  refine ⟨fun member => ?_, mem_of_get?⟩
  induction map with
  | nil => cases member
  | cons entry rest ih =>
      rcases List.mem_cons.mp member with same | later
      · rw [← same]
        simp
      · have before := sorted.head_lt later
        simp [String.ne_of_lt before, ih sorted.tail later]

theorem Sorted.get?_erase {map : Keyed α} (sorted : map.Sorted) (key other : String) :
    get? other (map.erase key) = if key = other then none else get? other map := by
  by_cases same : key = other
  · subst same
    simp only [↓reduceIte]
    induction map with
    | nil => rfl
    | cons entry rest ih =>
        simp only [erase]
        split
        · rename_i found
          subst found
          exact sorted.get?_head
        · rename_i apart
          simp [apart, ih sorted.tail]
  · rw [get?_erase_ne map same, if_neg same]

/-- All entries of a key, of which a map has at most one. -/
def entries (key : String) (map : Keyed α) : List α :=
  map.filterMap fun entry => if entry.1 = key then some entry.2 else none

theorem entries_cons (key : String) (entry : String × α) (rest : Keyed α) :
    entries key (entry :: rest) =
      if entry.1 = key then entry.2 :: entries key rest else entries key rest := by
  by_cases same : entry.1 = key <;> simp [entries, same]

theorem get?_eq_head?_entries (key : String) (map : Keyed α) :
    get? key map = (entries key map).head? := by
  induction map with
  | nil => rfl
  | cons entry rest ih =>
      rw [get?_cons, entries_cons, ih]
      split <;> rfl

theorem entries_eq_nil_of_get? {key : String} {map : Keyed α} (absent : get? key map = none) :
    entries key map = [] := by
  rw [get?_eq_head?_entries] at absent
  exact List.head?_eq_none_iff.mp absent

theorem Sorted.entries_eq {map : Keyed α} (sorted : map.Sorted) (key : String) :
    entries key map = (get? key map).toList := by
  induction map with
  | nil => rfl
  | cons entry rest ih =>
      rw [entries_cons, get?_cons]
      split
      · rename_i same
        rw [entries_eq_nil_of_get? (same ▸ sorted.get?_head)]
        rfl
      · exact ih sorted.tail

theorem Sorted.nil : Sorted ([] : Keyed α) := List.Pairwise.nil

theorem mem_insert {key : String} {value : α} {entry : String × α} {map : Keyed α}
    (member : entry ∈ map.insert key value) : entry = (key, value) ∨ entry ∈ map := by
  induction map with
  | nil => exact Or.inl (List.mem_singleton.mp member)
  | cons first rest ih =>
      simp only [insert] at member
      split at member
      · exact List.mem_cons.mp member
      · split at member
        · rcases List.mem_cons.mp member with same | later
          · exact Or.inl same
          · exact Or.inr (List.mem_cons_of_mem _ later)
        · rcases List.mem_cons.mp member with same | later
          · exact Or.inr (same ▸ List.mem_cons_self)
          · exact (ih later).imp_right (List.mem_cons_of_mem _)

theorem Sorted.insert {map : Keyed α} (sorted : map.Sorted) (key : String) (value : α) :
    (map.insert key value).Sorted := by
  induction map with
  | nil => exact List.pairwise_singleton _ _
  | cons first rest ih =>
      simp only [Keyed.insert]
      split
      · rename_i before
        refine List.Pairwise.cons ?_ sorted
        intro entry member
        rcases List.mem_cons.mp member with rfl | later
        · exact before
        · exact String.lt_trans before (sorted.head_lt later)
      · rename_i notBefore
        split
        · rename_i same
          refine List.Pairwise.cons ?_ sorted.tail
          intro entry member
          rw [same]
          exact sorted.head_lt member
        · rename_i apart
          refine List.Pairwise.cons ?_ (ih sorted.tail)
          intro entry member
          rcases mem_insert member with rfl | later
          · exact Std.lt_of_le_of_ne (String.not_lt.mp notBefore) (Ne.symm apart)
          · exact sorted.head_lt later

theorem erase_sublist (key : String) (map : Keyed α) : (map.erase key).Sublist map := by
  induction map with
  | nil => exact List.Sublist.slnil
  | cons entry rest ih =>
      simp only [erase]
      split
      · exact List.sublist_cons_self _ _
      · exact ih.cons_cons _

theorem Sorted.erase {map : Keyed α} (sorted : map.Sorted) (key : String) :
    (map.erase key).Sorted := List.Pairwise.sublist (erase_sublist key map) sorted

theorem sorted_ofPairs (pairs : List (String × α)) : (ofPairs pairs).Sorted := by
  have general (map : Keyed α) (sorted : map.Sorted) :
      Sorted (pairs.foldl (fun map pair => map.insert pair.1 pair.2) map) := by
    induction pairs generalizing map with
    | nil => exact sorted
    | cons pair pairs ih => exact ih _ (sorted.insert pair.1 pair.2)
  exact general [] Sorted.nil

theorem mem_of_mem_ofPairs {entry : String × α} {pairs : List (String × α)} :
    entry ∈ ofPairs pairs → entry ∈ pairs := by
  have general (map : Keyed α) :
      entry ∈ pairs.foldl (fun map pair => map.insert pair.1 pair.2) map →
        entry ∈ map ∨ entry ∈ pairs := by
    induction pairs generalizing map with
    | nil => exact Or.inl
    | cons pair pairs ih =>
        intro member
        rcases ih _ member with before | later
        · rcases mem_insert before with rfl | earlier
          · exact Or.inr List.mem_cons_self
          · exact Or.inl earlier
        · exact Or.inr (List.mem_cons_of_mem pair later)
  intro member
  exact (general [] member).resolve_left List.not_mem_nil

/-- Of a repeated key the last entry counts. -/
theorem get?_ofPairs (key : String) (pairs : List (String × α)) :
    get? key (ofPairs pairs) =
      (pairs.filterMap fun pair => if pair.1 = key then some pair.2 else none).getLast? := by
  have general (map : Keyed α) :
      get? key (pairs.foldl (fun map pair => map.insert pair.1 pair.2) map) =
        (pairs.filterMap fun pair => if pair.1 = key then some pair.2 else none).getLast?.or
          (get? key map) := by
    induction pairs generalizing map with
    | nil => rfl
    | cons pair pairs ih =>
        rw [List.foldl_cons, ih, get?_insert, List.filterMap_cons]
        by_cases same : pair.1 = key
        · simp [same, List.getLast?_cons]
        · simp [same]
  rw [ofPairs, general, get?_nil, Option.or_none]

/-- Sorted maps that give the same for every key are equal. -/
theorem Sorted.ext {left right : Keyed α} (sortedLeft : left.Sorted) (sortedRight : right.Sorted)
    (same : ∀ key, get? key left = get? key right) : left = right := by
  have members : ∀ entry, entry ∈ left ↔ entry ∈ right := by
    rintro ⟨key, value⟩
    rw [sortedLeft.mem_iff, sortedRight.mem_iff, same]
  have distinct {map : Keyed α} (sorted : map.Sorted) : map.Nodup :=
    List.Pairwise.imp (fun before equal => String.ne_of_lt before (congrArg Prod.fst equal)) sorted
  have permuted : left.Perm right :=
    (List.perm_ext_iff_of_nodup (distinct sortedLeft) (distinct sortedRight)).mpr members
  refine permuted.eq_of_pairwise ?_ sortedLeft sortedRight
  intro a b _ _ before after
  exact absurd after (String.lt_asymm before)

/-- A sorted map is the map of its own entries. -/
theorem Sorted.ofPairs_eq {map : Keyed α} (sorted : map.Sorted) : ofPairs map = map := by
  refine (sorted_ofPairs map).ext sorted fun key => ?_
  have found : get? key (ofPairs map) = (entries key map).getLast? := get?_ofPairs key map
  rw [found, sorted.entries_eq]
  cases get? key map <;> rfl

theorem length_entries (key : String) (pairs : List (String × α)) :
    (entries key pairs).length = (pairs.map Prod.fst).count key := by
  induction pairs with
  | nil => rfl
  | cons pair pairs ih =>
      rw [entries_cons, List.map_cons, List.count_cons, ← ih]
      by_cases same : pair.1 = key <;> simp [same]

/-- Putting pairs into a map keeps the entry of a key that does not come again. -/
theorem entries_eq_singleton_iff {key : String} {pairs : List (String × α)} {value : α} :
    entries key pairs = [value] ↔
      entries key (ofPairs pairs) = [value] ∧ (pairs.map Prod.fst).count key ≤ 1 := by
  have last : get? key (ofPairs pairs) = (entries key pairs).getLast? := get?_ofPairs key pairs
  rw [(sorted_ofPairs pairs).entries_eq, last, ← length_entries]
  rcases entries key pairs with _ | ⟨first, _ | ⟨second, rest⟩⟩ <;> simp

end Runboard.Keyed
