import Mathlib.Data.String.Basic
import Telemetry.Keyed

/-!
Laws of keyed entries. An insertion changes the value of one key and nothing else, an
insertion of a new key changes nothing if there is a value, and both keep the keys in
ascending order, each of them once.
-/

namespace Telemetry

namespace Keyed

variable {α : Type}

@[simp] theorem get?_nil (key : String) : get? key ([] : Keyed α) = none := rfl

theorem get?_cons (key k : String) (value : α) (rest : Keyed α) :
    get? key ((k, value) :: rest) = if k = key then some value else get? key rest := rfl

theorem get?_insert (key other : String) (value : α) (entries : Keyed α) :
    get? other (insert key value entries) =
      if key = other then some value else get? other entries := by
  induction entries with
  | nil => rfl
  | cons entry rest ih =>
    obtain ⟨k, v⟩ := entry
    unfold insert
    by_cases hless : key < k
    · rw [if_pos hless, get?_cons]
    · rw [if_neg hless]
      by_cases hsame : key = k
      · rw [if_pos hsame, get?_cons, get?_cons, hsame]
        by_cases hother : k = other
        · simp [hother]
        · simp [hother]
      · rw [if_neg hsame, get?_cons, get?_cons, ih]
        by_cases hkey : key = other
        · subst hkey
          simp [Ne.symm hsame]
        · simp [hkey]

theorem get?_insertNew (key other : String) (value : α) (entries : Keyed α) :
    get? other (insertNew key value entries) =
      (get? other entries).or (if key = other then some value else none) := by
  unfold insertNew
  by_cases hkey : key = other
  · subst hkey
    cases hheld : get? key entries with
    | some held => simp [hheld]
    | none => simp [get?_insert]
  · cases hheld : get? key entries with
    | some held => simp [hkey]
    | none => simp [get?_insert, hkey]

/-- Every entry is the inserted one or one that was there. -/
theorem mem_insert (key : String) (value : α) (entries : Keyed α) (entry : String × α)
    (hentry : entry ∈ insert key value entries) : entry = (key, value) ∨ entry ∈ entries := by
  induction entries with
  | nil => simpa [insert] using hentry
  | cons head rest ih =>
    obtain ⟨k, v⟩ := head
    unfold insert at hentry
    split at hentry
    · simpa using hentry
    · split at hentry
      · rcases List.mem_cons.mp hentry with hthis | hrest
        · exact Or.inl hthis
        · exact Or.inr (List.mem_cons_of_mem _ hrest)
      · rcases List.mem_cons.mp hentry with hhead | hrest
        · exact Or.inr (List.mem_cons.mpr (Or.inl hhead))
        · exact (ih hrest).imp_right (List.mem_cons_of_mem _)

/-- A key past all others goes to the end. -/
theorem insert_last (key : String) (value : α) (entries : Keyed α)
    (hlast : ∀ entry ∈ entries, entry.1 < key) :
    insert key value entries = entries ++ [(key, value)] := by
  induction entries with
  | nil => rfl
  | cons entry rest ih =>
    obtain ⟨k, v⟩ := entry
    obtain ⟨hfirst, hrest⟩ := List.forall_mem_cons.mp hlast
    rw [insert, if_neg (not_lt_of_gt hfirst), if_neg (ne_of_gt hfirst), ih hrest]
    rfl

theorem sorted_nil : Sorted ([] : Keyed α) :=
  List.Pairwise.nil

theorem sorted_insert (key : String) (value : α) (entries : Keyed α) (hsorted : Sorted entries) :
    Sorted (insert key value entries) := by
  induction entries with
  | nil => exact List.pairwise_singleton _ _
  | cons head rest ih =>
    obtain ⟨k, v⟩ := head
    obtain ⟨hhead, hrest⟩ := List.pairwise_cons.mp hsorted
    unfold insert
    split
    case isTrue hless =>
      refine List.pairwise_cons.mpr ⟨fun entry hentry => ?_, hsorted⟩
      rcases List.mem_cons.mp hentry with rfl | hlater
      · exact hless
      · exact lt_trans hless (hhead entry hlater)
    case isFalse hless =>
      split
      case isTrue hsame =>
        subst hsame
        exact List.pairwise_cons.mpr ⟨hhead, hrest⟩
      case isFalse hsame =>
        refine List.pairwise_cons.mpr ⟨fun entry hentry => ?_, ih hrest⟩
        rcases mem_insert key value rest entry hentry with rfl | hold
        · exact lt_of_le_of_ne (not_lt.mp hless) (Ne.symm hsame)
        · exact hhead entry hold

theorem sorted_insertNew (key : String) (value : α) (entries : Keyed α)
    (hsorted : Sorted entries) : Sorted (insertNew key value entries) := by
  unfold insertNew
  split
  · exact hsorted
  · exact sorted_insert key value entries hsorted

/-- In ascending order no key has two values. -/
theorem mem_iff_get? (entries : Keyed α) (hsorted : Sorted entries) (key : String) (value : α) :
    (key, value) ∈ entries ↔ get? key entries = some value := by
  induction entries with
  | nil => simp
  | cons head rest ih =>
    obtain ⟨k, v⟩ := head
    obtain ⟨hhead, hrest⟩ := List.pairwise_cons.mp hsorted
    rw [get?_cons, List.mem_cons, ih hrest]
    by_cases hkey : k = key
    · subst hkey
      have hlater : ¬ get? k rest = some value := fun hheld =>
        lt_irrefl k (hhead _ ((ih hrest).mpr hheld))
      simp [hlater, eq_comm]
    · simp [hkey, Ne.symm hkey]

end Keyed

end Telemetry
