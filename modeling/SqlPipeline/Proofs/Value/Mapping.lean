import Mathlib.Data.List.Nodup
import SqlPipeline.Value.Basic

/-!
# Laws of mappings

Looking up, writing and erasing, key by key. What a key denotes decides which entry it means, so the
laws compare identities of keys. Writing an entry keeps the identities in order and adds a new one
at the end, and therefore a mapping that is written entry by entry has no identity twice.
-/

namespace SqlPipeline

namespace Key

@[simp] theorem same_self (key : Key) : key.same key = true :=
  same_iff.mpr rfl

@[simp] theorem same_str {name other : String} : (str name).same (str other) = (name == other) := by
  by_cases equal : name = other
  · simp [equal]
  · simp [same, identity, equal]

theorem same_congr_right {key other third : Key} (alike : other.same third = true) :
    key.same other = key.same third := by
  rw [same, same, same_iff.mp alike]

theorem same_congr_left {key other third : Key} (alike : key.same other = true) :
    key.same third = other.same third := by
  rw [same, same, same_iff.mp alike]

/-- What is the same as a key is apart from all that the key is apart from. -/
theorem apart_of_same {key other third : Key} (alike : key.same third = true)
    (apart : ¬key.same other = true) : other.same third = false := by
  by_contra same
  rw [Bool.not_eq_false] at same
  exact apart ((same_congr_right same).trans alike)

theorem same_comm (key other : Key) : key.same other = other.same key :=
  Bool.beq_comm

end Key

namespace Mapping

variable {α : Type}

@[simp] theorem find?_nil (key : Key) : find? key [] = none := rfl

theorem find?_cons (key other : Key) (value : Value) (rest : Mapping) :
    find? key ((other, value) :: rest) =
      if other.same key then some value else find? key rest := rfl

theorem find?_congr {key other : Key} (alike : key.same other = true) (entries : Mapping) :
    find? key entries = find? other entries := by
  induction entries with
  | nil => rfl
  | cons entry rest ih => rw [find?_cons, find?_cons, Key.same_congr_right alike, ih]

theorem find?_eq_none_iff {key : Key} {entries : Mapping} :
    find? key entries = none ↔ ∀ entry ∈ entries, entry.1.same key = false := by
  induction entries with
  | nil => simp
  | cons entry rest ih =>
      rw [find?_cons]
      split <;> simp_all

theorem mem_of_find? {key : Key} {value : Value} {entries : Mapping}
    (found : find? key entries = some value) :
    ∃ other, other.same key = true ∧ (other, value) ∈ entries := by
  induction entries with
  | nil => cases found
  | cons entry rest ih =>
      rw [find?_cons] at found
      split at found
      · next alike =>
        cases found
        exact ⟨_, alike, List.mem_cons_self⟩
      · rcases ih found with ⟨other, alike, member⟩
        exact ⟨other, alike, List.mem_cons_of_mem _ member⟩

/-- Writing an entry changes what is found at its key and nothing else. -/
theorem find?_put (key other : Key) (value : Value) (entries : Mapping) :
    find? other (put key value entries) =
      if key.same other then some value else find? other entries := by
  induction entries with
  | nil => rfl
  | cons entry rest ih =>
      rcases entry with ⟨first, old⟩
      rw [put]
      by_cases alike : first.same key = true
      · rw [if_pos alike, find?_cons, find?_cons, Key.same_congr_left alike]
        split <;> rfl
      · rw [if_neg alike, find?_cons, find?_cons, ih]
        split
        · next found =>
          rw [Key.apart_of_same found alike]
          rfl
        · rfl

theorem erase_cons (name : String) (key : Key) (value : Value) (rest : Mapping) :
    erase name ((key, value) :: rest) =
      if key.same (.str name) then erase name rest else (key, value) :: erase name rest := by
  cases named : key.same (.str name) <;> simp [erase, named]

/-- Erasing a name hides what is found at the name and nothing else. -/
theorem find?_erase (name : String) (key : Key) (entries : Mapping) :
    find? key (erase name entries) =
      if (Key.str name).same key then none else find? key entries := by
  induction entries with
  | nil => simp [erase]
  | cons entry rest ih =>
      rcases entry with ⟨first, value⟩
      rw [erase_cons]
      by_cases named : first.same (.str name) = true
      · rw [if_pos named, ih, find?_cons, ← Key.same_congr_left named]
        split <;> rfl
      · rw [if_neg named, find?_cons, find?_cons, ih]
        split
        · next found =>
          rw [Key.apart_of_same found named]
          rfl
        · rfl

/-- The names under which nothing is found can be erased without a change. -/
theorem erase_of_find?_eq_none {name : String} {entries : Mapping}
    (absent : find? (.str name) entries = none) : erase name entries = entries := by
  rw [erase, List.filter_eq_self]
  rintro ⟨key, value⟩ member
  simpa using find?_eq_none_iff.mp absent _ member

theorem erase_put (name : String) (key : Key) (value : Value) (entries : Mapping) :
    erase name (put key value entries) =
      if key.same (.str name) then erase name entries else put key value (erase name entries) := by
  induction entries with
  | nil => cases named : key.same (.str name) <;> simp [put, erase, named]
  | cons entry rest ih =>
      rcases entry with ⟨first, old⟩
      rw [put]
      by_cases alike : first.same key = true
      · rw [if_pos alike, erase_cons, erase_cons, Key.same_congr_left alike]
        split
        · rfl
        · rw [put, if_pos alike]
      · rw [if_neg alike, erase_cons, erase_cons, ih]
        split
        · rfl
        · split
          · rfl
          · rw [put, if_neg alike]

theorem erase_comm (name other : String) (entries : Mapping) :
    erase name (erase other entries) = erase other (erase name entries) :=
  List.filter_comm _ _ _

/-- What the keys of entries denote, in order. -/
def identities (entries : List (Key × α)) : List Key.Identity :=
  entries.map fun entry => entry.1.identity

/-- Entries in which no key comes twice. -/
def Distinct (entries : List (Key × α)) : Prop :=
  (identities entries).Nodup

instance (entries : List (Key × α)) : Decidable (Distinct entries) :=
  inferInstanceAs (Decidable (identities entries).Nodup)

/-- Writing an entry adds what its key denotes at the end, if it is new. -/
theorem identities_put (key : Key) (value : α) (entries : List (Key × α)) :
    identities (put key value entries) =
      if key.identity ∈ identities entries then identities entries
      else identities entries ++ [key.identity] := by
  induction entries with
  | nil => simp [identities, put]
  | cons entry rest ih =>
      rcases entry with ⟨first, old⟩
      rw [put]
      by_cases alike : first.same key = true
      · have equal := Key.same_iff.mp alike
        simp [identities, alike, equal]
      · have differs : ¬first.identity = key.identity := fun equal => alike (Key.same_iff.mpr equal)
        rw [if_neg alike]
        change first.identity :: identities (put key value rest) =
          if key.identity ∈ first.identity :: identities rest then
            first.identity :: identities rest
          else (first.identity :: identities rest) ++ [key.identity]
        rw [ih]
        by_cases there : key.identity ∈ identities rest
        · simp [there]
        · simp [there, Ne.symm differs]

/-- Behind an entry nothing is found at its key. -/
theorem Distinct.find?_eq_none {key other : Key} {value : Value} {rest : Mapping}
    (distinct : Distinct ((key, value) :: rest)) (alike : key.same other = true) :
    find? other rest = none := by
  rw [find?_eq_none_iff]
  intro entry member
  by_contra again
  rw [Bool.not_eq_false, Key.same_iff] at again
  refine (List.nodup_cons.mp distinct).1 (List.mem_map.mpr ⟨entry, member, ?_⟩)
  exact again.trans (Key.same_iff.mp alike).symm

theorem Distinct.put {entries : List (Key × α)} (distinct : Distinct entries) (key : Key)
    (value : α) : Distinct (put key value entries) := by
  rw [Distinct, identities_put]
  split
  · exact distinct
  · next new => exact List.Nodup.append distinct (List.nodup_singleton _) (by simpa using new)

theorem Distinct.erase {entries : Mapping} (distinct : Distinct entries) (name : String) :
    Distinct (erase name entries) :=
  List.Nodup.sublist (List.filter_sublist.map _) distinct

theorem put_of_new {key : Key} {entries : List (Key × α)} (value : α)
    (new : key.identity ∉ identities entries) :
    put key value entries = entries ++ [(key, value)] := by
  induction entries with
  | nil => rfl
  | cons entry rest ih =>
      rcases entry with ⟨first, old⟩
      have parts : key.identity ≠ first.identity ∧ key.identity ∉ identities rest := by
        simpa [identities] using new
      have apart : ¬first.same key = true := fun alike => parts.1 (Key.same_iff.mp alike).symm
      rw [Mapping.put, if_neg apart, ih parts.2, List.cons_append]

/-- Entries with further ones written to them, one after the other. -/
def written (earlier later : List (Key × α)) : List (Key × α) :=
  later.foldl (fun entries entry => put entry.1 entry.2 entries) earlier

theorem ofEntries_eq_written (entries : List (Key × α)) : ofEntries entries = written [] entries :=
  rfl

theorem written_cons (earlier : List (Key × α)) (entry : Key × α) (later : List (Key × α)) :
    written earlier (entry :: later) = written (put entry.1 entry.2 earlier) later := rfl

theorem Distinct.written {earlier : List (Key × α)} (distinct : Distinct earlier)
    (later : List (Key × α)) : Distinct (written earlier later) := by
  induction later generalizing earlier with
  | nil => exact distinct
  | cons entry rest ih => exact ih (distinct.put entry.1 entry.2)

/-- Writing distinct entries adds them at the end. -/
theorem written_of_distinct {earlier later : List (Key × α)}
    (distinct : Distinct (earlier ++ later)) : Mapping.written earlier later = earlier ++ later := by
  induction later generalizing earlier with
  | nil => exact (List.append_nil earlier).symm
  | cons entry rest ih =>
      have new : entry.1.identity ∉ identities earlier := by
        rw [Distinct, identities, List.map_append, List.nodup_append'] at distinct
        intro member
        exact distinct.2.2 member (by simp)
      rw [written_cons, put_of_new entry.2 new, ih (by rwa [← List.append_cons]),
        ← List.append_cons]

theorem distinct_nil : Distinct ([] : List (Key × α)) := List.nodup_nil

theorem distinct_ofEntries (entries : List (Key × α)) : Distinct (ofEntries entries) :=
  distinct_nil.written entries

/-- Writing distinct entries one after the other gives them back. -/
theorem ofEntries_of_distinct {entries : List (Key × α)} (distinct : Distinct entries) :
    ofEntries entries = entries := by
  rw [ofEntries_eq_written]
  exact written_of_distinct distinct

end Mapping

end SqlPipeline
