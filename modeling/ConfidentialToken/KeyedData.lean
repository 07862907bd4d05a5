import ConfidentialToken.Json.Schema

/-!
Byte strings under keys, in the order of the keys.

Such data are published together with an action. Each key occurs once, so two
tables with the same content are equal.
-/

namespace ConfidentialToken

open Json

structure KeyedData where
  entries : List (String × Bytes)
  sorted : entries.Pairwise fun left right => left.1 < right.1

namespace KeyedData

def empty : KeyedData :=
  ⟨[], .nil⟩

/-- Puts a value under a key of sorted entries, in place of what is there. -/
def insertEntry (key : String) (value : Bytes) :
    List (String × Bytes) → List (String × Bytes)
  | [] => [(key, value)]
  | entry :: rest =>
      if key < entry.1 then (key, value) :: entry :: rest
      else if key = entry.1 then (key, value) :: rest
      else entry :: insertEntry key value rest

theorem mem_insertEntry {key : String} {value : Bytes} {entries : List (String × Bytes)}
    {entry : String × Bytes} (h : entry ∈ insertEntry key value entries) :
    entry = (key, value) ∨ entry ∈ entries := by
  induction entries with
  | nil => simpa [insertEntry] using h
  | cons first rest ih =>
      unfold insertEntry at h
      split at h
      · simpa using h
      · split at h
        · rcases List.mem_cons.1 h with h | h
          · exact .inl h
          · exact .inr (List.mem_cons_of_mem _ h)
        · rcases List.mem_cons.1 h with h | h
          · exact .inr (h ▸ List.mem_cons_self)
          · exact (ih h).imp_right (List.mem_cons_of_mem _)

theorem lt_of_not_lt_of_ne {left right : String} (notLess : ¬ left < right)
    (different : left ≠ right) : right < left := by
  refine Classical.byContradiction fun h => different ?_
  exact String.le_antisymm (String.not_lt.1 h) (String.not_lt.1 notLess)

theorem sorted_insertEntry (key : String) (value : Bytes)
    {entries : List (String × Bytes)}
    (sorted : entries.Pairwise fun left right => left.1 < right.1) :
    (insertEntry key value entries).Pairwise fun left right => left.1 < right.1 := by
  induction entries with
  | nil => simp [insertEntry]
  | cons first rest ih =>
      obtain ⟨least, sortedRest⟩ := List.pairwise_cons.1 sorted
      unfold insertEntry
      split
      case isTrue less =>
        refine List.pairwise_cons.2 ⟨fun entry member => ?_, sorted⟩
        rcases List.mem_cons.1 member with rfl | member
        · exact less
        · exact String.lt_trans less (least entry member)
      case isFalse notLess =>
        split
        case isTrue equal =>
          exact List.pairwise_cons.2 ⟨fun entry member => equal ▸ least entry member,
            sortedRest⟩
        case isFalse different =>
          refine List.pairwise_cons.2 ⟨fun entry member => ?_, ih sortedRest⟩
          rcases mem_insertEntry member with rfl | member
          · exact lt_of_not_lt_of_ne notLess different
          · exact least entry member

/-- Puts a value under a key, in place of what is there. -/
def insert (data : KeyedData) (key : String) (value : Bytes) : KeyedData :=
  ⟨insertEntry key value data.entries, sorted_insertEntry key value data.sorted⟩

/-- The values of a list under their keys, the last one where a key occurs more
than once. -/
def ofList (entries : List (String × Bytes)) : KeyedData :=
  entries.foldl (fun data (key, value) => data.insert key value) empty

def find? (data : KeyedData) (key : String) : Option Bytes :=
  (data.entries.find? fun entry => entry.1 = key).map Prod.snd

instance : JsonForm KeyedData where
  toJson data := .object (data.entries.map fun (key, value) => (key, toJson value))
  fromJson
    | .object members => do
        let entries ← members.mapM fun (key, value) => return (key, ← fromJson value)
        return ofList entries
    | _ => none

end KeyedData

end ConfidentialToken
