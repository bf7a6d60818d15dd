/-!
# Attributes

The named texts that a node or an edge carries. Names are kept in the order of
their first insertion; inserting a name again replaces its text and leaves it
in its place.
-/

namespace GraphLayout

/-!
# Entries

An insertion walks the list to the entry of its name, or to the end.
-/

def insertEntry (key value : String) :
    List (String × String) -> List (String × String)
  | [] => [(key, value)]
  | (k, v) :: rest =>
      if k = key then (k, value) :: rest
      else (k, v) :: insertEntry key value rest

theorem keys_insertEntry (key value : String) (entries : List (String × String)) :
    (insertEntry key value entries).map Prod.fst =
      if key ∈ entries.map Prod.fst then entries.map Prod.fst
      else entries.map Prod.fst ++ [key] := by
  induction entries with
  | nil =>
      simp [insertEntry]
  | cons entry rest ih =>
      obtain ⟨k, v⟩ := entry
      by_cases hk : k = key
      · simp [insertEntry, hk]
      · have hk' : ¬key = k := fun h => hk h.symm
        by_cases hmem : key ∈ rest.map Prod.fst
        · rw [if_pos hmem] at ih
          rw [if_pos (by simp [hmem])]
          simp [insertEntry, hk, ih]
        · rw [if_neg hmem] at ih
          rw [if_neg (by simpa [hk'] using hmem)]
          simp [insertEntry, hk, ih]

theorem nodup_keys_insertEntry (key value : String) {entries : List (String × String)}
    (distinct : (entries.map Prod.fst).Nodup) :
    ((insertEntry key value entries).map Prod.fst).Nodup := by
  rw [keys_insertEntry]
  split
  · exact distinct
  · next hmem =>
      rw [List.nodup_append]
      refine ⟨distinct, by simp, ?_⟩
      intro a ha b hb hab
      rw [List.mem_singleton] at hb
      exact hmem (hb ▸ hab ▸ ha)

theorem lookup_insertEntry (key value k : String) (entries : List (String × String)) :
    (insertEntry key value entries).lookup k =
      if k = key then some value else entries.lookup k := by
  induction entries with
  | nil =>
      by_cases hk : k = key
      · simp [insertEntry, hk]
      · simp [insertEntry, hk, List.lookup_cons, beq_false_of_ne hk]
  | cons entry rest ih =>
      obtain ⟨k', v⟩ := entry
      by_cases hk' : k' = key
      · subst hk'
        by_cases hk : k = k'
        · simp [insertEntry, hk]
        · simp [insertEntry, List.lookup_cons, hk, beq_false_of_ne hk]
      · by_cases hk : k = k'
        · subst hk
          simp [insertEntry, hk']
        · simp [insertEntry, hk', List.lookup_cons, beq_false_of_ne hk, ih]

/-!
# Ordered attributes
-/

structure Attributes where
  entries : List (String × String)
  distinct : (entries.map Prod.fst).Nodup
  deriving DecidableEq

namespace Attributes

def empty : Attributes where
  entries := []
  distinct := List.nodup_nil

instance : Inhabited Attributes where
  default := empty

def get? (attributes : Attributes) (key : String) : Option String :=
  attributes.entries.lookup key

def insert (attributes : Attributes) (key value : String) : Attributes where
  entries := insertEntry key value attributes.entries
  distinct := nodup_keys_insertEntry key value attributes.distinct

def ofList (pairs : List (String × String)) : Attributes :=
  pairs.foldl (fun attributes pair => attributes.insert pair.1 pair.2) empty

def toList (attributes : Attributes) : List (String × String) :=
  attributes.entries

theorem get?_insert (attributes : Attributes) (key value k : String) :
    (attributes.insert key value).get? k =
      if k = key then some value else attributes.get? k :=
  lookup_insertEntry key value k attributes.entries

@[ext]
theorem ext {a b : Attributes} (entries : a.entries = b.entries) : a = b := by
  cases a
  cases b
  congr

end Attributes
end GraphLayout
