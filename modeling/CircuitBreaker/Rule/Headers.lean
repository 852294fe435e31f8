/-!
# `CircuitBreaker.Rule.Headers` — headers of an answer

A finite map from names to texts, kept in the order of the names, so that maps with the same
entries are equal.

## Contents
- `Headers`: the maps, with their names in order.
- `Headers.insert`, `Headers.ofList`: adding an entry, and a map of some entries.
-/

namespace CircuitBreaker

/-- Whether the names of the entries go up. -/
def Headers.Ascending (entries : List (String × String)) : Prop :=
  entries.Pairwise fun a b => a.1 < b.1

theorem Headers.ascending_nil : Headers.Ascending [] := List.Pairwise.nil

/-- A finite map from names to texts. -/
structure Headers where
  /-- The entries, by ascending name. -/
  entries : List (String × String) := []
  ascending : Headers.Ascending entries := by exact Headers.ascending_nil

namespace Headers

instance : DecidableEq Headers := fun a b =>
  decidable_of_iff (a.entries = b.entries)
    ⟨fun h => by cases a; cases b; cases h; rfl, fun h => h ▸ rfl⟩

instance : Repr Headers := ⟨fun h n => reprPrec h.entries n⟩

instance : Inhabited Headers := ⟨{}⟩

/-- Put an entry in its place; an entry of the same name gives way. -/
def insertEntry (name value : String) : List (String × String) → List (String × String)
  | [] => [(name, value)]
  | (n, v) :: rest =>
      if name < n then (name, value) :: (n, v) :: rest
      else if n < name then (n, v) :: insertEntry name value rest
      else (name, value) :: rest

theorem mem_insertEntry {name value : String} {entries : List (String × String)}
    {e : String × String} (h : e ∈ insertEntry name value entries) :
    e = (name, value) ∨ e ∈ entries := by
  induction entries with
  | nil => simpa [insertEntry] using h
  | cons x rest ih =>
      unfold insertEntry at h
      split at h
      · simpa using h
      · split at h
        · rcases List.mem_cons.mp h with h | h
          · exact .inr (h ▸ List.mem_cons_self)
          · exact (ih h).imp_right (List.mem_cons_of_mem _)
        · rcases List.mem_cons.mp h with h | h
          · exact .inl h
          · exact .inr (List.mem_cons_of_mem _ h)

theorem ascending_insertEntry (name value : String) {entries : List (String × String)}
    (h : Ascending entries) : Ascending (insertEntry name value entries) := by
  induction entries with
  | nil => exact List.pairwise_singleton _ _
  | cons x rest ih =>
      obtain ⟨hx, hrest⟩ := List.pairwise_cons.mp h
      unfold insertEntry
      split
      · rename_i hlt
        refine List.pairwise_cons.mpr ⟨?_, h⟩
        intro e he
        rcases List.mem_cons.mp he with he | he
        · exact he ▸ hlt
        · exact String.lt_trans hlt (hx e he)
      · split
        · rename_i hlt
          refine List.pairwise_cons.mpr ⟨?_, ih hrest⟩
          intro e he
          rcases mem_insertEntry he with he | he
          · exact he ▸ hlt
          · exact hx e he
        · rename_i hge hle
          have heq : x.1 = name := by
            exact String.le_antisymm (String.not_lt.mp hge) (String.not_lt.mp hle)
          exact List.pairwise_cons.mpr ⟨fun e he => heq ▸ hx e he, hrest⟩

/-- The map with an entry more; an entry of the same name gives way. -/
def insert (h : Headers) (name value : String) : Headers :=
  ⟨insertEntry name value h.entries, ascending_insertEntry name value h.ascending⟩

/-- The map with the given entries; of two with one name the later counts. -/
def ofList (entries : List (String × String)) : Headers :=
  entries.foldl (fun h e => h.insert e.1 e.2) {}

end Headers

end CircuitBreaker
