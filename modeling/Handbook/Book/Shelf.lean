import Handbook.Page.Basic

namespace Handbook

/-- Pages that were visited and are not open, each under a path. -/
structure Shelf where
  entries : List (String × Page) := []
  distinct : (entries.map Prod.fst).Nodup := by exact List.nodup_nil

namespace Shelf

instance : Inhabited Shelf := ⟨{}⟩

def paths (shelf : Shelf) : List String := shelf.entries.map Prod.fst

def find? (shelf : Shelf) (path : String) : Option Page := shelf.entries.lookup path

def without (shelf : Shelf) (path : String) : Shelf where
  entries := shelf.entries.filter fun entry => entry.1 != path
  distinct := List.Nodup.sublist (List.Sublist.map Prod.fst List.filter_sublist) shelf.distinct

@[simp]
theorem mem_without {shelf : Shelf} {path : String} {entry : String × Page} :
    entry ∈ (shelf.without path).entries ↔ entry ∈ shelf.entries ∧ entry.1 ≠ path := by
  simp [without]

def put (shelf : Shelf) (path : String) (page : Page) : Shelf where
  entries := (path, page) :: (shelf.without path).entries
  distinct := by
    refine List.nodup_cons.mpr ⟨?_, (shelf.without path).distinct⟩
    intro found
    obtain ⟨entry, member, same⟩ := List.mem_map.mp found
    exact (mem_without.mp member).2 same

@[simp]
theorem mem_put {shelf : Shelf} {path : String} {page : Page} {entry : String × Page} :
    entry ∈ (shelf.put path page).entries ↔
      entry = (path, page) ∨ entry ∈ shelf.entries ∧ entry.1 ≠ path := by
  simp [put]

def size (shelf : Shelf) : Nat := shelf.entries.length

theorem nodup_paths (shelf : Shelf) : shelf.paths.Nodup := shelf.distinct

theorem length_paths (shelf : Shelf) : shelf.paths.length = shelf.size :=
  List.length_map Prod.fst

theorem find?_isSome_iff {shelf : Shelf} {path : String} :
    (shelf.find? path).isSome ↔ path ∈ shelf.paths := by
  simp only [find?, List.lookup_isSome_iff, beq_iff_eq, paths, List.mem_map]
  constructor
  · rintro ⟨entry, member, same⟩
    exact ⟨entry, member, same.symm⟩
  · rintro ⟨entry, member, same⟩
    exact ⟨entry, member, same.symm⟩

theorem mem_of_find? {shelf : Shelf} {path : String} {page : Page}
    (found : shelf.find? path = some page) : (path, page) ∈ shelf.entries := by
  obtain ⟨before, after, entries, -⟩ := List.lookup_eq_some_iff.mp found
  rw [entries]
  exact List.mem_append_right _ (List.mem_cons_self ..)

theorem find?_without (shelf : Shelf) (path other : String) :
    (shelf.without path).find? other = if other = path then none else shelf.find? other := by
  obtain ⟨entries, distinct⟩ := shelf
  simp only [find?, without]
  clear distinct
  induction entries with
  | nil => simp
  | cons entry later ih =>
    obtain ⟨key, page⟩ := entry
    by_cases gone : key = path
    · rw [List.filter_cons_of_neg (by simp [gone]), ih, List.lookup_cons]
      by_cases same : other = path
      · rw [if_pos same, if_pos same]
      · have different : (other == key) = false := by simpa [gone] using same
        rw [if_neg same, if_neg same, different]
    · rw [List.filter_cons_of_pos (by simpa using gone), List.lookup_cons, List.lookup_cons, ih]
      by_cases found : other = key
      · simp [found, gone]
      · have different : (other == key) = false := by simpa using found
        rw [different]

theorem find?_put (shelf : Shelf) (path other : String) (page : Page) :
    (shelf.put path page).find? other = if other = path then some page else shelf.find? other := by
  have rest := find?_without shelf path other
  simp only [find?, put, List.lookup_cons] at rest ⊢
  by_cases same : other = path
  · simp [same]
  · have different : (other == path) = false := by simpa using same
    rw [different, rest, if_neg same, if_neg same]

theorem mem_paths_put {shelf : Shelf} {path other : String} {page : Page} :
    other ∈ (shelf.put path page).paths ↔ other = path ∨ other ∈ shelf.paths := by
  rw [← find?_isSome_iff, ← find?_isSome_iff, find?_put]
  by_cases same : other = path <;> simp [same]

theorem mem_paths_without {shelf : Shelf} {path other : String} :
    other ∈ (shelf.without path).paths ↔ other ≠ path ∧ other ∈ shelf.paths := by
  rw [← find?_isSome_iff, ← find?_isSome_iff, find?_without]
  by_cases same : other = path <;> simp [same]

end Shelf

end Handbook
