import Handbook.Files.Tree
import Handbook.Page.Collection

/-!
Loading a directory. What is loaded are the pages of its page files, in whatever order it is listed
and whatever else it holds, with one exception: a directory whose name is that of a page file is read
like one, and the loading fails.
-/

namespace Handbook

namespace DirectoryEntry

def isPageFile (entry : DirectoryEntry) : Bool := isPageName entry.name && entry.item.isFile

/-- The name and the contents of the entry are Unicode text. -/
def Legible (entry : DirectoryEntry) : Prop :=
  (String.fromUTF8? entry.name).isSome ∧ entry.text?.isSome

instance (entry : DirectoryEntry) : Decidable entry.Legible :=
  inferInstanceAs (Decidable (_ ∧ _))

/-- The entry is a directory whose name stands for a page. -/
def posesAsPage (entry : DirectoryEntry) : Bool :=
  !entry.item.isFile && (pagePath? entry.name).isSome

def page? (entry : DirectoryEntry) : Option (String × Document) := do
  let path ← pagePath? entry.name
  let text ← entry.text?
  return (path, Document.ofMarkup text)

variable {entry : DirectoryEntry} {entries : List DirectoryEntry} {name other : ByteArray}
  {path : String} {document : Document}

theorem pagePath?_eq_some_iff : pagePath? name = some path ↔
    isPageName name = true ∧ ∃ text, String.fromUTF8? name = some text ∧ path = "/" ++ text := by
  unfold pagePath?
  split
  · next isName =>
    rw [Option.map_eq_some_iff, and_iff_right isName]
    exact exists_congr fun text => and_congr_right fun _ => eq_comm
  · next isNoName => simp [isNoName]

private theorem eq_of_fromUTF8? {text : String} (read : String.fromUTF8? name = some text)
    (alsoRead : String.fromUTF8? other = some text) : name = other := by
  have bytes : ∀ {raw : ByteArray}, String.fromUTF8? raw = some text → text.toUTF8 = raw := by
    intro raw isText
    unfold String.fromUTF8? at isText
    split at isText
    · cases isText
      rfl
    · cases isText
  rw [← bytes read, bytes alsoRead]

private theorem eq_of_pagePath? (isPath : pagePath? name = some path)
    (alsoPath : pagePath? other = some path) : name = other := by
  obtain ⟨-, text, read, rfl⟩ := pagePath?_eq_some_iff.mp isPath
  obtain ⟨-, otherText, alsoRead, same⟩ := pagePath?_eq_some_iff.mp alsoPath
  rw [← (String.append_right_inj "/").mp same] at alsoRead
  exact eq_of_fromUTF8? read alsoRead

private theorem isFile_of_text? {text : String} (isText : entry.text? = some text) :
    entry.item.isFile = true := by
  unfold text? at isText
  cases isItem : entry.item with
  | file => rfl
  | directory =>
    rw [isItem] at isText
    cases isText

theorem page?_eq_some_iff : entry.page? = some (path, document) ↔
    entry.isPageFile = true ∧ ∃ name text, String.fromUTF8? entry.name = some name ∧
      entry.text? = some text ∧ path = "/" ++ name ∧ document = Document.ofMarkup text := by
  constructor
  · intro isPage
    obtain ⟨found, isPath, isPage⟩ := Option.bind_eq_some_iff.mp isPage
    obtain ⟨text, isText, isPage⟩ := Option.bind_eq_some_iff.mp isPage
    cases isPage
    obtain ⟨isName, name, read, rfl⟩ := pagePath?_eq_some_iff.mp isPath
    refine ⟨?_, name, text, read, isText, rfl, rfl⟩
    rw [isPageFile, isName, isFile_of_text? isText]
    rfl
  · rintro ⟨isFile, name, text, read, isText, rfl, rfl⟩
    have isName := (Bool.and_eq_true _ _ ▸ isFile).1
    have isPath := pagePath?_eq_some_iff.mpr ⟨isName, name, read, rfl⟩
    rw [page?, isPath, isText]
    rfl

private theorem pagePath?_of_page? (isPage : entry.page? = some (path, document)) :
    pagePath? entry.name = some path := by
  obtain ⟨isFile, name, _, read, -, rfl, -⟩ := page?_eq_some_iff.mp isPage
  exact pagePath?_eq_some_iff.mpr ⟨(Bool.and_eq_true _ _ ▸ isFile).1, name, read, rfl⟩

/-- Entries of different names have pages under different paths. -/
theorem nodup_paths (distinct : (entries.map DirectoryEntry.name).Nodup) :
    ((entries.filterMap page?).map Prod.fst).Nodup := by
  rw [List.Nodup, List.pairwise_map, List.pairwise_filterMap]
  refine (List.pairwise_map.mp distinct).imp fun different => ?_
  rintro ⟨path, document⟩ isPage ⟨_, otherDocument⟩ alsoPage rfl
  exact different (eq_of_pagePath? (pagePath?_of_page? isPage) (pagePath?_of_page? alsoPage))

end DirectoryEntry

theorem FileTree.list?_of_placeOf? {tree : FileTree} {path : String} {place : FilePlace}
    (isPlace : tree.placeOf? path = some place) (isDirectory : tree.isDirectory place = true) :
    tree.files.list? path = some (tree.nodes.filterMap (entryOf? place)) := by
  change tree.list? path = _
  unfold list?
  rw [isPlace, Option.bind_eq_bind, Option.bind_some, if_pos isDirectory]
  rfl

namespace Collection

open DirectoryEntry

variable {entry : DirectoryEntry} {entries : List DirectoryEntry} {collection start : Collection}
  {path : String} {document : Document}

private theorem insert_of_not_mem (absent : path ∉ collection.entries.map Prod.fst) :
    collection.insert path document = ⟨collection.entries ++ [(path, document)]⟩ := by
  have kept : collection.entries.filter (fun entry => entry.1 != path) = collection.entries := by
    apply List.filter_eq_self.mpr
    intro entry member
    rw [bne_iff_ne]
    rintro rfl
    exact absent (List.mem_map_of_mem member)
  rw [insert, kept]

private theorem addEntry?_of_no_path (noPath : pagePath? entry.name = none) :
    addEntry? start entry = some start := by
  unfold addEntry?
  rw [noPath]

private theorem addEntry?_of_path (isPath : pagePath? entry.name = some path) :
    addEntry? start entry =
      entry.text?.map fun text => start.insert path (Document.ofMarkup text) := by
  unfold addEntry?
  rw [isPath]
  cases entry.text? <;> rfl

/-- Entries whose pages can be read and have new paths add their pages, one behind the other. -/
theorem foldlM_addEntry?
    (readable : ∀ entry ∈ entries, (pagePath? entry.name).isSome → entry.text?.isSome)
    (fresh : ((start.entries ++ entries.filterMap page?).map Prod.fst).Nodup) :
    entries.foldlM addEntry? start = some ⟨start.entries ++ entries.filterMap page?⟩ := by
  induction entries generalizing start with
  | nil => simp
  | cons entry rest ih =>
    have readableRest := fun later member => readable later (List.mem_cons_of_mem entry member)
    cases isPath : pagePath? entry.name with
    | none =>
      have noPage : entry.page? = none := by rw [page?, isPath]; rfl
      rw [List.filterMap_cons_none noPage] at fresh ⊢
      rw [List.foldlM_cons, addEntry?_of_no_path isPath]
      exact ih readableRest fresh
    | some path =>
      obtain ⟨text, isText⟩ := Option.isSome_iff_exists.mp
        (readable entry (List.mem_cons_self ..) (by rw [isPath]; rfl))
      have isPage : entry.page? = some (path, Document.ofMarkup text) := by
        rw [page?, isPath, isText]; rfl
      rw [List.filterMap_cons_some isPage] at fresh ⊢
      have absent : path ∉ start.entries.map Prod.fst := by
        intro member
        rw [List.map_append, List.nodup_append] at fresh
        exact fresh.2.2 path member path (List.mem_cons_self ..) rfl
      have added : addEntry? start entry =
          some ⟨start.entries ++ [(path, Document.ofMarkup text)]⟩ := by
        rw [addEntry?_of_path isPath, isText, ← insert_of_not_mem absent]
        rfl
      rw [List.append_cons] at fresh ⊢
      rw [List.foldlM_cons, added]
      exact ih readableRest fresh

/-- An entry that stands for a page and cannot be read stops the adding. -/
theorem foldlM_addEntry?_eq_none (member : entry ∈ entries)
    (isPath : pagePath? entry.name = some path) (unreadable : entry.text? = none)
    (start : Collection) : entries.foldlM addEntry? start = none := by
  induction entries generalizing start with
  | nil => cases member
  | cons head rest ih =>
    rw [List.foldlM_cons]
    rcases List.mem_cons.mp member with rfl | inRest
    · have stopped : addEntry? start entry = none := by
        rw [addEntry?_of_path isPath, unreadable]
        rfl
      rw [stopped]
      rfl
    · cases addEntry? start head with
      | none => rfl
      | some next => exact ih inRest next

/-- A path of a listing with distinct paths has the document that stands beside it. -/
theorem find?_eq_some_iff (distinct : (collection.entries.map Prod.fst).Nodup) :
    collection.find? path = some document ↔ (path, document) ∈ collection.entries := by
  rw [find?, List.lookup_eq_some_iff]
  constructor
  · rintro ⟨before, after, split, -⟩
    rw [split]
    exact List.mem_append_right _ (List.mem_cons_self ..)
  · intro member
    obtain ⟨before, after, split⟩ := List.append_of_mem member
    refine ⟨before, after, split, fun entry inBefore => ?_⟩
    rw [split, List.map_append, List.nodup_append] at distinct
    rw [bne_iff_ne]
    exact Ne.symm (distinct.2.2 _ (List.mem_map_of_mem inBefore) _ (List.mem_cons_self ..))

/-- The documents of the collection are those of the page files, each under its name after a slash. -/
structure Holds (pages : Collection) (entries : List DirectoryEntry) : Prop where
  find : ∀ path document, pages.find? path = some document ↔
    ∃ entry ∈ entries, entry.isPageFile = true ∧
      ∃ name text, String.fromUTF8? entry.name = some name ∧ entry.text? = some text ∧
        path = "/" ++ name ∧ document = Document.ofMarkup text
  size : pages.size = entries.countP isPageFile

def Same (first second : Collection) : Prop :=
  (∀ path, first.find? path = second.find? path) ∧ first.size = second.size

private theorem holds_filterMap_page? (distinct : (entries.map DirectoryEntry.name).Nodup)
    (legible : ∀ entry ∈ entries, entry.isPageFile = true → entry.Legible) :
    Holds ⟨entries.filterMap page?⟩ entries where
  find path document := by
    rw [find?_eq_some_iff (nodup_paths distinct), List.mem_filterMap]
    exact exists_congr fun entry => and_congr_right fun _ => page?_eq_some_iff
  size := by
    rw [size, List.length_filterMap_eq_countP]
    refine List.countP_congr fun entry member => ?_
    rw [Option.isSome_iff_exists]
    constructor
    · rintro ⟨⟨path, document⟩, isPage⟩
      exact (page?_eq_some_iff.mp isPage).1
    · intro isFile
      obtain ⟨named, worded⟩ := legible entry member isFile
      obtain ⟨name, isName⟩ := Option.isSome_iff_exists.mp named
      obtain ⟨text, isText⟩ := Option.isSome_iff_exists.mp worded
      exact ⟨_, page?_eq_some_iff.mpr ⟨isFile, name, text, isName, isText, rfl, rfl⟩⟩

theorem Holds.same {pages others : Collection} {otherEntries : List DirectoryEntry}
    (holds : pages.Holds entries) (otherHolds : others.Holds otherEntries)
    (distinct : (entries.map DirectoryEntry.name).Nodup)
    (otherDistinct : (otherEntries.map DirectoryEntry.name).Nodup)
    (shared : ∀ entry, entry.isPageFile = true → (entry ∈ otherEntries ↔ entry ∈ entries)) :
    pages.Same others := by
  constructor
  · intro path
    apply Option.ext
    intro document
    rw [holds.find, otherHolds.find]
    refine exists_congr fun entry => ?_
    rw [← and_assoc, ← and_assoc]
    refine and_congr_left fun _ => ?_
    rw [and_comm, and_comm (a := entry ∈ otherEntries)]
    exact and_congr_right fun isFile => (shared entry isFile).symm
  · have once : ∀ {list : List DirectoryEntry}, (list.map DirectoryEntry.name).Nodup →
        (list.filter isPageFile).Nodup := fun nodup =>
      ((List.pairwise_map.mp nodup).imp fun different same => different (congrArg _ same)).filter _
    have perm : List.Perm (entries.filter isPageFile) (otherEntries.filter isPageFile) := by
      refine (List.perm_ext_iff_of_nodup (once distinct) (once otherDistinct)).mpr fun entry => ?_
      rw [List.mem_filter, List.mem_filter]
      exact and_congr_left fun isFile => (shared entry isFile).symm
    rw [holds.size, otherHolds.size, List.countP_eq_length_filter, List.countP_eq_length_filter,
      perm.length_eq]

variable {files : Files} {place : String}

theorem load_of_listing (listed : files.list? place = some entries)
    (distinct : (entries.map DirectoryEntry.name).Nodup)
    (legible : ∀ entry ∈ entries, entry.isPageFile = true → entry.Legible)
    (genuine : ∀ entry ∈ entries, entry.posesAsPage = false) :
    load files place = .ok ⟨entries.filterMap page?⟩ := by
  have readable : ∀ entry ∈ entries, (pagePath? entry.name).isSome → entry.text?.isSome := by
    intro entry member isPath
    have isFile : entry.item.isFile = true := by
      simpa [posesAsPage, isPath] using genuine entry member
    obtain ⟨path, isPath⟩ := Option.isSome_iff_exists.mp isPath
    have isName := (pagePath?_eq_some_iff.mp isPath).1
    exact (legible entry member (by rw [isPageFile, isName, isFile]; rfl)).2
  have loaded : ofEntries? entries = some ⟨entries.filterMap page?⟩ :=
    foldlM_addEntry? readable (nodup_paths distinct)
  rw [load, listed, Option.bind_some, loaded]

private theorem load_of_posing (listed : files.list? place = some entries)
    (member : entry ∈ entries)
    (poses : entry.posesAsPage = true) : load files place = .error .unreadablePages := by
  rw [posesAsPage, Bool.and_eq_true, Bool.not_eq_true'] at poses
  obtain ⟨path, isPath⟩ := Option.isSome_iff_exists.mp poses.2
  have unreadable : entry.text? = none := by
    rw [Option.eq_none_iff_forall_ne_some]
    intro text isText
    rw [isFile_of_text? isText] at poses
    cases poses.1
  have stopped : ofEntries? entries = none := foldlM_addEntry?_eq_none member isPath unreadable _
  rw [load, listed, Option.bind_some, stopped]

/-- A directory lists no name twice. If its page files are all legible, it is loaded unless the name
of a directory in it stands for a page. The pages are those of the page files, and any other
directory with the same page files, listed in any order and among any other entries, gives the same
pages. A directory whose name stands for a page stops the loading. -/
theorem loads_page_files (files : Files) (place : String) (entries : List DirectoryEntry)
    (listed : files.list? place = some entries)
    (distinct : (entries.map DirectoryEntry.name).Nodup)
    (legible : ∀ entry ∈ entries, entry.isPageFile = true → entry.Legible) :
    ((∀ entry ∈ entries, entry.posesAsPage = false) →
      ∃ pages, load files place = .ok pages ∧ pages.Holds entries ∧
        ∀ (others : Files) (otherPlace : String) (otherEntries : List DirectoryEntry),
          others.list? otherPlace = some otherEntries →
          (otherEntries.map DirectoryEntry.name).Nodup →
          (∀ entry ∈ otherEntries, entry.posesAsPage = false) →
          (∀ entry, entry.isPageFile = true → (entry ∈ otherEntries ↔ entry ∈ entries)) →
          ∃ otherPages, load others otherPlace = .ok otherPages ∧ pages.Same otherPages) ∧
    ((∃ entry ∈ entries, entry.posesAsPage = true) →
      load files place = .error .unreadablePages) := by
  refine ⟨fun genuine => ?_, fun ⟨entry, member, poses⟩ => load_of_posing listed member poses⟩
  have holds := holds_filterMap_page? distinct legible
  refine ⟨_, load_of_listing listed distinct legible genuine, holds, ?_⟩
  intro others otherPlace otherEntries otherListed otherDistinct otherGenuine shared
  have otherLegible : ∀ entry ∈ otherEntries, entry.isPageFile = true → entry.Legible :=
    fun entry member isFile => legible entry ((shared entry isFile).mp member) isFile
  exact ⟨_, load_of_listing otherListed otherDistinct otherLegible otherGenuine,
    holds.same (holds_filterMap_page? otherDistinct otherLegible) distinct otherDistinct shared⟩

def firstPage : DirectoryEntry := ⟨"a.md".toUTF8, .file (some "# A".toUTF8)⟩

/-- The page file between a directory, a file that cannot be read, a directory whose name has nothing
before its point, and a directory whose name is no Unicode text. -/
def amongOthers : List DirectoryEntry :=
  [⟨"sub".toUTF8, .directory⟩, ⟨"notes.txt".toUTF8, .file none⟩, firstPage,
    ⟨".md".toUTF8, .directory⟩, ⟨⟨#[255, 46, 109, 100]⟩, .directory⟩]

/-- The page file among other entries is loaded as if it stood alone. -/
theorem loads_page_files_amongOthers :
    (amongOthers.map DirectoryEntry.name).Nodup ∧
      (∀ entry ∈ amongOthers, entry.isPageFile = true → entry.Legible) ∧
      (∀ entry ∈ amongOthers, entry.posesAsPage = false) ∧
      ∃ pages, load ⟨fun _ => none, fun _ => some amongOthers⟩ "p" = .ok pages ∧
        pages.Holds amongOthers ∧
        ∃ alone, load ⟨fun _ => none, fun _ => some [firstPage]⟩ "p" = .ok alone ∧
          pages.Same alone := by
  have distinct : (amongOthers.map DirectoryEntry.name).Nodup := by decide
  have legible : ∀ entry ∈ amongOthers, entry.isPageFile = true → entry.Legible := by decide
  have genuine : ∀ entry ∈ amongOthers, entry.posesAsPage = false := by decide
  have only : ∀ entry, entry.isPageFile = true →
      (entry ∈ [firstPage] ↔ entry ∈ amongOthers) := by
    intro entry isFile
    have kept : amongOthers.filter isPageFile = [firstPage] := by rfl
    rw [← kept, List.mem_filter]
    exact and_iff_left isFile
  obtain ⟨pages, loaded, holds, same⟩ :=
    (loads_page_files ⟨fun _ => none, fun _ => some amongOthers⟩ "p" amongOthers rfl distinct
      legible).1 genuine
  exact ⟨distinct, legible, genuine, pages, loaded, holds,
    same _ "p" _ rfl (by decide) (by decide) only⟩

def besidePosing : List DirectoryEntry := [firstPage, ⟨"x.md".toUTF8, .directory⟩]

def plainTree : FileTree := FileTree.insert {} "p/a.md" (.file "# A".toUTF8)

def posingTree : FileTree := plainTree.insert "p/x.md" .directory

/-- A directory stops the loading of the page file beside it, which is loaded when it stands
alone. -/
theorem load_stopped_by_directory :
    posingTree.files.list? "p" = some besidePosing ∧
      (besidePosing.map DirectoryEntry.name).Nodup ∧
      (∀ entry ∈ besidePosing, entry.isPageFile = true → entry.Legible) ∧
      load posingTree.files "p" = .error .unreadablePages ∧
      load plainTree.files "p" = .ok ⟨[("/a.md", Document.ofMarkup "# A")]⟩ := by
  have place : posingTree.placeOf? "p" = some ["p"] := by decide +kernel
  have listed : posingTree.files.list? "p" = some besidePosing :=
    FileTree.list?_of_placeOf? place (by decide)
  have plainPlace : plainTree.placeOf? "p" = some ["p"] := by decide +kernel
  have alone : plainTree.files.list? "p" = some [firstPage] :=
    FileTree.list?_of_placeOf? plainPlace (by decide)
  have stopped := load_of_posing listed (List.mem_cons_of_mem _ (List.mem_cons_self ..)) (by decide)
  exact ⟨listed, by decide, by decide, stopped,
    load_of_listing alone (by decide) (by decide) (by decide)⟩

end Collection

end Handbook
