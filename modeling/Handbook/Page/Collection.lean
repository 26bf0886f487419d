import Handbook.Fault
import Handbook.Files.Basic
import Handbook.Page.Document

namespace Handbook

/-- Documents under their paths; no path occurs twice. -/
structure Collection where
  entries : List (String × Document) := []
deriving DecidableEq, Inhabited

namespace Collection

def find? (collection : Collection) (path : String) : Option Document :=
  collection.entries.lookup path

def insert (collection : Collection) (path : String) (document : Document) : Collection :=
  ⟨collection.entries.filter (fun entry => entry.1 != path) ++ [(path, document)]⟩

def size (collection : Collection) : Nat := collection.entries.length

end Collection

namespace DirectoryEntry

def isPageName (name : ByteArray) : Bool := extension? name == some "md".toUTF8.data.toList

/-- The path of the page under a name: the name after a slash. A name that is not that of a page file
or no Unicode text stands for no page. -/
def pagePath? (name : ByteArray) : Option String :=
  if isPageName name then (String.fromUTF8? name).map ("/" ++ ·) else none

end DirectoryEntry

namespace Collection

/-- Adds the page that the name of a directory entry stands for; its text must be readable. Entries
that stand for no page add nothing. -/
def addEntry? (collection : Collection) (entry : DirectoryEntry) : Option Collection :=
  match DirectoryEntry.pagePath? entry.name with
  | none => some collection
  | some path => do return collection.insert path (Document.ofMarkup (← entry.text?))

/-- The pages of a directory; `none` when one of its page files is no readable text. -/
def ofEntries? (entries : List DirectoryEntry) : Option Collection :=
  entries.foldlM addEntry? {}

def load (files : Files) (path : String) : Except Fault Collection :=
  match (files.list? path).bind ofEntries? with
  | some collection => .ok collection
  | none => .error .unreadablePages

end Collection

end Handbook
