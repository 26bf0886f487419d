import Handbook.Book.Render
import Handbook.Page.Collection
import Handbook.Settings.Json
import Handbook.Snapshot.Failure

namespace Handbook

/-- The book with a bookmark for every path that can have one, in order. -/
def Book.addBookmarks? (book : Book) (paths : List String) : Option Book :=
  paths.foldlM (fun book path => (book.addBookmark? path).map Prod.fst) book

namespace Snapshot

/-- What a snapshot needs of its machine: files, and the widths of texts in a shaped font. -/
structure Host where
  files : Files
  measure : String → Px

/-- Where the cursor is off the screen, in both directions. -/
def offScreen : Px := Px.saturate (-1)

def shapedLineHeight : Binary32 := 12

namespace Options

def loadSettings (options : Options) (files : Files) : Except Fault Settings :=
  match options.settings with
  | none => .ok {}
  | some path => Settings.load files path

def font (options : Options) (host : Host) : Font :=
  if options.shaped then Font.shaped host.measure shapedLineHeight else Font.standard

/-- Bookmarks and opens the pages that options ask for. -/
def prepare? (options : Options) (book : Book) : Option Book := do
  let marked ← book.addBookmarks? options.bookmarks
  match options.page with
  | some path => marked.setPage? path
  | none => some marked

end Options

/-- The draw list that options ask for. Settings are loaded before pages, and bookmarks are added
before the page is opened. -/
def take (host : Host) (options : Options) : Except Failure DrawList := do
  let settings ← (options.loadSettings host.files).mapError Failure.loading
  let pages ← (Collection.load host.files options.directory).mapError Failure.loading
  let book ←
    (Book.openAt settings pages.find? (options.font host) options.width options.height).mapError
      Failure.ofOpening
  match (options.prepare? book).bind fun ready => ready.render? offScreen offScreen with
  | some (list, _) => .ok list
  | none => .error .overflow

def run (host : Host) (arguments : List String) : Except Failure DrawList := do
  take host (← (Options.ofArguments arguments).mapError Failure.misuse)

end Snapshot

end Handbook
