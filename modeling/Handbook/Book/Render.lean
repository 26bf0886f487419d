import Handbook.Book.Basic
import Handbook.Draw.Scene
import Handbook.Panel.Chrome
import Handbook.Panel.Lines

namespace Handbook.Book

def titleColor : UInt32 := 0xFFFFFF

def pageColor : UInt32 := 0xFFFFFF

def linkColor : UInt32 := 0xFFFFFF

def wireframeColor : UInt32 := 0xFF0000

/-- How many rows the title lies below the first row of the frame. -/
def titleDrop : Px := 4

/-- The text of a line at its place on the screen, or nothing when no pixel row of it shows. -/
def lineLabel? (visible : Rect) (scroll : Px) (line : FlowLine) : Option (Option Label) := do
  let unscrolled ← Px.fit? (visible.top.val + line.y.val)
  let y ← Px.fit? (unscrolled.val - scroll.val)
  let bounds := Rect.ofSize visible.left y (max line.width 1) line.height
  if ← bounds.intersects? visible then
    return some ⟨line.text, visible.left, y, Layer.text.depth, pageColor, false, line.scale⟩
  else return none

/-- The lines of the open page that show. -/
def pageLabels? (book : Book) : Option (List Label) := do
  let labels ← book.active.flow.lines.mapM
    (lineLabel? book.viewport.visible book.active.scroll)
  return labels.filterMap id

def tile? (book : Book) (rect : Rect) (state : ButtonState) : Option (List Patch) :=
  Artwork.button? rect Layer.buttons.depth state (0, 0) book.settings.tileBorder

def thumb? (book : Book) (hovered : Option Widget) : Option (List Patch) := do
  let rect ← Slider.thumb? book.viewport.rail book.settings.sliderHeight book.active.progress
  book.tile? rect (ButtonState.ofFlags book.sliderEnabled (hovered = some .slider))

/-- The place of the icon on the home button: centred across it and over the height of a tab. -/
def homeIconRect? (book : Book) : Option Rect := do
  let rect := book.viewport.homeButton
  let icon := Artwork.homeIcon
  let across ← Px.fit? (rect.width.val - icon.width.val)
  let down ← Px.fit? (book.settings.tabHeight.val - icon.height.val)
  let left ← Px.fit? (rect.left.val + (across.quotient 2).val)
  let top ← Px.fit? (rect.top.val + (down.quotient 2).val)
  return Rect.ofSize left top icon.width icon.height

def home? (book : Book) (hovered : Option Widget) : Option (List Patch) :=
  if book.homeVisible then do
    let button ←
      book.tile? book.viewport.homeButton (ButtonState.ofFlags true (hovered = some .home))
    let icon ← Artwork.icon? (← book.homeIconRect?) Artwork.homeIcon Layer.buttons.depth
    return button ++ icon
  else some []

/-- The add button, where it shows: the column of its icon tells its state. -/
def add? (book : Book) (hovered : Option Widget) : Option (List Patch) :=
  if book.addVisible then do
    let rect ← book.viewport.addButton? book.bookmarks.size
    let state := ButtonState.ofFlags book.addEnabled (hovered = some .addBookmark)
    let across ← Px.fit? (state.row.val * Artwork.addIcon.width.val)
    Artwork.icon? rect (← Artwork.addIcon.offset? across 0) Layer.buttons.depth
  else some []

/-- The tabs in the dyes of their pages, counting from `index`. -/
def tabs? (book : Book) (hovered : Option Widget) (index : Nat) : List Tab → Option (List Part)
  | [] => some []
  | tab :: rest => do
    let dye := ((book.page? tab.page).map Page.dye).getD .white
    let rect ← book.tabRectOf? tab
    let patches ← book.tile? rect (ButtonState.ofFlags true (hovered = some (.tab index)))
    return .sprites dye.rgb patches :: (← book.tabs? hovered (index + 1) rest)

def title? (book : Book) : Option Label := do
  let width ← book.font.width? book.active.title
  let x ← Px.fit? ((book.viewport.screenWidth.quotient 2).val - (width.quotient 2).val)
  let y ← Px.fit? (book.viewport.outer.top.val + titleDrop.val)
  return ⟨book.active.title, x, y, Layer.buttons.depth, titleColor, true, 1⟩

/-- The tooltip of a tab below the cursor, with a mark on the cursor when the tab opens another
page. -/
def tabTooltip? (book : Book) (x y : Px) (tab : Tab) : Option (List Part) := do
  let text := ((book.page? tab.page).map Page.title).getD tab.page
  let below ← Px.fit? (y.val + book.font.lineHeight.val)
  let tooltip ← Tooltip.of? text x below book.viewport.screenWidth book.font
  let mark ← if book.active.path = tab.page then pure [] else Lines.linkMark? x y
  return [.sprites noTint tooltip.patches, .label tooltip.label,
    .fill linkColor Layer.tooltip.depth mark]

/-- The tooltip layer: nothing unless the cursor is over a tab. -/
def hoverParts? (book : Book) (x y : Px) (hovered : Option Widget) : Option (List Part) :=
  match hovered with
  | some (.tab index) =>
    match book.bookmarks.get? index with
    | some tab => book.tabTooltip? x y tab
    | none => some []
  | _ => some []

/-- The lines around the column of page text, when the settings ask for them. -/
def wireframe? (book : Book) : Option (List Rect) :=
  if book.settings.wireframe then Lines.outline? book.viewport.visible else some []

/-- The scene of a book whose open page is flowed and scrolled, with the cursor at a point. -/
def scene? (book : Book) (x y : Px) : Option (List Part) := do
  let hovered ← book.hit? x y
  let (paper, border) ← Artwork.bookFrame? book.viewport.outer book.settings
  let labels ← book.pageLabels?
  let separator ← Artwork.separatorBar? book.viewport.separator
  let thumb ← book.thumb? hovered
  let home ← book.home? hovered
  let add ← book.add? hovered
  let tabs ← book.tabs? hovered 0 book.bookmarks.tabs
  let title ← book.title?
  let tooltip ← book.hoverParts? x y hovered
  let wireframe ← book.wireframe?
  return [.sprites noTint paper] ++ labels.map .label ++
    [.sprites noTint border, .sprites noTint separator, .sprites noTint thumb,
      .sprites noTint home, .sprites noTint add] ++ tabs ++ [.label title] ++ tooltip ++
    [.fill wireframeColor Layer.tooltip.depth wireframe]

/-- The draw list of the book with the cursor at a point, and the book afterwards. -/
def render? (book : Book) (x y : Px) : Option (DrawList × Book) := do
  let book ← book.refresh?
  let scene ← book.scene? x y
  return (← DrawList.ofScene? Artwork.texture book.artwork.size scene, book)

end Handbook.Book
