import Handbook.Rect
import Handbook.Settings.Basic

/-!
Where the parts of the book lie on a screen. The frame takes six eighths of the screen; inside its
border the visible page area, the separator and the slider rail stand side by side, and the tabs
rise above its top from right to left.
-/

namespace Handbook

structure Viewport where
  screenWidth : Px
  screenHeight : Px
  /-- The frame with its border. -/
  outer : Rect
  /-- What the border leaves. -/
  inner : Rect
  separator : Rect
  rail : Rect
  /-- The column of page text. -/
  visible : Rect
  homeButton : Rect
  /-- The place of the rightmost tab; each further tab is one tab width to its left. -/
  tabOrigin : Px
  tabWidth : Px
  tabHeight : Px
  fullTabHeight : Px
deriving DecidableEq

namespace Viewport

/-- How many columns the strip of tabs ends before the frame does. -/
def stripMargin : Px := 2

/-- The side of the button that adds a bookmark. -/
def addButtonSize : Px := 16

/-- How many columns before the end of the frame the slot of the add button starts, tabs aside. -/
def addButtonMargin : Px := 20

/-- How many rows the add button starts before the frame does. -/
def addButtonRise : Px := 18

/-- Six eighths of a length, its fraction dropped. -/
def frameShare? (length : Px) : Option Px := do
  return (← Px.fit? (length.val * 6)).quotient 8

def outerRect? (screenWidth screenHeight : Px) : Option Rect := do
  return Rect.ofSize (screenWidth.quotient 8) (screenHeight.quotient 8) (← frameShare? screenWidth)
    (← frameShare? screenHeight)

/-- The separator, which reaches one shadow to each side of its line. -/
def separatorRect? (inner : Rect) (settings : Settings) : Option Rect := do
  let beforeRail ← Px.fit? ((← inner.right?).val - settings.sliderWidth.val)
  let beforeLine ← Px.fit? (beforeRail.val - settings.separatorThickness.val)
  let left ← Px.fit? (beforeLine.val - settings.shadowThickness.val)
  let shadows ← Px.fit? (2 * settings.shadowThickness.val)
  let width ← Px.fit? (shadows.val + settings.separatorThickness.val)
  return Rect.ofSize left inner.top width inner.height

def railRect? (inner : Rect) (settings : Settings) : Option Rect := do
  let left ← Px.fit? ((← inner.right?).val - settings.sliderWidth.val)
  return Rect.ofSize left inner.top settings.sliderWidth inner.height

/-- The column of page text, one shadow inside the left border. -/
def visibleRect? (inner : Rect) (settings : Settings) : Option Rect := do
  let left ← Px.fit? (inner.left.val + settings.shadowThickness.val)
  let shadows ← Px.fit? (2 * settings.shadowThickness.val)
  let unshaded ← Px.fit? (inner.width.val - shadows.val)
  let beforeRail ← Px.fit? (unshaded.val - settings.sliderWidth.val)
  let width ← Px.fit? (beforeRail.val - settings.separatorThickness.val)
  return Rect.ofSize left inner.top width inner.height

def homeRect? (outer : Rect) (settings : Settings) : Option Rect := do
  let left ← Px.fit? ((← outer.right?).val - settings.tabWidth.val)
  let top ← Px.fit? (outer.top.val - settings.tabHeight.val)
  return Rect.ofSize left top settings.tabWidth settings.fullTabHeight

/-- The place of the rightmost tab, left of the home button. -/
def tabOrigin? (outer : Rect) (settings : Settings) : Option Px := do
  let inside ← Px.fit? ((← outer.right?).val - stripMargin.val)
  let slots ← Px.fit? (2 * settings.tabWidth.val)
  Px.fit? (inside.val - slots.val)

/-- The places of the parts on a screen; `none` when one of them leaves the pixel range. -/
def compute? (screenWidth screenHeight : Px) (settings : Settings) : Option Viewport := do
  let outer ← outerRect? screenWidth screenHeight
  let inner ← outer.inset? settings.borderThickness
  let separator ← separatorRect? inner settings
  let rail ← railRect? inner settings
  let visible ← visibleRect? inner settings
  let homeButton ← homeRect? outer settings
  let tabOrigin ← tabOrigin? outer settings
  return {
    screenWidth, screenHeight, outer, inner, separator, rail, visible, homeButton, tabOrigin
    tabWidth := settings.tabWidth
    tabHeight := settings.tabHeight
    fullTabHeight := settings.fullTabHeight }

/-- The first column of the tab at an index; each tab stands one tab width before the one with the
index below. The index is taken modulo the pixel range. -/
def tabPlace? (viewport : Viewport) (index : Nat) : Option Px := do
  let distance ← Px.fit? ((Px.wrap index).val * viewport.tabWidth.val)
  Px.fit? (viewport.tabOrigin.val - distance.val)

/-- The rectangle of a tab, which stands on the frame; the tab of the open page has its own
height. -/
def tabRect? (viewport : Viewport) (x : Px) (active : Bool) : Option Rect := do
  let height := if active then viewport.fullTabHeight else viewport.tabHeight
  let top ← Px.fit? (viewport.outer.top.val - height.val)
  return Rect.ofSize x top viewport.tabWidth height

/-- The button that adds a bookmark, at the first free place of the strip. -/
def addButton? (viewport : Viewport) (tabCount : Nat) : Option Rect := do
  let inside ← Px.fit? ((← viewport.outer.right?).val - addButtonMargin.val)
  let first ← Px.fit? (inside.val - viewport.tabWidth.val)
  let taken ← Px.fit? ((Px.wrap tabCount).val * viewport.tabWidth.val)
  let left ← Px.fit? (first.val - taken.val)
  let top ← Px.fit? (viewport.outer.top.val - addButtonRise.val)
  return Rect.ofSize left top addButtonSize addButtonSize

end Viewport

end Handbook
