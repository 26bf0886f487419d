namespace Handbook

inductive MouseButton where
  | left
  | right
  | middle
deriving DecidableEq

structure HeldKeys where
  shift : Bool := false
  control : Bool := false
deriving DecidableEq

/-- A part of the book that can be clicked. -/
inductive Widget where
  | slider
  | home
  | addBookmark
  /-- The tab at an index. -/
  | tab (index : Nat)
deriving DecidableEq

end Handbook
