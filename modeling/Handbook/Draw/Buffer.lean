namespace Handbook

inductive AttributeFormat where
  | single
  | pair
  | triple
  | quadruple
deriving DecidableEq

/-- Whether the buffer advances with each vertex or with each instance. -/
inductive StepMode where
  | vertex
  | instances
deriving DecidableEq

/-- An attribute: where it starts in its record, the location that reads it, and its format. -/
structure Attribute where
  offset : Nat
  location : Nat
  format : AttributeFormat
deriving DecidableEq

/-- The record of a buffer: its bytes, how the buffer advances, and its attributes. -/
structure BufferLayout where
  stride : Nat
  step : StepMode
  attributes : List Attribute
deriving DecidableEq

/-- A quad is one instance: its rectangle, its ordering hint and its texture coordinates, padded to
a multiple of sixteen bytes. -/
def BufferLayout.quad : BufferLayout where
  stride := 48
  step := .instances
  attributes := [⟨0, 0, .quadruple⟩, ⟨16, 1, .single⟩, ⟨20, 2, .quadruple⟩]

def BufferLayout.vertex : BufferLayout where
  stride := 20
  step := .vertex
  attributes := [⟨0, 0, .triple⟩, ⟨12, 1, .pair⟩]

end Handbook
