namespace Handbook

inductive Dye where
  | white
  | orange
  | magenta
  | lightBlue
  | yellow
  | lime
  | pink
  | gray
  | lightGray
  | cyan
  | purple
  | blue
  | brown
  | green
  | red
  | black
deriving DecidableEq, Inhabited

namespace Dye

def all : List Dye :=
  [white, orange, magenta, lightBlue, yellow, lime, pink, gray, lightGray, cyan, purple, blue,
    brown, green, red, black]

def place : Dye → Nat
  | white => 0
  | orange => 1
  | magenta => 2
  | lightBlue => 3
  | yellow => 4
  | lime => 5
  | pink => 6
  | gray => 7
  | lightGray => 8
  | cyan => 9
  | purple => 10
  | blue => 11
  | brown => 12
  | green => 13
  | red => 14
  | black => 15

/-- The colour of a dye: eight bits each of red, green and blue. -/
def rgb : Dye → UInt32
  | white => 0xF9FFFE
  | orange => 0xF9801D
  | magenta => 0xC74EBD
  | lightBlue => 0x3AB3DA
  | yellow => 0xFED83D
  | lime => 0x80C71F
  | pink => 0xF38BAA
  | gray => 0x474F52
  | lightGray => 0x9D9D97
  | cyan => 0x169C9C
  | purple => 0x8932B8
  | blue => 0x3C44AA
  | brown => 0x835432
  | green => 0x5E7C16
  | red => 0xB02E26
  | black => 0x1D1D21

/-- The next dye, or the one before it when going backwards; the order is a circle. -/
def cycle (dye : Dye) (backwards : Bool) : Dye :=
  let place := if backwards then dye.place + 15 else dye.place + 1
  all.getD (place % 16) white

end Dye

end Handbook
