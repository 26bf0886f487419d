import Handbook.Binary32.Basic

namespace Handbook

inductive Layer where
  | paper
  | text
  | frame
  | buttons
  | tooltip
deriving DecidableEq

namespace Layer

/-- The depth of a layer; a greater one is drawn in front. -/
def depth : Layer → Binary32
  | .paper => 0
  | .text => 5
  | .frame => 10
  | .buttons => 15
  | .tooltip => 20

end Layer

end Handbook
