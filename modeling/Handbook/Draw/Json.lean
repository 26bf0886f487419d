import Handbook.Binary32.Decimal
import Handbook.Draw.DrawList

namespace Handbook

def Rect.toJson (rect : Rect) : Json :=
  .ofMembers [("x0", .ofInt rect.left.val), ("y0", .ofInt rect.top.val),
    ("width", .ofInt rect.width.val), ("height", .ofInt rect.height.val)]

def Quad.toJson (quad : Quad) : Json :=
  .ofMembers [("x0", quad.left.toJson), ("y0", quad.top.toJson), ("x1", quad.right.toJson),
    ("y1", quad.bottom.toJson), ("z", quad.z.toJson), ("u0", quad.uLeft.toJson),
    ("v0", quad.vTop.toJson), ("u1", quad.uRight.toJson), ("v1", quad.vBottom.toJson)]

def Command.toJson : Command → Json
  | .textured texture tint quads =>
    .ofMembers [("kind", .ofText "textured"), ("texture", .ofInt texture.toNat),
      ("tint", .ofInt tint.toNat), ("quads", .array (quads.map Quad.toJson))]
  | .solid color z rects =>
    .ofMembers [("kind", .ofText "solid"), ("color", .ofInt color.toNat), ("z", z.toJson),
      ("rects", .array (rects.map Rect.toJson))]
  | .text label =>
    .ofMembers [("kind", .ofText "text"), ("text", .ofText label.text), ("x", .ofInt label.x.val),
      ("y", .ofInt label.y.val), ("z", label.z.toJson), ("color", .ofInt label.color.toNat),
      ("shadow", .bool label.shadow), ("scale", label.scale.toJson)]

def DrawList.toJson (list : DrawList) : Json :=
  .ofMembers [("commands", .array (list.commands.map Command.toJson))]

end Handbook
