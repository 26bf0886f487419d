import Handbook.Fault
import Handbook.Snapshot.Options
import Handbook.Text.Quoted

namespace Handbook

namespace Snapshot

def usageText : String :=
  "usage: guide-preview <pages-dir> [width] [height] [--page PATH] [--bookmark PATH]... " ++
    "[--config FILE] [--shaped]"

namespace Misuse

def message : Misuse → String
  | .usage => usageText
  | .missingValue .page => "--page needs a path"
  | .missingValue .bookmark => "--bookmark needs a path"
  | .missingValue .settings => "--config needs a file"
  | .badDimension text => "invalid screen dimension " ++ Text.quoted text
  | .extraArgument text => "unexpected argument " ++ Text.quoted text ++ "\n" ++ usageText

end Misuse

end Snapshot

namespace Fault

def fieldsText (fields : List (String × Int)) : String :=
  let written := fields.map fun field => field.1 ++ ": " ++ toString field.2
  "\x7b " ++ ", ".intercalate written ++ " \x7d"

/-- The cause and its numbers, for a report. -/
def report : Fault → String
  | .overflow => "overflow"
  | .emptySprite width height =>
    "InvalidAtlasRegion " ++ fieldsText [("width", width.val), ("height", height.val)]
  | .outsideSheet sprite size =>
    "RegionOutsideAtlas " ++ fieldsText
      [("x0", sprite.left.val), ("y0", sprite.top.val), ("width", sprite.width.val),
        ("height", sprite.height.val), ("atlas_width", size.width.toNat),
        ("atlas_height", size.height.toNat)]
  | .looseNineSlice => "InvalidNineSlice"
  | .badSettings problem => "InvalidConfig(" ++ Text.quoted problem.message ++ ")"
  | .malformedSettings => "Json"
  | .unreadableSettings => "Io"
  | .unreadablePages => "PageSource"

end Fault

namespace Snapshot

/-- Why there is no snapshot. -/
inductive Failure where
  | misuse (cause : Misuse)
  /-- The settings or the pages cannot be loaded. -/
  | loading (fault : Fault)
  /-- The book does not open. -/
  | opening (fault : Fault)
  /-- A pixel number left its range. -/
  | overflow
deriving DecidableEq

namespace Failure

def ofOpening : Fault → Failure
  | .overflow => .overflow
  | fault => .opening fault

/-- What a failure reports. -/
def report : Failure → String
  | .misuse cause => "Error: " ++ Text.quoted cause.message
  | .loading fault => "Error: " ++ fault.report
  | .opening fault => "Error: Guide(" ++ fault.report ++ ")"
  | .overflow => Fault.overflow.report

def status : Failure → UInt8
  | .overflow => 101
  | _ => 1

end Failure

end Snapshot

end Handbook
