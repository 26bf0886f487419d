namespace Handbook

/-- What stands under a name of a directory. -/
inductive DirectoryItem where
  /-- A file, with its bytes if it can be read. -/
  | file (bytes? : Option ByteArray)
  | directory

namespace DirectoryItem

/-- The bytes that come of reading the item as a file. -/
def read? : DirectoryItem → Option ByteArray
  | .file bytes? => bytes?
  | .directory => none

def isFile : DirectoryItem → Bool
  | .file _ => true
  | .directory => false

end DirectoryItem

/-- What a directory lists: a name, which may be any bytes, and what stands under it. -/
structure DirectoryEntry where
  name : ByteArray
  item : DirectoryItem

namespace DirectoryEntry

/-- The point that parts an extension from the rest of a name. -/
def point : UInt8 := 46

/-- The bytes after the last point of a name, if there is a point that is not its first byte. -/
def extension? (name : ByteArray) : Option (List UInt8) :=
  let reversed := name.data.toList.reverse
  match reversed.dropWhile (· != point) with
  | _ :: _ :: _ => some (reversed.takeWhile (· != point)).reverse
  | _ => none

/-- The text of an entry, if it is a readable file of Unicode text. -/
def text? (entry : DirectoryEntry) : Option String := entry.item.read?.bind String.fromUTF8?

end DirectoryEntry

/-- What a program can ask of files: the bytes of the file at a path and the entries of the
directory at a path, each `none` when it cannot be read. -/
structure Files where
  read? : String → Option ByteArray
  list? : String → Option (List DirectoryEntry)

end Handbook
