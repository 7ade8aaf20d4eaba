import PolledNet.File.Handle

/-!
# A volume in memory

Files in a flat namespace of full paths, listed in the order of their paths. A volume may have a
capacity; a write that would exceed it changes nothing.

A write past the end of a file fills the gap with zeros. Files may be emptied or deleted while they
are open.
-/

namespace PolledNet

/-- A file of a volume in memory. -/
structure RamEntry where
  /-- Its full path. -/
  path : String
  /-- Its octets. -/
  content : Array UInt8

/-- A volume in memory. -/
structure RamVolume where
  /-- The files, in the order of their paths. -/
  files : List RamEntry := []
  /-- Most octets that all files together may hold. -/
  capacity : Option Nat := none

namespace RamVolume

/-- A path names a file unless it is empty, ends with a slash or holds a NUL. -/
def isPath (path : String) : Bool :=
  !path.isEmpty && path.toList.getLast? ≠ some '/' && !path.toList.contains '\x00'

/-- The octets stored. -/
def used (v : RamVolume) : Nat :=
  v.files.foldl (fun octets file => octets + file.content.size) 0

/-- The octets of a file. -/
def contents? (v : RamVolume) (path : String) : Option (Array UInt8) :=
  (v.files.find? (·.path = path)).map (·.content)

/-- The number of octets of a file. -/
def size? (v : RamVolume) (path : String) : Option Nat :=
  (v.files.find? (·.path = path)).map (·.content.size)

/-- Whether there is a file. -/
def contains (v : RamVolume) (path : String) : Bool := v.files.any (·.path = path)

/-- The paths of the files, in order. -/
def paths (v : RamVolume) : List String := v.files.map (·.path)

/-- The files with one set, in the order of paths. -/
def place (path : String) (content : Array UInt8) : List RamEntry → List RamEntry
  | [] => [⟨path, content⟩]
  | e :: rest =>
    if path = e.path then ⟨path, content⟩ :: rest
    else if path < e.path then ⟨path, content⟩ :: e :: rest
    else e :: place path content rest

/-- The files with the octets of one changed. -/
def modifyFile (path : String) (f : Array UInt8 → Array UInt8) : List RamEntry → List RamEntry
  | [] => []
  | ⟨p, content⟩ :: rest =>
    if p = path then ⟨p, f content⟩ :: rest else ⟨p, content⟩ :: modifyFile path f rest

/-- Stores a whole file, whatever it held before. Capacity is not asked for. -/
def insert (v : RamVolume) (path : String) (content : Bytes) : Except FileError RamVolume :=
  if isPath path then .ok { v with files := place path content.toArray v.files }
  else .error .invalidPath

/-- Deletes a file. -/
def delete (v : RamVolume) (path : String) : Except FileError RamVolume :=
  if v.contains path then .ok { v with files := v.files.eraseP (·.path = path) }
  else .error .notFound

end RamVolume

/-! ## Laying octets into a file -/

namespace FileContent

/-- Extends the octets with zeros to at least `size`. -/
def padTo (content : Array UInt8) (size : Nat) : Array UInt8 :=
  content ++ Array.replicate (size - content.size) 0

/-- Replaces the octets from `pos` on by the given ones, going past the end where there are more;
`pos` is not past the end. -/
def overlay (content : Array UInt8) (pos : Nat) : Bytes → Array UInt8
  | [] => content
  | b :: rest =>
    if pos < content.size then overlay (content.setIfInBounds pos b) (pos + 1) rest
    else overlay (content.push b) (pos + 1) rest

end FileContent

/-! ## Open files -/

/-- An open file of a volume in memory. -/
structure RamFile where
  /-- Its path, looked up anew by each operation. -/
  path : String
  /-- How it was opened. -/
  mode : OpenMode
  /-- Where the next operation starts. -/
  position : Nat := 0
  deriving DecidableEq, Repr

namespace RamFile

/-- Opens a file of the volume. -/
def open? (path : String) (mode : OpenMode) (v : RamVolume) :
    Except FileError RamFile × RamVolume :=
  if !RamVolume.isPath path then (.error .invalidPath, v)
  else
    match mode with
    | .read => if v.contains path then (.ok { path, mode }, v) else (.error .notFound, v)
    | .create => (.ok { path, mode }, { v with files := RamVolume.place path #[] v.files })

/-- Reads from the position on. -/
def read (f : RamFile) (want : Nat) (v : RamVolume) :
    Except FileError Bytes × RamFile × RamVolume :=
  if f.mode ≠ .read then (.error .badMode, f, v)
  else
    match v.contents? f.path with
    | none => (.error .notFound, f, v)
    | some content =>
      let got := (content.extract f.position (f.position + want)).toList
      (.ok got, { f with position := f.position + got.length }, v)

/-- Writes at the position, or nothing at all. -/
def write (f : RamFile) (data : Bytes) (v : RamVolume) :
    Except FileError Nat × RamFile × RamVolume :=
  if f.mode ≠ .create then (.error .badMode, f, v)
  else
    match v.size? f.path with
    | none => (.error .notFound, f, v)
    | some size =>
      let stop := f.position + data.length
      if v.capacity.any fun capacity => v.used + (stop - size) > capacity then
        (.error .diskFull, f, v)
      else
        let ⟨files, capacity⟩ := v
        let files := RamVolume.modifyFile f.path
          (fun content =>
            FileContent.overlay (FileContent.padTo content f.position) f.position data)
          files
        (.ok data.length, { f with position := stop }, ⟨files, capacity⟩)

/-- Open files of a volume in memory. -/
instance : FileHandle RamFile RamVolume where
  read := read
  write := write
  seek f position v := (.ok (), { f with position }, v)
  size f v := (v.size? f.path).getD 0
  close f v := (if v.contains f.path then .ok () else .error .notFound, v)

end RamFile

end PolledNet
