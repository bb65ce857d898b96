-- Files below a working directory, and what comes of opening a path there.
import KeyRoute.Config.Basic

namespace KeyRoute

/-- Files and directories below a working directory, by the names on the way; of two entries at
one place, the first one counts. A directory has no content. -/
structure FileTree where
  entries : List (List String × Option ByteArray)

namespace FileTree

/-- What a place in the tree is. -/
inductive Node where
  | file (content : ByteArray)
  | directory

/-- A place: one in the tree, or a directory outside of it. -/
inductive Place where
  | inside (names : List String)
  | outside

/-- The names of a path. -/
def names (path : String) : List String := (path.splitOn "/").filter (· ≠ "")

/-- What stands at a place. -/
def node? (tree : FileTree) : Place → Option Node
  | .outside => some .directory
  | .inside [] => some .directory
  | .inside names =>
    match tree.entries.find? fun e => e.1 == names with
    | some (_, some content) => some (.file content)
    | some (_, none) => some .directory
    | none => none

/-! ## Making -/

/-- A working directory without anything. -/
def empty : FileTree := ⟨[]⟩

/-- The places on the way along some names, which start at a place; `none` if the way leaves the
working directory. -/
def placesOn : List String → List String → Option (List (List String))
  | _, [] => some []
  | here, name :: names => do
    let next ←
      if name = "." then some here
      else if name = ".." then (if here.isEmpty then none else some here.dropLast)
      else some (here ++ [name])
    return next :: (← placesOn next names)

/-- Makes a directory, and those on the way to it. -/
def makeDirectory (tree : FileTree) (path : String) : FileTree :=
  let places := (placesOn [] (names path)).getD []
  ⟨places.map (·, none) ++ tree.entries⟩

/-- Writes a file in the place of an earlier one, and makes the directories on the way to it. -/
def writeFile (tree : FileTree) (path : String) (content : ByteArray) : FileTree :=
  let places := (placesOn [] (names path)).getD []
  match places.getLast? with
  | none => tree
  | some place =>
    ⟨(place, some content) :: (places.dropLast.map (·, none) ++ tree.entries)⟩

/-! ## Reading -/

/-- One name further, which only leads on from a directory. -/
def enter (tree : FileTree) (place : Place) (name : String) : Except ReadFault Place :=
  match tree.node? place with
  | none => .error .missing
  | some (.file _) => .error .notDirectory
  | some .directory =>
    if 255 < name.utf8ByteSize then .error .nameTooLong
    else if name = "." then .ok place
    else
      let next := match place with
        | .inside names => if name = ".." then
            (if names.isEmpty then .outside else .inside names.dropLast)
          else .inside (names ++ [name])
        | .outside => .outside
      if name ≠ ".." && (next matches .outside) then .error .missing
      else match tree.node? next with
        | some _ => .ok next
        | none => .error .missing

/-- The text of the file at a path. -/
def read (tree : FileTree) (path : String) : Except ReadFault String := do
  if path.toList.contains '\x00' then .error .nulInName
  if 4096 ≤ path.utf8ByteSize then .error .nameTooLong
  if path = "" then .error .missing
  let start := if path.toList.head? = some '/' then Place.outside else .inside []
  let place ← (names path).foldlM tree.enter start
  match tree.node? place with
  | some (.file content) =>
    if path.toList.getLast? = some '/' then .error .notDirectory
    else match String.fromUTF8? content with
      | some text => .ok text
      | none => .error .notUnicode
  | some .directory => .error .isDirectory
  | none => .error .missing

end FileTree

end KeyRoute
