import ApiTypes.Keyed
import ApiTypes.Files.Path

/-!
Text files in nested folders.

A place is a list of names from the root, the outermost folder. A path with a slash in front starts
at the root and any other path in the current folder. Two dots lead to the folder around a place,
and from the root to the root itself.
-/

namespace ApiTypes

structure Files where
  /-- The folders apart from the root. -/
  folders : List (List String)
  texts : List (List String × String)
  current : List String
deriving Repr, Inhabited

namespace Files

def isFolder (files : Files) (place : List String) : Bool := place.isEmpty || place ∈ files.folders

def isText (files : Files) (place : List String) : Bool := files.texts.any fun t => t.1 = place

/-- Where a path starts. -/
def start (files : Files) (path : String) : List String :=
  if Path.isAbsolute path then [] else files.current

/-- One part further; every part but the last has to be a folder. -/
def step? (files : Files) (place : List String) (part : String) : Option (List String) :=
  if !files.isFolder place then none
  else if Path.isIdle part then some place
  else if part = ".." then some place.dropLast
  else some (place ++ [part])

def place? (files : Files) (path : String) : Option (List String) :=
  if path.isEmpty then none else (Path.parts path).foldlM files.step? (files.start path)

def read? (files : Files) (path : String) : Option String :=
  (files.place? path).bind fun place => files.texts.lookup place

/-- Writes a text into a folder that is there. -/
def write? (files : Files) (path text : String) : Option Files :=
  if ((Path.parts path).getLast?.any fun part => Path.isIdle part || part = "..") then none
  else
    (files.place? path).bind fun place =>
      if files.isFolder place then none
      else some { files with texts := Keyed.put Prod.fst (place, text) files.texts }

/-- One part further, with a folder made where there is nothing. -/
def makeStep? (state : Files × List String) (part : String) : Option (Files × List String) :=
  let (files, place) := state
  (files.step? place part).bind fun next =>
    if files.isFolder next then some (files, next)
    else if files.isText next then none
    else some ({ files with folders := files.folders ++ [next] }, next)

/-- Makes a folder and those around it. The empty path stands for nothing to make. -/
def makeFolder? (files : Files) (path : String) : Option Files :=
  if path.isEmpty then some files
  else ((Path.parts path).foldlM makeStep? (files, files.start path)).map Prod.fst

/-- A folder and those around it, the root apart. -/
def upTo (place : List String) : List (List String) :=
  (List.range place.length).map fun n => place.take (n + 1)

/-- Nothing but these texts, with their paths seen from the current folder, and the folders that
there have to be. -/
def ofTexts (current : List String) (texts : List (String × String)) : Files :=
  let placed := texts.map fun t => (current ++ Path.parts t.1, t.2)
  { folders := (upTo current ++ placed.flatMap fun t => upTo t.1.dropLast).eraseDups
    texts := Keyed.gather Prod.fst placed
    current }

/-- The name of a place as seen from a folder, if it is inside. -/
def nameFrom? (folder place : List String) : Option String :=
  if place.take folder.length = folder then some (Text.join "/" (place.drop folder.length))
  else none

/-- The texts in the current folder that are not the same before, by name. -/
def changes (before after : Files) : List (String × String) :=
  ((after.texts.filter fun t => before.texts.lookup t.1 ≠ some t.2).filterMap fun t =>
    (nameFrom? before.current t.1).map fun name => (name, t.2)).mergeSort
      fun a b => decide (a.1 ≤ b.1)

end Files

end ApiTypes
