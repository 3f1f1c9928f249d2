import Simulcast.Config.Load

/-!
# Described folders

A folder tree is described by the files in it and by the folders that are there without a file.
Paths are walked from the top part by part: a part is only entered from a folder, two dots lead
back up, and nothing above the top can be seen.
-/

namespace Simulcast

structure FolderTree where
  files : List (List String × String) := []
  folders : List (List String) := []

namespace FolderTree

/-- The parts of a path that lead anywhere. -/
def parts (path : String) : List String :=
  (path.splitOn "/").filter fun part => part ≠ "" ∧ part ≠ "."

/-- A tree of files and folders that are given by their paths. -/
def describe (files : List (String × String)) (folders : List String) : FolderTree where
  files := files.map fun (path, contents) => (parts path, contents)
  folders := folders.map parts

/-- The top, what is named as a folder, and what something lies in. -/
def hasFolder (t : FolderTree) (place : List String) : Bool :=
  place.isEmpty || t.folders.any place.isPrefixOf
    || t.files.any fun file => place.isPrefixOf file.1 && place.length < file.1.length

def walk (t : FolderTree) : (place path : List String) → Option (List String)
  | place, [] => some place
  | place, part :: rest =>
    if t.hasFolder place then
      if part = ".." then if place.isEmpty then none else t.walk place.dropLast rest
      else t.walk (place ++ [part]) rest
    else none

def place? (t : FolderTree) (path : String) : Option (List String) :=
  if path = "" ∨ path.toList.head? = some '/' then none else t.walk [] (parts path)

def isThere (t : FolderTree) (path : String) : Bool :=
  match t.place? path with
  | some place => t.hasFolder place || t.files.any (·.1 == place)
  | none => false

def textAt? (t : FolderTree) (path : String) : Option String :=
  (t.place? path).bind fun place => (t.files.reverse.find? (·.1 == place)).map (·.2)

/-- The surroundings of a program that runs at the top of the tree. -/
def surroundings (t : FolderTree) (assignments : List (String × String)) (home : Option String) :
    Surroundings where
  assignments := assignments
  home := home
  isThere := t.isThere
  textAt := t.textAt?

end FolderTree

end Simulcast
