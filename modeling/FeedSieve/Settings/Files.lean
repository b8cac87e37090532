import FeedSieve.Text.Replace

/-!
# Files

What stands at a path: nothing, a directory or a file. A tree of files answers for every path below its
root; the directories are those that the files need.
-/
namespace FeedSieve.Settings

inductive Found where
  | nothing
  | directory
  | file (content : List UInt8)
  deriving DecidableEq, Repr

def steps (path : String) : List String :=
  ((Text.splitAt '/' path.toList).map String.ofList).filter fun s => s ≠ "" ∧ s ≠ "."

/-- The slashes that a path keeps in front: none, one, or exactly two. -/
def rootOf (path : String) : String :=
  match (path.toList.takeWhile (· = '/')).length with
  | 0 => ""
  | 2 => "//"
  | _ => "/"

/-- A path without the steps that lead nowhere. -/
def tidyPath (path : String) : String :=
  let tidy := rootOf path ++ "/".intercalate (steps path)
  if tidy = "" then "." else tidy

/-- The path that leads on from another one. -/
def joinPath (start path : String) : String :=
  let front := rootOf start ++ "/".intercalate (steps start)
  tidyPath (if front = rootOf start then front ++ path else front ++ "/" ++ path)

/-- Files by the steps that lead to them. -/
structure FileTree where
  files : List (List String × List UInt8)

namespace FileTree

def ofList (files : List (String × List UInt8)) : FileTree :=
  ⟨files.map fun (path, content) => (steps path, content)⟩

/-- Follows steps from a directory. -/
def walk (t : FileTree) (here : List String) : List String → Found
  | [] => .directory
  | ".." :: rest => t.walk here.dropLast rest
  | step :: rest =>
    let there := here ++ [step]
    match t.files.find? (·.1 == there) with
    | some (_, content) => if rest = [] then .file content else .nothing
    | none => if t.files.any (there.isPrefixOf ·.1) then t.walk there rest else .nothing

/-- What stands at a path. Nothing outside the tree does. -/
def look (t : FileTree) (path : String) : Found :=
  if path.toList.head? = some '/' then .nothing else t.walk [] (steps path)

end FileTree

end FeedSieve.Settings
