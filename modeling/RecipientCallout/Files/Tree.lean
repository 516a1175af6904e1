import RecipientCallout.Files.Store

/-!
# File trees

The files and directories below a working directory, and how a path leads to one of them. Of what lies
outside the working directory, only the usual directories at the root and the empty device exist.
-/

namespace RecipientCallout.Files
open RecipientCallout.Text

/-- What lies at a place of a tree. -/
inductive Node where
  | file (contents : ByteArray)
  | directory

/-- The nodes below the working directory, each by the names that lead to it. -/
abbrev Tree := List (List RawText × Node)

/-- Cuts a path at its slashes. -/
def components : Path → List RawText
  | [] => [[]]
  | piece :: rest =>
    if piece = .char '/' then [] :: components rest
    else
      match components rest with
      | [] => [[piece]]
      | first :: others => (piece :: first) :: others

/-- A place that a path has led to: below the working directory, above it, or away from it. -/
inductive Place where
  | below (names : List RawText)
  | above (levels : Nat)
  | root
  | system (names : List RawText)

namespace Tree

/-- The directories that every system has at its root. -/
def systemDirectories : List String :=
  ["bin", "boot", "dev", "etc", "home", "lib", "media", "mnt", "opt", "proc", "root", "run", "sbin",
    "srv", "sys", "tmp", "usr", "var"]

/-- What lies at a place. -/
def node? (tree : Tree) : Place → Option Node
  | .below [] => some .directory
  | .below names =>
    match tree.find? (·.1 == names) with
    | some (_, node) => some node
    | none =>
      if tree.any fun (path, _) => names.isPrefixOf path && path != names then some .directory
      else none
  | .above _ => some .directory
  | .root => some .directory
  | .system [name] =>
    if systemDirectories.any fun d => RawText.ofString d == name then some .directory else none
  | .system names =>
    if names = [RawText.ofString "dev", RawText.ofString "null"] then some (.file .empty) else none

/-- The place one level up. -/
def parent : Place → Place
  | .below [] => .above 1
  | .below names => .below names.dropLast
  | .above levels => .above (levels + 1)
  | .root => .root
  | .system [_] => .root
  | .system names => .system names.dropLast

/-- The place of a name in a directory. -/
def child (name : RawText) : Place → Option Place
  | .below names => some (.below (names ++ [name]))
  | .above _ => none
  | .root => some (.system [name])
  | .system names => some (.system (names ++ [name]))

/-- The greatest size of a name. -/
def nameLimit : Nat := 255

/-- The size that no path may reach. -/
def pathLimit : Nat := 4096

/-- Follows the names of a path from a place. -/
def walk (tree : Tree) (place : Place) : List RawText → Except ReadFailure Node
  | [] =>
    match node? tree place with
    | some node => .ok node
    | none => .error .missing
  | name :: names =>
    match node? tree place with
    | none => .error .missing
    | some (.file _) => .error .notDirectory
    | some .directory =>
      if name = [] ∨ name = [.char '.'] then walk tree place names
      else if name = [.char '.', .char '.'] then walk tree (parent place) names
      else if nameLimit < name.size then .error .nameTooLong
      else
        match child name place with
        | none => .error .missing
        | some place => walk tree place names

/-- The store whose relative paths lead into the tree. -/
def store (tree : Tree) : Store := fun path =>
  if path.contains (.char '\x00') then .error .nulInPath
  else if path = [] then .error .missing
  else if pathLimit ≤ path.size then .error .nameTooLong
  else
    let start := if path.head? = some (.char '/') then .root else .below []
    match walk tree start (components path) with
    | .error failure => .error failure
    | .ok .directory => .error .directory
    | .ok (.file contents) => .ok contents

/-- The tree with one more node, which replaces one of the same name. Trees are made by it, starting from the
empty one. -/
def write (tree : Tree) (name : String) (node : Node) : Tree :=
  let names := (components (RawText.ofString name)).filter (· ≠ [])
  (names, node) :: tree.filter (·.1 != names)

end Tree
end RecipientCallout.Files
