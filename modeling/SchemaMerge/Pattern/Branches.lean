import SchemaMerge.Pattern.Basic

/-!
How a sequence of items and a choice between branches become one node. What all branches begin with
stands in front of the choice, and a choice between single characters is a set. The distinction
shows where case is ignored, because sets compare characters beyond the first plane more narrowly.
-/

namespace SchemaMerge.Pattern

namespace Node

/-- Whether two items are the same at sight. Items with others inside them never are. -/
def alike : Node → Node → Bool
  | .one first, .one second => first = second
  | .anchor first, .anchor second => first = second
  | .backreference first _, .backreference second _ => first = second
  | _, _ => false

def spliced : Node → List Node
  | .scoped ⟨[], []⟩ body => body.items
  | node => [node]

/-- What the first branch and all others begin with, and what each branch goes on with. -/
def splitStart : List Node → List (List Node) → List Node × List (List Node)
  | [], others => ([], [] :: others)
  | item :: branch, others =>
    if others.all (fun other => other.head?.any item.alike) then
      let (start, branches) := splitStart branch (others.map List.tail)
      (item :: start, branches)
    else ([], (item :: branch) :: others)

def members? : List Node → Option (List SetItem)
  | [.one (.code false value)] => some [.code value]
  | [.one (.set false items)] => some items
  | _ => none

def choice : List Node → Node
  | [] => .empty
  | [node] => node
  | node :: nodes => .alt node (choice nodes)

def ofBranches : List (List Node) → Node
  | [] => .empty
  | [branch] => ofList branch
  | first :: others =>
    let (start, branches) := splitStart first others
    match branches.mapM members? with
    | some members => ofList (start ++ [.one (.set false members.flatten.eraseDups)])
    | none => ofList (start ++ [choice (branches.map ofList)])

end Node

end SchemaMerge.Pattern
