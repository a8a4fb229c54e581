/-!
Runs of named characters. The names of a run are written one after the other, each behind a small
letter that tells how many of its first words are those of the name before it: `a` for none, `b` for
one, and so on.
-/

namespace SchemaMerge.Text

structure NameRun where
  first : Nat
  names : List String

namespace NameRun

/-- A name as it is written: the number of words it takes over, and what comes behind them. -/
structure Entry where
  kept : Nat
  rest : List Char

def entries (written : List Char) : List Entry :=
  (written.foldr
    (fun letter (read : List Char × List Entry) =>
      if 'a' ≤ letter then ([], ⟨letter.toNat - 'a'.toNat, read.1⟩ :: read.2)
      else (letter :: read.1, read.2))
    ([], [])).2

def firstWords : Nat → List Char → List Char
  | 0, _ => []
  | _ + 1, [] => []
  | count + 1, letter :: letters =>
    letter :: firstWords (if letter = ' ' then count else count + 1) letters

def namesAfter : List Char → List Entry → List (List Char)
  | _, [] => []
  | before, entry :: entries =>
    let name := firstWords entry.kept before ++ entry.rest
    name :: namesAfter name entries

def codeOf? (run : NameRun) (name : List Char) : Option Nat :=
  ((namesAfter [] (entries (run.names.flatMap String.toList))).idxOf? name).map (run.first + ·)

end NameRun

end SchemaMerge.Text
