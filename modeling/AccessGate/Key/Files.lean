import AccessGate.Text.Split

/-!
# Key files

Keys are read from files below the current directory.  A path is followed step by step: a dot
stays, two dots go up, and going anywhere else than into a directory fails.  Names of more than 255
bytes and paths of 4096 bytes cannot even be looked up.
-/

namespace AccessGate

/-- Why a path does not lead to a file. -/
inductive PathFault where
  | missing
  | tooLong
  deriving DecidableEq, Repr

/-- The files below the current directory, by path; a path without a text is a directory. -/
structure KeyFiles where
  entries : List (String × Option String) := []
  deriving DecidableEq, Repr, Inhabited

namespace KeyFiles

/-- The steps of a path that lead somewhere. -/
def steps (path : String) : List String :=
  ((Text.splitAt '/' path.toList).map String.ofList).filter fun step => step ≠ "" && step ≠ "."

/-- Whether there is a directory at the end of steps. -/
def isDirectory (files : KeyFiles) (place : List String) : Bool :=
  place.isEmpty || files.entries.any fun (path, text) =>
    if text.isNone then place.isPrefixOf (steps path)
    else place.isPrefixOf (steps path).dropLast

/-- The greatest number of bytes of a step. -/
def greatestStep : Nat := 255

/-- The greatest number of bytes of a path. -/
def greatestPath : Nat := 4095

/-- Where steps lead from a place, which is given innermost step first. -/
def follow (files : KeyFiles) :
    (place : List String) → List String → Except PathFault (List String)
  | place, [] => .ok place.reverse
  | place, step :: rest =>
      if !files.isDirectory place.reverse then .error .missing
      else if greatestStep < step.utf8ByteSize then .error .tooLong
      else if step = ".." then
        match place with
        | [] => .error .missing
        | _ :: outer => follow files outer rest
      else follow files (step :: place) rest

/-- The text of the file at a path. -/
def read (files : KeyFiles) (path : String) : Except PathFault String := do
  let steps := steps path
  let isRooted := path.toList.head? = some '/'
  let length := ("/".intercalate steps).utf8ByteSize + if isRooted then 1 else 0
  if path.toList.contains '\x00' then throw .missing
  if greatestPath < length then throw .tooLong
  if isRooted then throw (if (steps.head?.any fun step => greatestStep < step.utf8ByteSize) then
    .tooLong else .missing)
  let place ← files.follow [] steps
  match files.entries.find? fun (path, text) => KeyFiles.steps path = place && text.isSome with
  | some (_, some text) => return text
  | _ => throw .missing

end KeyFiles

end AccessGate
