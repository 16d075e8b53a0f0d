import TreeOutline.CommandLine.Print

/-!
# The program

Reads the files that the words of the command line may name, prints the outline, and ends with the
command's status.
-/

namespace TreeOutline

/-- The names of files that a word of the command line may stand for: the word itself, or what is
attached to an option in it. -/
def namesIn (word : String) : List String :=
  let attached := match (word.toList.dropWhile (· ≠ '=')) with
    | [] => []
    | _ :: value => [String.ofList value]
  let behindLetter := if word.startsWith "-" then [(word.drop 2).toString] else []
  (word :: attached ++ behindLetter).filter (· ≠ "")

/-- The files with some names, as far as they can be read. -/
def readFiles (names : List String) : IO Files := do
  let mut found : List (String × Bytes) := []
  for name in names do
    try
      found := (name, (← IO.FS.readBinFile name).toList) :: found
    catch _ => pure ()
  return .ofList found

end TreeOutline

open TreeOutline in
/-- Prints the outline that the command line asks for. -/
def main (words : List String) : IO UInt32 := do
  let names := userConfigFile :: words.flatMap namesIn
  let files ← readFiles (names ++ names.map (· ++ ".toml"))
  let outcome := runPrint files words
  IO.print outcome.stdout
  IO.eprint outcome.stderr
  return UInt32.ofNat outcome.code
