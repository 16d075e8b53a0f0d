import TreeOutline.Shell.Builtin
import TreeOutline.Shell.Tool.Basic

namespace TreeOutline

/-!
# Tools that change files

* `Shell.State.opened?` — the contents of a file that is read; what has been written to it is read
  again (`opened?_writeFile`).
* `Shell.tee`, `Shell.copyFiles`, `Shell.remove`, `Shell.touch`, `Shell.makeTemporary` — files that
  are made, copied or moved, removed.
* `Shell.makeDirectories`, `Shell.removeDirectories`, `Shell.changeMode` — directories, and files
  that may be run.
* `Shell.list` — the names of files.
* `Shell.filing?` — the tool with a name.
-/

namespace Shell

/-! ### Files -/

/-- The contents of a file that is read; a directory has none. -/
def State.opened? (s : State) (path : String) : Option (List Char) :=
  if path = "/dev/null" ∨ s.store.isDirectory path then some []
  else if path = "/dev/stdin" then some s.input
  else s.store.contents? path

/-- Makes a file hold a text. -/
def State.writeFile (s : State) (path : String) (text : List Char) : State :=
  if path = "/dev/null" then s else { s with store := s.store.write path text }

/-- **What a tool writes to a file** is read from it again, where the file can be made. -/
theorem opened?_writeFile {s : State} {path : String} (hfree : s.store.hindrance? path = none)
    (hdevice : path ≠ "/dev/null" ∧ path ≠ "/dev/stdin") (text : List Char) :
    (s.writeFile path text).opened? path = some text := by
  obtain ⟨-, hdirectory, -⟩ := Store.hindrance?_eq_none_iff.1 hfree
  rw [State.writeFile, if_neg hdevice.1, State.opened?, if_neg, if_neg hdevice.2]
  · exact Store.contents?_write_self hfree text
  · rintro (h | h)
    · exact hdevice.1 h
    · rw [Store.isDirectory_write] at h
      exact hdirectory (.inl h)

/-- Changes files. -/
def changeStore (change : Store → Store) : Run Unit :=
  modify fun s => { s with store := change s.store }

/-- Prints a complaint of a tool and sets the status. -/
def complainOf (status : Nat) (text : String) : Run Unit := do
  print 2 (text ++ "\n").toList
  setStatus status

/-- Prints a line. -/
def sayLine (text : String) : Run Unit := print 1 (text ++ "\n").toList

/-- A complaint of a tool that is not asked in the right way. -/
def complainMisused (tool : String) (status : Nat) (text : String) : Run Unit :=
  complainOf status s!"{tool}: {text}\nTry '{tool} --help' for more information."

/-- A tool by its options and operands, of which there must be one. -/
def withOperands (tool : String) (table : OptionTable) (words : List String)
    (use : List (Char × String) → List String → Run Unit) : Run Unit := do
  setStatus 0
  match table.split (words.foldl (fun n word => n + word.length + 1) 1) words with
  | .error fault => complainMisused tool 1 fault.message
  | .ok (options, []) =>
    if hasOption options 'f' then return else complainMisused tool 1 "missing operand"
  | .ok (options, paths) => use options paths

/-- Copies the input to the output and into files, with `-a` to their ends. -/
def tee (words : List String) : Run Unit := do
  let table : OptionTable := ⟨"aip", "", [("append", 'a'), ("ignore-interrupts", 'i')]⟩
  match table.split (words.foldl (fun n word => n + word.length + 1) 1) words with
  | .error fault => complainMisused "tee" 1 fault.message
  | .ok (options, paths) =>
    let s ← get
    set { s with input := [], status := 0 }
    print 1 s.input
    paths.forM fun path => do
      let s' ← get
      if path = "/dev/stderr" then print 2 s.input
      else if path = "/dev/stdout" then print 1 s.input
      else
        match s'.store.hindrance? path with
        | some fault => complainOf 1 s!"tee: {path}: {fault.message}"
        | none =>
          let old := if hasOption options 'a' then (s'.store.contents? path).getD [] else []
          set (s'.writeFile path (old ++ s.input))

/-- Makes files that are not there, unless `-c` says otherwise. -/
def touch (words : List String) : Run Unit := do
  setStatus 0
  let table : OptionTable := ⟨"acmfh", "drt", [("no-create", 'c'), ("date", 'd'),
    ("reference", 'r')]⟩
  match table.split (words.foldl (fun n word => n + word.length + 1) 1) words with
  | .error fault => complainMisused "touch" 1 fault.message
  | .ok (_, []) => complainMisused "touch" 1 "missing file operand"
  | .ok (options, paths) => paths.forM fun path => do
    let s ← get
    match s.opened? path, s.store.hindrance? path with
    | some _, _ => return
    | none, some fault => complainOf 1 s!"touch: cannot touch '{path}': {fault.message}"
    | none, none => if ¬ hasOption options 'c' then set (s.writeFile path [])

/-! ### Copies -/

/-- Copies a file to a path, or moves it there. -/
def copyFile (tool : String) (options : List (Char × String)) (source target : String) :
    Run Unit := do
  let s ← get
  let moving : Bool := tool == "mv"
  let whole := moving || options.any fun (letter, _) => letter ∈ ['r', 'R', 'a']
  if ¬ s.store.isDirectory source ∧ (s.opened? source).isNone then
    complainOf 1 s!"{tool}: cannot stat '{source}': {(s.store.absence source).message}"
  else if s.store.isDirectory source ∧ ¬ whole then
    complainOf 1 s!"{tool}: -r not specified; omitting directory '{source}'"
  else if s.store.full source = s.store.full target then
    complainOf 1 s!"{tool}: '{source}' and '{target}' are the same file"
  else if hasOption options 'n' ∧ s.store.isFile target then return
  else
    match s.store.hindrance? target, s.store.isDirectory source with
    | some fault, false =>
      -- a file copied to the null device is gone, which is no fault
      if target = "/dev/null" then return
      else if moving then
        complainOf 1 s!"{tool}: cannot move '{source}' to '{target}': {fault.message}"
      else complainOf 1 s!"{tool}: cannot create regular file '{target}': {fault.message}"
    | _, true => changeStore fun store =>
      let copied := store.copy source target
      if moving then copied.remove source else copied
    | none, false =>
      let text := (s.opened? source).getD []
      changeStore fun store =>
        let copied := store.write target text
        if moving then copied.remove source else copied
    if hasOption options 'v' then
      sayLine ((if moving then "renamed " else "") ++ s!"'{source}' -> '{target}'")

/-- Copies files, or moves them: one to another path, or many into a directory. -/
def copyFiles (tool : String) (words : List String) : Run Unit := do
  setStatus 0
  let table : OptionTable := ⟨"rRafnpivuTdlLPHxsb", "tS", [("recursive", 'r'), ("archive", 'a'),
    ("force", 'f'), ("no-clobber", 'n'), ("interactive", 'i'), ("verbose", 'v'), ("update", 'u'),
    ("target-directory", 't'), ("no-target-directory", 'T')]⟩
  match table.split (words.foldl (fun n word => n + word.length + 1) 1) words with
  | .error fault => complainMisused tool 1 fault.message
  | .ok (options, paths) =>
    let s ← get
    let into (directory : String) (sources : List String) : Run Unit :=
      sources.forM fun source =>
        let front := if directory.endsWith "/" then directory else directory ++ "/"
        copyFile tool options source (front ++ lastPart source)
    let wrong (path : String) : String :=
      if s.store.isFile path then StoreFault.noDirectory.message else (s.store.absence path).message
    match optionValue? options 't', paths with
    | _, [] => complainMisused tool 1 "missing file operand"
    | some directory, sources =>
      if s.store.isDirectory directory then into directory sources
      else complainOf 1 s!"{tool}: target directory '{directory}': {wrong directory}"
    | none, [source] =>
      complainMisused tool 1 s!"missing destination file operand after '{source}'"
    -- two paths: into a directory, or to a new name
    | none, [source, target] =>
      if s.store.isDirectory target then into target [source]
      else copyFile tool options source target
    | none, paths =>
      let target := (paths.getLast?).getD ""
      if s.store.isDirectory target then into target paths.dropLast
      else complainOf 1 s!"{tool}: target '{target}': {wrong target}"

/-! ### Removal -/

/-- Removes files, and directories with `-r` or, when they are empty, with `-d`; with `-f` it does
not matter whether they are there. -/
def remove (words : List String) : Run Unit :=
  let table : OptionTable := ⟨"rRfdiIv", "", [("recursive", 'r'), ("force", 'f'), ("dir", 'd'),
    ("verbose", 'v')]⟩
  withOperands "rm" table words fun options paths => paths.forM fun path => do
    let s ← get
    let refuse (text : String) : Run Unit := complainOf 1 s!"rm: cannot remove '{path}': {text}"
    let whole := options.any fun (letter, _) => letter ∈ ['r', 'R']
    if s.store.isDirectory path then
      if ¬ whole ∧ ¬ hasOption options 'd' then refuse StoreFault.directory.message
      else if ¬ whole ∧ ¬ (s.store.entries path).isEmpty then refuse "Directory not empty"
      else
        changeStore (·.remove path)
        if hasOption options 'v' then sayLine s!"removed directory '{path}'"
    else if s.store.isFile path then
      changeStore (·.remove path)
      if hasOption options 'v' then sayLine s!"removed '{path}'"
    else if ¬ hasOption options 'f' then refuse (s.store.absence path).message

/-! ### Directories -/

/-- Makes directories, with `-p` also those on the way, and says so with `-v`. -/
def makeDirectories (words : List String) : Run Unit :=
  let table : OptionTable := ⟨"pv", "m", [("parents", 'p'), ("verbose", 'v'), ("mode", 'm')]⟩
  withOperands "mkdir" table words fun options paths => paths.forM fun path => do
    let parts := pathParts path
    let front := if path.startsWith "/" then "/" else ""
    let steps := (List.range parts.length).map fun n =>
      front ++ "/".intercalate (parts.take (n + 1))
    let onTheWay := hasOption options 'p'
    (if onTheWay then steps else [path]).forM fun step => do
      let s ← get
      let refuse (text : String) : Run Unit :=
        complainOf 1 s!"mkdir: cannot create directory '{step}': {text}"
      if s.store.isDirectory step then
        if ¬ onTheWay then refuse "File exists"
      else if s.store.isFile step then refuse "File exists"
      else
        let step' := if step.endsWith "/" then (step.dropEnd 1).toString else step
        match s.store.hindrance? step' with
        | some fault => refuse fault.message
        | none =>
          changeStore (·.makeDirectory step)
          if hasOption options 'v' then sayLine s!"mkdir: created directory '{step}'"

/-- Removes empty directories, with `-p` also those on the way. -/
def removeDirectories (words : List String) : Run Unit :=
  let table : OptionTable := ⟨"pv", "", [("parents", 'p'), ("verbose", 'v')]⟩
  withOperands "rmdir" table words fun options paths => paths.forM fun path => do
    let parts := pathParts path
    let front := if path.startsWith "/" then "/" else ""
    let steps := ((List.range parts.length).map fun n =>
      front ++ "/".intercalate (parts.take (n + 1))).reverse
    (if hasOption options 'p' then steps else [path]).forM fun step => do
      let s ← get
      let refuse (text : String) : Run Unit :=
        complainOf 1 s!"rmdir: failed to remove '{step}': {text}"
      if s.store.isFile step then refuse StoreFault.noDirectory.message
      else if ¬ s.store.isDirectory step then refuse (s.store.absence step).message
      else if ¬ (s.store.entries step).isEmpty then refuse "Directory not empty"
      else changeStore (·.remove step)

/-- Makes an empty file, or a directory with `-d`, and prints its name, in which the last marks of a
template are replaced. -/
def makeTemporary (words : List String) : Run Unit := do
  setStatus 0
  let table : OptionTable := ⟨"duqt", "p", [("directory", 'd'), ("dry-run", 'u'), ("quiet", 'q'),
    ("tmpdir", 'p')]⟩
  match table.split (words.foldl (fun n word => n + word.length + 1) 1) words with
  | .error fault => complainMisused "mktemp" 1 fault.message
  | .ok (options, operands) =>
    let s ← get
    let template := operands.headD "tmp.XXXXXXXXXX"
    -- the last run of marks in the template is filled; what is behind it is an ending
    let marks := (template.toList.reverse.dropWhile (· ≠ 'X')).takeWhile (· = 'X')
    let ending := template.toList.reverse.takeWhile (· ≠ 'X')
    if marks.length < 3 then complainOf 1 s!"mktemp: too few X's in template '{template}'"
    else
      -- not random: a number that grows with what is there
      let number := (toString (s.store.files.length + s.store.directories.length)).toList
      let digits := List.replicate (marks.length - number.length) '0' ++ number
      let name := String.ofList
        ((template.toList.reverse.drop (ending.length + marks.length)).reverse ++
          digits.take marks.length ++ ending.reverse)
      let inTmp := operands.isEmpty ∨ hasOption options 't' ∨ hasOption options 'p'
      let path := if inTmp then (optionValue? options 'p').getD "/tmp" ++ "/" ++ name else name
      match s.store.hindrance? path with
      | some fault =>
        complainOf 1 s!"mktemp: failed to create file via template '{template}': {fault.message}"
      | none =>
        if ¬ hasOption options 'u' then
          changeStore fun store =>
            if hasOption options 'd' then store.makeDirectory path else store.write path []
        sayLine path

/-! ### Modes -/

/-- Whether a mode lets a file be run or not; nothing where it leaves that as it is. -/
def runsByMode? (mode : String) : Option (Option Bool) :=
  let chars := mode.toList
  if chars ≠ [] ∧ chars.all isOctal then some (some (chars.any fun c => c.toNat % 2 = 1))
  else
    let one (clause : String) : Option (Option Bool) :=
      let chars := clause.toList.dropWhile fun c => c ∈ ['u', 'g', 'o', 'a']
      match chars with
      | sign :: letters =>
        if sign ∉ ['+', '-', '='] ∨ ¬ letters.all fun c => "rwxXst".toList.contains c then none
        else if letters.contains 'x' then some (some (sign ≠ '-'))
        else some (if sign = '=' then some false else none)
      | [] => none
    let clauses := (mode.splitOn ",").map one
    if clauses.any (·.isNone) then none
    else some ((clauses.filterMap fun clause => clause.join).getLast?)

/-- Lets files be run, or not. -/
def changeMode (words : List String) : Run Unit := do
  setStatus 0
  let isOption (word : String) : Bool :=
    word.startsWith "-" && (runsByMode? word).isNone && word ≠ "-"
  match words.filter fun word => !isOption word with
  | [] => complainMisused "chmod" 1 "missing operand"
  | [mode] => complainMisused "chmod" 1 s!"missing operand after '{mode}'"
  | mode :: paths =>
    match runsByMode? mode with
    | none => complainMisused "chmod" 1 s!"invalid mode: '{mode}'"
    | some runs => paths.forM fun path => do
      let store := (← get).store
      if ¬ store.isFile path then
        if ¬ store.isDirectory path then
          complainOf 1 s!"chmod: cannot access '{path}': {(store.absence path).message}"
      else
        match runs with
        | none => return
        | some runs => changeStore fun store =>
          let others := store.programs.filter (· ≠ store.full path)
          { store with programs := if runs then store.full path :: others else others }

/-! ### Names -/

/-- Prints the names of files, and of what is in directories: `-a` and `-A` also those that begin
with a point, `-d` directories themselves, `-r` in the other order, and `-F` and `-p` with a slash
behind directories. -/
def list (words : List String) : Run Unit := do
  setStatus 0
  let table : OptionTable := ⟨"1aAdrFplRtSsihnogkmxCGbqNQcuUvLHB", "wIT", [("all", 'a'),
    ("almost-all", 'A'), ("directory", 'd'), ("reverse", 'r'), ("classify", 'F')]⟩
  match table.split (words.foldl (fun n word => n + word.length + 1) 1) words with
  | .error fault => complainMisused "ls" 2 fault.message
  | .ok (options, operands) =>
    let s ← get
    let paths := if operands.isEmpty then ["."] else operands
    let isThere (path : String) : Bool := s.store.isDirectory path || (s.opened? path).isSome
    let sorted (names : List String) : List String :=
      let names := names.mergeSort fun a b => !decide (b < a)
      if hasOption options 'r' then names.reverse else names
    let opened (path : String) : Bool := s.store.isDirectory path && !hasOption options 'd'
    let marked (path name : String) : String :=
      let marks := hasOption options 'F' || hasOption options 'p'
      if marks && s.store.isDirectory path then name ++ "/" else name
    (paths.filter fun path => !isThere path).forM fun path =>
      complainOf 2 s!"ls: cannot access '{path}': {(s.store.absence path).message}"
    -- files come first, then the directories, each with its entries
    let files := sorted (paths.filter fun path => isThere path && !opened path)
    files.forM fun path => sayLine (marked path path)
    let directories := sorted (paths.filter opened)
    directories.zipIdx.forM fun (directory, i) => do
      if 1 < paths.length then
        if 0 < i ∨ ¬ files.isEmpty then sayLine ""
        sayLine s!"{directory}:"
      let own := if hasOption options 'a' then [".", ".."] else []
      let hidden := hasOption options 'a' || hasOption options 'A'
      let names := (s.store.entries directory).filter fun name => hidden || !name.startsWith "."
      (sorted (own ++ names)).forM fun name => sayLine (marked (directory ++ "/" ++ name) name)

/-- The tool that changes files and has a name. -/
def filing? (name : String) : Option (List String → Run Unit) :=
  match name with
  | "tee" => some tee
  | "cp" | "mv" => some (copyFiles name)
  | "rm" => some remove
  | "touch" => some touch
  | "mktemp" => some makeTemporary
  | "mkdir" => some makeDirectories
  | "rmdir" => some removeDirectories
  | "chmod" => some changeMode
  | "ls" => some list
  | _ => none

end Shell

end TreeOutline
