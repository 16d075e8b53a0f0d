import TreeOutline.Files.Basic

namespace TreeOutline

/-!
# Files and directories

* `Shell.plainPath` — a path from the root on, without detours; `plainParts_plain` — so it is.
* `Shell.Store` — files by their paths, the directories there are, and the one where relative paths
  begin.
* `Shell.Store.contents` — what a file holds, or why it cannot be read.
* `Shell.Store.write`, `append`, `remove` — changes, with what files hold after them.
* `Shell.Store.hindrance?` — why a file cannot be made.
* `Shell.Store.entries`, `Shell.Store.below` — what a directory holds.
-/

namespace Shell

/-! ### Paths -/

/-- The parts of a path. -/
def pathParts (path : String) : List String := (path.splitOn "/").filter (· ≠ "")

/-- A path from the root on. -/
def rooted (parts : List String) : String := "/" ++ "/".intercalate parts

/-- The parts of a path from the root on, without those that stay where they are or lead back. -/
def plainParts (here path : String) : List String :=
  let all := if path.startsWith "/" then pathParts path else pathParts here ++ pathParts path
  (all.foldl (fun (parts : List String) part =>
    if part = "." then parts else if part = ".." then parts.drop 1 else part :: parts) []).reverse

/-- No part of a path is empty. -/
theorem ne_empty_of_mem_pathParts {path part : String} (h : part ∈ pathParts path) :
    part ≠ "" := by
  simpa using (List.mem_filter.1 h).2

/-- Nothing in a plain path stays where it is or leads back. -/
theorem plainParts_plain (here path : String) :
    ∀ part ∈ plainParts here path, part ≠ "" ∧ part ≠ "." ∧ part ≠ ".." := by
  intro part hpart
  unfold plainParts at hpart
  rw [List.mem_reverse] at hpart
  -- the parts that are kept so far are plain, whichever one comes next
  refine List.foldlRecOn _ _ (motive := fun parts => ∀ part ∈ parts, part ≠ "" ∧ part ≠ "." ∧
    part ≠ "..") (by simp) (fun parts hparts next hnext => ?_) part hpart
  have hnext : next ≠ "" := by
    split at hnext
    next => exact ne_empty_of_mem_pathParts hnext
    next =>
      rcases List.mem_append.1 hnext with h | h
      · exact ne_empty_of_mem_pathParts h
      · exact ne_empty_of_mem_pathParts h
  split
  next => exact hparts
  next hhere =>
    split
    next => exact fun other hother => hparts other (List.mem_of_mem_drop hother)
    next hback => exact List.forall_mem_cons.2 ⟨⟨hnext, hhere, hback⟩, hparts⟩

/-- A path from the root on, without parts that stay where they are or lead back. -/
def plainPath (here path : String) : String := rooted (plainParts here path)

/-- A path from the root on leads to the same from everywhere. -/
theorem plainPath_of_rooted {path : String} (h : path.startsWith "/" = true)
    (here other : String) : plainPath here path = plainPath other path := by
  unfold plainPath plainParts
  rw [if_pos h, if_pos h]

/-- The last part of a path. -/
def lastPart (path : String) : String := ((pathParts path).getLast?).getD "/"

/-! ### Files -/

/-- Why a path does not lead to what is asked for. -/
inductive StoreFault where
  | absent
  | noDirectory
  | directory
deriving DecidableEq, Repr

/-- The usual wording of a fault. -/
def StoreFault.message : StoreFault → String
  | .absent => "No such file or directory"
  | .noDirectory => "Not a directory"
  | .directory => "Is a directory"

/-- Files and directories by their plain paths, those files that may be run as programs, and the
directory where relative paths begin. -/
structure Store where
  here : String
  files : List (String × List Char)
  directories : List String
  programs : List String

/-- Without the entries of a key the other keys keep what they have. -/
theorem lookup_filter_ne {κ α : Type} [BEq κ] [LawfulBEq κ] [DecidableEq κ] (key other : κ)
    (entries : List (κ × α)) :
    (entries.filter (·.1 ≠ key)).lookup other =
      if other = key then none else entries.lookup other := by
  induction entries with
  | nil => simp
  | cons entry rest ih =>
    obtain ⟨name, value⟩ := entry
    by_cases hname : name = key
    · subst hname
      rw [List.filter_cons_of_neg (by simp), ih, List.lookup_cons]
      by_cases hother : other = name
      · rw [if_pos hother, if_pos hother]
      · rw [if_neg hother, if_neg hother, beq_false_of_ne hother]
    · rw [List.filter_cons_of_pos (by simpa using hname), List.lookup_cons, List.lookup_cons, ih]
      by_cases hother : other = name
      · simp [hother, hname]
      · rw [beq_false_of_ne hother]

/-- A key has an entry exactly where something is found under it. -/
theorem any_eq_isSome_lookup {κ α : Type} [BEq κ] [LawfulBEq κ] [DecidableEq κ]
    (entries : List (κ × α)) (key : κ) :
    entries.any (·.1 = key) = (entries.lookup key).isSome := by
  rw [Bool.eq_iff_iff, List.any_eq_true, List.lookup_isSome_iff]
  exact exists_congr fun entry => and_congr_right fun _ => by
    rw [decide_eq_true_eq, beq_iff_eq, eq_comm]

namespace Store

variable {s : Store} {path other : String}

/-- The files that there are at the beginning, among the usual directories and an empty one. -/
def initial (files : List (String × List Char)) : Store :=
  let usual := Files.standardDirectories.map fun parts => rooted (parts.drop 1)
  ⟨"/work", files, "/work" :: usual, []⟩

/-- The plain path that a path leads to. -/
def full (s : Store) (path : String) : String := plainPath s.here path

/-- The plain path of the directory that holds what a path leads to. -/
def parent (s : Store) (path : String) : String := rooted (plainParts s.here path).dropLast

/-- Whether a path leads to a directory. -/
def isDirectory (s : Store) (path : String) : Bool :=
  path ≠ "" && s.directories.contains (s.full path)

/-- Whether a path leads to a file. -/
def isFile (s : Store) (path : String) : Bool :=
  path ≠ "" && !path.endsWith "/" && s.files.any (·.1 = s.full path)

/-- Why a path leads to nothing: whether there is a file where it asks for a directory. -/
def absence (s : Store) (path : String) : StoreFault :=
  let fronts := (List.range (plainParts s.here path).length).map fun n =>
    rooted ((plainParts s.here path).take (n + if path.endsWith "/" then 1 else 0))
  if path ≠ "" ∧ fronts.any fun front => s.files.any (·.1 = front) then .noDirectory else .absent

/-- What a file holds, or why it cannot be read. -/
def contents (s : Store) (path : String) : Except StoreFault (List Char) :=
  if s.isDirectory path then .error .directory
  else
    match if s.isFile path then s.files.lookup (s.full path) else none with
    | some text => .ok text
    | none => .error (s.absence path)

/-- What a file holds, if there is one. -/
def contents? (s : Store) (path : String) : Option (List Char) := (s.contents path).toOption

/-- What a file holds is kept under its plain path. -/
theorem contents?_eq (s : Store) (path : String) :
    s.contents? path =
      if path = "" ∨ path.endsWith "/" = true ∨ s.isDirectory path = true then none
      else s.files.lookup (s.full path) := by
  by_cases hnone : path = "" ∨ path.endsWith "/" = true ∨ s.isDirectory path = true
  · rw [if_pos hnone]
    unfold contents? contents
    split
    next => rfl
    next hdirectory =>
      have hfile : s.isFile path = false := by
        unfold isFile
        rcases hnone with hempty | hends | h
        · simp [hempty]
        · simp [hends]
        · exact absurd h hdirectory
      rw [hfile]
      rfl
  · rw [if_neg hnone]
    obtain ⟨hempty, hends, hdirectory⟩ := by simpa only [not_or] using hnone
    have hfile : s.isFile path = (s.files.lookup (s.full path)).isSome := by
      unfold isFile
      rw [any_eq_isSome_lookup]
      simp [hempty, hends]
    unfold contents? contents
    rw [if_neg hdirectory, hfile]
    cases s.files.lookup (s.full path) with
    | none => rfl
    | some text => rfl

/-- Why a file cannot be made. -/
def hindrance? (s : Store) (path : String) : Option StoreFault :=
  if path = "" then some .absent
  else if s.isDirectory path ∨ path.endsWith "/" then some .directory
  else if s.directories.contains (s.parent path) then none
  else some (s.absence path)

/-- A file can be written at a path that names no directory and lies in one. -/
theorem hindrance?_eq_none_iff : s.hindrance? path = none ↔
    path ≠ "" ∧ ¬(s.isDirectory path = true ∨ path.endsWith "/" = true) ∧
      s.directories.contains (s.parent path) = true := by
  unfold hindrance?
  split
  next hempty => simp [hempty]
  next hempty =>
    split
    next hends => simp [hends]
    next hends =>
      split
      next hparent => exact iff_of_true rfl ⟨hempty, hends, hparent⟩
      next hparent => exact iff_of_false (by simp) fun h => hparent h.2.2

/-- Makes a file hold a text. -/
def write (s : Store) (path : String) (text : List Char) : Store :=
  let path := s.full path
  { s with files := (path, text) :: s.files.filter (·.1 ≠ path) }

/-- Writing a file makes no directory and takes none away. -/
@[simp] theorem isDirectory_write (s : Store) (path : String) (text : List Char) (other : String) :
    (s.write path text).isDirectory other = s.isDirectory other := rfl

/-- What files hold after one of them is written. -/
theorem lookup_write (s : Store) (path : String) (text : List Char) (other : String) :
    (s.write path text).files.lookup other =
      if other = s.full path then some text else s.files.lookup other := by
  show List.lookup other ((s.full path, text) :: s.files.filter _) = _
  rw [List.lookup_cons, lookup_filter_ne]
  by_cases hother : other = s.full path
  · simp [hother]
  · rw [if_neg hother, if_neg hother, beq_false_of_ne hother]

/-- **What is written can be read**, where a file can be made. -/
theorem contents?_write_self (hfree : s.hindrance? path = none) (text : List Char) :
    (s.write path text).contents? path = some text := by
  obtain ⟨hempty, hends, -⟩ := hindrance?_eq_none_iff.1 hfree
  rw [contents?_eq, isDirectory_write, lookup_write, if_neg]
  · exact if_pos rfl
  · rintro (h | h | h)
    · exact hempty h
    · exact hends (.inr h)
    · exact hends (.inl h)

/-- Other files keep what they hold. -/
theorem contents?_write_of_ne (hother : s.full other ≠ s.full path) (text : List Char) :
    (s.write path text).contents? other = s.contents? other := by
  rw [contents?_eq, contents?_eq, isDirectory_write, lookup_write,
    if_neg (show (s.write path text).full other ≠ s.full path from hother)]
  rfl

/-- Writing a file hinders no other one. -/
theorem hindrance?_write (hfree : s.hindrance? other = none) (path : String) (text : List Char) :
    (s.write path text).hindrance? other = none := by
  obtain ⟨hempty, hends, hparent⟩ := hindrance?_eq_none_iff.1 hfree
  exact hindrance?_eq_none_iff.2 ⟨hempty, hends, hparent⟩

/-- Adds to the end of a file, which need not be there. -/
def append (s : Store) (path : String) (text : List Char) : Store :=
  s.write path ((s.contents? path).getD [] ++ text)

/-- **Adding to a file twice** is adding both texts at once. -/
theorem contents?_append_append (hfree : s.hindrance? path = none) (text more : List Char) :
    ((s.append path text).append path more).contents? path =
      (s.append path (text ++ more)).contents? path := by
  have hfirst : (s.append path text).contents? path =
      some ((s.contents? path).getD [] ++ text) := contents?_write_self hfree _
  unfold append at hfirst ⊢
  rw [contents?_write_self (hindrance?_write hfree path _), hfirst,
    contents?_write_self hfree, Option.getD_some, List.append_assoc]

/-- The plain paths of a directory and of all below it. -/
def below (s : Store) (path : String) : List String :=
  let path := s.full path
  let front := if path = "/" then path else path ++ "/"
  (s.directories ++ s.files.map (·.1)).filter fun p => p = path ∨ (p ≠ "/" ∧ p.startsWith front)

/-- The names of what a directory holds, in order. -/
def entries (s : Store) (path : String) : List String :=
  let path := s.full path
  let names := (s.directories ++ s.files.map (·.1)).filterMap fun p =>
    if p ≠ "/" ∧ s.parent p = path then some (lastPart p) else none
  names.mergeSort fun a b => !decide (b < a)

/-- Removes a file, or a directory and all below it. -/
def remove (s : Store) (path : String) : Store :=
  let gone := s.below path
  { s with
    files := s.files.filter fun (p, _) => !gone.contains p
    directories := s.directories.filter fun p => !gone.contains p
    programs := s.programs.filter fun p => !gone.contains p }

/-- A path leads to itself and to what is below it. -/
theorem mem_below_self {s : Store} {path : String}
    (h : s.full path ∈ s.directories ++ s.files.map (·.1)) : s.full path ∈ s.below path :=
  List.mem_filter.2 ⟨h, by simp⟩

/-- **What is removed is gone**, be it a file or a directory. -/
theorem isFile_remove (s : Store) (path : String) : (s.remove path).isFile path = false := by
  rw [← Bool.not_eq_true]
  intro hfile
  unfold isFile at hfile
  rw [Bool.and_eq_true, List.any_eq_true] at hfile
  obtain ⟨-, entry, hentry, hpath⟩ := hfile
  obtain ⟨hmem, hkept⟩ := List.mem_filter.1 hentry
  have hpath : entry.1 = s.full path := of_decide_eq_true hpath
  have hbelow : s.full path ∈ s.below path :=
    mem_below_self (List.mem_append_right _ (hpath ▸ List.mem_map_of_mem hmem))
  simp [hpath, hbelow] at hkept

/-- What has been removed is no directory. -/
theorem isDirectory_remove (s : Store) (path : String) :
    (s.remove path).isDirectory path = false := by
  rw [← Bool.not_eq_true]
  intro hdirectory
  unfold isDirectory at hdirectory
  rw [Bool.and_eq_true, List.contains_iff_mem] at hdirectory
  obtain ⟨hmem, hkept⟩ := List.mem_filter.1 hdirectory.2
  have hbelow : s.full path ∈ s.below path := mem_below_self (List.mem_append_left _ hmem)
  have hfull : (s.remove path).full path = s.full path := rfl
  simp [hfull, hbelow] at hkept

/-- Makes a directory. -/
def makeDirectory (s : Store) (path : String) : Store :=
  { s with directories := s.full path :: s.directories }

/-- Copies a file, or a directory and all below it, to another path. -/
def copy (s : Store) (source target : String) : Store :=
  let source := s.full source
  let target := s.full target
  let moved (path : String) : String := target ++ (path.drop source.length).toString
  (s.below source).foldl (fun s path =>
    match s.files.lookup path with
    | some text => s.write (moved path) text
    | none => { s with directories := moved path :: s.directories.erase (moved path) }) s

end Store

end Shell

end TreeOutline
