import Mathlib.Data.String.Basic
import TreeOutline.Files.Basic

namespace TreeOutline

/-!
# Files by their names

A path without directories names a file of the directory itself, and no device.

* `Files.partsOf_of_not_mem` — the one part of such a path; `Files.locate_of_partsOf` — the place
  that it leads to.
* `Files.readText_of_lookup`, `Files.isFile_of_locate` — what is found there.
-/

namespace Files

/-- Scanning a rest without a slash finds no place to split at. -/
theorem splitOnAux_of_not_mem {front rest : List Char} (h : '/' ∉ rest) :
    (String.ofList (front ++ rest)).splitOnAux "/" 0 ⟨String.utf8Len front⟩ 0 [] =
      [String.ofList (front ++ rest)] := by
  -- the position is the length of the part that was looked at, which grows by each character
  induction rest generalizing front with
  | nil =>
    have hextract := String.extract_of_valid [] front []
    rw [String.utf8Len_nil, Nat.zero_add, List.nil_append, List.append_nil] at hextract
    rw [String.splitOnAux, if_pos ((String.atEnd_of_valid front []).2 rfl), List.append_nil]
    exact congrArg (fun part => [part]) hextract
  | cons c rest ih =>
    obtain ⟨hc, hrest⟩ := List.ne_and_not_mem_of_not_mem_cons h
    have hget : ¬ (String.Pos.Raw.get (String.ofList (front ++ c :: rest))
        ⟨String.utf8Len front⟩ == String.Pos.Raw.get "/" 0) = true := by
      rw [String.get_of_valid]
      exact fun heq => hc (LawfulBEq.eq_of_beq heq).symm
    have hnext : ((String.Pos.Raw.mk (String.utf8Len front)).unoffsetBy 0).next
        (String.ofList (front ++ c :: rest)) = ⟨String.utf8Len (front ++ [c])⟩ := by
      rw [String.utf8Len_append, String.utf8Len_cons, String.utf8Len_nil, Nat.zero_add]
      exact String.next_of_valid front c rest
    rw [String.splitOnAux,
      if_neg ((String.atEnd_of_valid front _).not.2 (List.cons_ne_nil c rest)), if_neg hget, hnext,
      List.append_cons]
    exact ih hrest

/-- A name without a slash is its only part. -/
theorem partsOf_of_not_mem {name : String} (hslash : '/' ∉ name.toList)
    (hname : name ≠ "" ∧ name ≠ ".") : partsOf name = [name] := by
  have hsplit : name.splitOn "/" = [name] := by
    have h : (String.ofList ([] ++ name.toList)).splitOnAux "/" 0 0 0 [] =
        [String.ofList ([] ++ name.toList)] := splitOnAux_of_not_mem hslash
    rw [List.nil_append, String.ofList_toList] at h
    exact h
  have hstart : name.startsWith "/" = false := by
    rw [← Bool.not_eq_true, String.startsWith_string_iff]
    exact fun hstarts => hslash (hstarts.subset (by decide))
  rw [partsOf, hsplit, hstart, if_neg Bool.false_ne_true]
  simp [hname.1, hname.2]

/-- The parts of an absolute path begin with the root. -/
theorem head?_partsOf {path : String} (h : path.startsWith "/" = true) :
    (partsOf path).head? = some rootPart := by
  rw [partsOf, if_pos h]
  rfl

/-- No device has a place that does not begin at the root. -/
theorem devices_contains_eq_false {place : List String} (h : place.head? ≠ some rootPart) :
    devices.contains place = false := by
  rw [List.contains_eq_mem, decide_eq_false_iff_not, devices, List.mem_map]
  rintro ⟨path, hpath, rfl⟩
  refine h (head?_partsOf ?_)
  rw [String.startsWith_string_iff]
  clear h
  revert path
  decide

/-- A name without directories leads to itself. -/
theorem locate_of_partsOf (files : Files) {name : String} (hparts : partsOf name = [name])
    (hname : name ≠ "" ∧ name ≠ "..") (hchars : name.toList.contains '\x00' = false)
    (hlength : name.utf8ByteSize ≤ longestName) : files.locate name = .ok [name] := by
  have hwalk : files.walk [] [name] = .ok [name] := by
    have hdirectory : files.isDirectory [] = true := by simp [isDirectory, isAround]
    rw [walk, if_pos hdirectory, if_neg (by omega), if_pos (.inl hname.2)]
    rfl
  have hlong : ¬ longestPath < name.utf8ByteSize := by
    unfold longestName at hlength
    unfold longestPath
    omega
  rw [locate, if_neg (by simp [hname.1]), hchars, if_neg Bool.false_ne_true, if_neg hlong, hparts,
    hwalk]

/-- A file of the directory itself is read by its name. -/
theorem readText_of_lookup {files : Files} {name text : String} {contents : Bytes}
    (hplace : files.locate name = .ok [name]) (hroot : name ≠ rootPart)
    (hfile : asksDirectory name = false) (hlookup : files.entries.lookup [name] = some contents)
    (htext : decodeText? contents = some text) : files.readText name = .ok text := by
  have hcontents : files.contents? [name] = some contents := by
    have hdevice : devices.contains [name] = false :=
      devices_contains_eq_false (by simpa using hroot)
    rw [contents?, hdevice, if_neg Bool.false_ne_true, hlookup]
  have hfind : files.find name = .ok (.file contents) := by
    simp only [find, hplace, bind, Except.bind, hcontents, hfile, Bool.false_eq_true, if_false]
  rw [readText, read, hfind]
  show textOfBytes contents = .ok text
  rw [textOfBytes, htext]

/-- A name without a slash asks for no directory. -/
theorem asksDirectory_of_not_mem {name : String} (hslash : '/' ∉ name.toList) :
    asksDirectory name = false := by
  have hends {suffix : String} (hmem : '/' ∈ suffix.toList) : name.endsWith suffix = false := by
    show name.toSlice.endsWith suffix = false
    rw [String.Slice.endsWith_string_eq_false_iff, String.copy_toSlice]
    exact fun hsuffix => hslash (hsuffix.subset hmem)
  rw [asksDirectory, hends (by decide), hends (by decide), Bool.or_false]

/-- Whether there is a file under a name is seen in the list of files. -/
theorem isFile_of_locate {files : Files} {name : String} (hplace : files.locate name = .ok [name])
    (hslash : '/' ∉ name.toList) : files.isFile name = (files.entries.lookup [name]).isSome := by
  rw [isFile, hplace, asksDirectory_of_not_mem hslash]
  exact Bool.and_true _

end Files

end TreeOutline
