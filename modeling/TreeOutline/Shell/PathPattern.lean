import TreeOutline.Shell.Glob
import TreeOutline.Shell.Store

namespace TreeOutline

/-!
# Patterns for paths

* `Shell.isPathPattern` — whether a word stands for the paths that it matches.
* `Shell.letterParts` — letters between slashes; joined again they are what they were
  (`intercalate_letterParts`).
* `Shell.Store.matching` — those paths, in order.
-/

namespace Shell

/-- Whether letters have something in them that does not stand for itself in a pattern. -/
def isPathPattern (letters : List Letter) : Bool :=
  (Glob.ofLetters letters).any fun
    | .letter _ => false
    | _ => true

/-- Letters between slashes. -/
def letterParts (letters : List Letter) : List (List Letter) :=
  letters.foldr (fun letter parts =>
    if letter.1 = '/' then [] :: parts
    else
      match parts with
      | [] => [[letter]]
      | part :: rest => (letter :: part) :: rest) [[]]

/-- There is always a part, if only an empty one. -/
theorem letterParts_ne_nil (letters : List Letter) : letterParts letters ≠ [] := by
  cases letters with
  | nil => simp [letterParts]
  | cons letter letters =>
    simp only [letterParts, List.foldr_cons]
    split
    · simp
    · split <;> simp

/-- **Parts joined by slashes** are the characters of the letters again. -/
theorem intercalate_letterParts (letters : List Letter) :
    ['/'].intercalate ((letterParts letters).map (·.map (·.1))) = letters.map (·.1) := by
  induction letters with
  | nil => rfl
  | cons letter letters ih =>
    rw [letterParts, List.foldr_cons, ← letterParts]
    obtain ⟨part, rest, heq⟩ := List.exists_cons_of_ne_nil (letterParts_ne_nil letters)
    rw [heq] at ih ⊢
    split
    next hslash =>
      rw [List.map_cons, List.map_cons, List.intercalate_cons_cons, ← List.map_cons, ih,
        List.map_cons, hslash]
      rfl
    next =>
      cases rest with
      | nil => simpa using ih
      | cons next rest =>
        simp only [List.map_cons, List.intercalate_cons_cons] at ih ⊢
        rw [← ih]
        simp

/-- No part has a slash in it. -/
theorem ne_slash_of_mem_letterParts {letters part : List Letter}
    (hpart : part ∈ letterParts letters) : ∀ letter ∈ part, letter.1 ≠ '/' := by
  induction letters generalizing part with
  | nil => simp_all [letterParts]
  | cons letter letters ih =>
    rw [letterParts, List.foldr_cons, ← letterParts] at hpart
    split at hpart
    next =>
      rcases List.mem_cons.1 hpart with rfl | hpart
      · simp
      · exact ih hpart
    next hslash =>
      obtain ⟨first, rest, heq⟩ := List.exists_cons_of_ne_nil (letterParts_ne_nil letters)
      rw [heq] at hpart ih
      rcases List.mem_cons.1 hpart with rfl | hpart
      · exact List.forall_mem_cons.2 ⟨hslash, ih List.mem_cons_self⟩
      · exact ih (List.mem_cons_of_mem first hpart)

namespace Store

/-- The paths behind a front that parts of a pattern match one after the other.  A name that begins
with a point is matched only where the point is written. -/
def matchingBehind (s : Store) : (front : String) → List (List Letter) → List String
  | front, [] => [front]
  | front, part :: rest =>
    let named := String.ofList (part.map (·.1))
    let names :=
      if ¬ isPathPattern part then [named]
      else (s.entries (if front = "" then "." else front)).filter fun name =>
        Glob.accepts (Glob.ofLetters part) name.toList &&
          (!name.startsWith "." || named.startsWith ".")
    (names.filter fun name =>
      if rest.isEmpty then name = "" ∨ s.isDirectory (front ++ name) ∨ s.isFile (front ++ name)
      else name = "" ∨ s.isDirectory (front ++ name)).flatMap fun name =>
        if rest.isEmpty then [front ++ name] else matchingBehind s (front ++ name ++ "/") rest

/-- The paths that a pattern matches, in order. -/
def matching (s : Store) (letters : List Letter) : List String :=
  (s.matchingBehind "" (letterParts letters)).mergeSort fun a b => !decide (b < a)

end Store

end Shell

end TreeOutline
