import Mathlib.Data.List.Induction
import TreeOutline.Settings.Config

namespace TreeOutline

/-!
# Settings over settings

Putting a setting at an address changes one entry of one table.  What it does there is said once,
and everything that follows is said of single entries.

* `Setting.overlay` — a setting over what stands there: a table is merged into it, anything else
  replaces it; `Setting.overlayAll` — several of them, one after the other.
* `Setting.child?` — the setting under a name; `Setting.child?_merge`, `child?_mergeAll`,
  `child?_setAt_root`, `child?_setAt_child`, `child?_setAt_of_ne` — what becomes of it.
* `Setting.Counts`, `Setting.overlayAll_cases` — **of several settings the last one stands**, where
  tables without entries do not count.
* `Setting.toVariant_mergeAll` — a table that is a variant's name is one wherever it was put.
-/

namespace Setting

/-- A setting over what stands there, as it is entered under a name. -/
def overlay (below : Option Setting) : (incoming : Setting) → Setting
  | .table _ entries => mergeAll (below.getD noEntries) entries
  | other => other

/-- Settings over what stands there, one after the other. -/
def overlayAll (below : Option Setting) (given : List Setting) : Option Setting :=
  given.foldl (fun below incoming => some (overlay below incoming)) below

/-- The setting under a name, where there is a table with this entry. -/
def child? (name : String) (s : Setting) : Option Setting := field? name s.asTable.2

/-- The settings among these that are put under a name. -/
def named (name : String) (entries : List (String × Setting)) : List Setting :=
  (entries.filter fun entry => plainLower entry.1 = name).map Prod.snd

/-- Whether a setting is a table. -/
def IsTable (s : Setting) : Prop := ∃ origin entries, s = .table origin entries

/-! ### Entries -/

/-- The field of entries after one has been put: the new value under its name, as before elsewhere.
-/
theorem field?_putEntry (name other : String) (value : Setting)
    (entries : List (String × Setting)) :
    field? other (putEntry name value entries) =
      if name = other then some value else field? other entries := by
  simp only [field?]
  -- an entry takes the place of the first of its name, or goes to the end
  induction entries with
  | nil => grind [putEntry]
  | cons entry rest ih =>
    obtain ⟨known, old⟩ := entry
    rw [putEntry]
    split
    · next h => subst h; grind
    · next h => grind

/-- Merging an entry makes a table with the overlaid value under the name in small letters. -/
theorem merge_eq (base : Setting) (name : String) (incoming : Setting) :
    base.merge name incoming = .table base.asTable.1
      (putEntry (plainLower name) (overlay (base.child? (plainLower name)) incoming)
        base.asTable.2) := by
  cases incoming <;> simp only [merge, overlay, child?]

/-- The child of a table after an entry has been merged into it. -/
theorem child?_merge (base : Setting) (name other : String) (incoming : Setting) :
    (base.merge name incoming).child? other =
      if plainLower name = other then some (overlay (base.child? other) incoming)
      else base.child? other := by
  rw [merge_eq]
  show field? other (putEntry _ _ _) = _
  rw [field?_putEntry]
  split
  · next h => rw [h]
  · rfl

/-- Merging a table changes each entry by what the table has under its name. -/
theorem child?_mergeAll (name : String) (entries : List (String × Setting)) (base : Setting) :
    (mergeAll base entries).child? name = overlayAll (base.child? name) (named name entries) := by
  induction entries generalizing base with
  | nil => rfl
  | cons entry rest ih =>
    obtain ⟨other, incoming⟩ := entry
    rw [mergeAll, ih, child?_merge]
    by_cases h : plainLower other = name <;> simp [named, overlayAll, h]

/-- The child of a table after an entry has been changed. -/
theorem child?_changeEntry (name other : String) (change : Setting → Setting) (s : Setting) :
    (s.changeEntry name change).child? other =
      if plainLower name = other then some (change ((s.child? other).getD null))
      else s.child? other := by
  show field? other (putEntry _ _ _) = _
  rw [field?_putEntry]
  split
  · next h => rw [← h]; rfl
  · rfl

/-! ### Tables -/

/-- Whatever a setting was, merging an entry makes it a table. -/
theorem isTable_merge (base : Setting) (name : String) (incoming : Setting) :
    (base.merge name incoming).IsTable := ⟨_, _, merge_eq base name incoming⟩

/-- A table stays one when entries are merged into it. -/
theorem IsTable.mergeAll {base : Setting} (h : base.IsTable) (entries : List (String × Setting)) :
    (mergeAll base entries).IsTable := by
  induction entries generalizing base with
  | nil => exact h
  | cons entry rest ih => exact ih (isTable_merge base entry.1 entry.2)

/-- Changing something inside makes a table of the root. -/
theorem isTable_changeAt (path : KeyPath) (change : Setting → Setting) (root : Setting) :
    (changeAt path change root).IsTable := by
  induction path generalizing change with
  | root name => exact ⟨_, _, rfl⟩
  | child parent name ih => exact ih _
  | item parent index ih => exact ih _

/-- So does setting something inside. -/
theorem isTable_setAt (path : KeyPath) (value root : Setting) :
    (setAt path value root).IsTable := by
  cases path with
  | root name => exact isTable_merge root name value
  | child parent name => exact isTable_changeAt parent _ root
  | item parent index => exact isTable_changeAt (.item parent index) _ root

end Setting

/-! ### Addresses -/

/-- The name of the outermost table's entry that an address leads into. -/
def KeyPath.top : KeyPath → String
  | .root name => plainLower name
  | .child parent _ => parent.top
  | .item parent _ => parent.top

namespace Setting

/-- A change inside one section leaves the others alone. -/
theorem child?_changeAt_of_ne {path : KeyPath} {name : String} (h : path.top ≠ name)
    (change : Setting → Setting) (root : Setting) :
    (changeAt path change root).child? name = root.child? name := by
  -- the change is wrapped on the way out, so it varies in the induction
  induction path generalizing change with
  | root other => exact (child?_changeEntry other name change root).trans (if_neg h)
  | child parent other ih => exact ih h _
  | item parent index ih => exact ih h _

/-- A setting at an address leaves the entries that the address does not lead into. -/
theorem child?_setAt_of_ne {path : KeyPath} {name : String} (h : path.top ≠ name)
    (value root : Setting) : (setAt path value root).child? name = root.child? name := by
  cases path with
  | root other => exact (child?_merge root other name value).trans (if_neg h)
  | child parent other =>
    have hparent : parent.top ≠ name := h
    exact child?_changeAt_of_ne hparent _ root
  | item parent index => exact child?_changeAt_of_ne h _ root

/-- Setting a section lays the value over what is there. -/
theorem child?_setAt_root (name : String) (value root : Setting) :
    (setAt (.root name) value root).child? (plainLower name) =
      some (overlay (root.child? (plainLower name)) value) := by
  rw [setAt, child?_merge, if_pos rfl]

/-- Setting a field merges it into its section, or into a new one. -/
theorem child?_setAt_child (name inner : String) (value root : Setting) :
    (setAt (.child (.root name) inner) value root).child? (plainLower name) =
      some (((root.child? (plainLower name)).getD null).merge inner value) := by
  rw [setAt, changeAt, child?_changeEntry, if_pos rfl]

/-! ### What stands in the end -/

/-- Whether putting a setting anywhere changes what stands there; a table without entries does
not. -/
def Counts : Setting → Bool
  | .table _ [] => false
  | _ => true

/-- The last setting of several that counts, as it stands where nothing else does; otherwise what
was there before. -/
def last? (below : Option Setting) (given : List Setting) : Option Setting :=
  ((given.filter Counts).getLast?.map (overlay none)).or below

/-- The last of two lists of settings is that of the second one, over what the first one leaves. -/
theorem last?_append (below : Option Setting) (given more : List Setting) :
    last? below (given ++ more) = last? (last? below given) more := by
  simp only [last?, List.filter_append, List.getLast?_append, Option.map_or, Option.or_assoc]

/-- Of several settings the last one that counts stands in the end.  Only a table may have got more
entries from what was there; and where nothing was there and nothing counts, an empty table may
stand. -/
theorem overlayAll_cases (below : Option Setting) (given : List Setting) :
    overlayAll below given = last? below given ∨
      last? below given = none ∧ overlayAll below given = some noEntries ∨
      ∃ base entry rest, overlayAll below given = some (mergeAll base (entry :: rest)) ∧
        last? below given = some (mergeAll noEntries (entry :: rest)) := by
  induction given using List.reverseRecOn with
  | nil => exact .inl rfl
  | append_singleton given incoming ih =>
    have hstep : overlayAll below (given ++ [incoming]) =
        some (overlay (overlayAll below given) incoming) := by simp [overlayAll]
    rw [hstep, last?_append]
    match incoming with
    | .table origin (entry :: rest) => exact .inr (.inr ⟨_, entry, rest, rfl, rfl⟩)
    | .scalar .. | .list .. => exact .inl rfl
    | .table origin [] =>
      -- nothing is merged, so what stood before still stands; only nothing becomes an empty table
      show some ((overlayAll below given).getD noEntries) = last? below given ∨
        last? below given = none ∧ some ((overlayAll below given).getD noEntries) = some noEntries ∨
        _
      cases hstands : overlayAll below given with
      | some setting =>
        rw [hstands] at ih
        exact ih
      | none =>
        rw [hstands] at ih
        have hnone : last? below given = none := by simpa [eq_comm] using ih
        exact .inr (.inl ⟨hnone, rfl⟩)

/-! ### Variants in tables -/

/-- The names of a table's entries. -/
def names (s : Setting) : List String := s.asTable.2.map Prod.fst

/-- Putting an entry adds its name at the end unless it is there. -/
theorem names_putEntry (name : String) (value : Setting) (entries : List (String × Setting)) :
    (putEntry name value entries).map Prod.fst =
      if name ∈ entries.map Prod.fst then entries.map Prod.fst
      else entries.map Prod.fst ++ [name] := by
  induction entries with
  | nil => rfl
  | cons entry rest ih =>
    obtain ⟨known, old⟩ := entry
    rw [putEntry]
    split
    · next h => simp [h]
    · next h =>
      rw [List.map_cons, ih]
      -- a new name goes to the end, a known one stays where it is
      by_cases hrest : name ∈ rest.map Prod.fst <;> simp_all [eq_comm]

/-- So does merging one, with the name in small letters. -/
theorem names_merge (base : Setting) (name : String) (incoming : Setting) :
    (base.merge name incoming).names =
      if plainLower name ∈ base.names then base.names else base.names ++ [plainLower name] := by
  rw [merge_eq]
  exact names_putEntry _ _ _

/-- The names after a merge are those from before and those of the entries. -/
theorem mem_names_mergeAll {name : String} (entries : List (String × Setting)) (base : Setting) :
    name ∈ (mergeAll base entries).names ↔
      name ∈ base.names ∨ ∃ entry ∈ entries, plainLower entry.1 = name := by
  induction entries generalizing base with
  | nil => simp [mergeAll]
  | cons entry rest ih =>
    rw [mergeAll, ih, names_merge]
    split <;> grind

/-- Entries that all have the one name of a table add no other. -/
theorem names_mergeAll_eq {name : String} {entries : List (String × Setting)}
    (h : ∀ entry ∈ entries, plainLower entry.1 = name) {base : Setting}
    (hbase : base.names = [name]) : (mergeAll base entries).names = [name] := by
  induction entries generalizing base with
  | nil => exact hbase
  | cons entry rest ih =>
    refine ih (fun other hother => h other (List.mem_cons_of_mem _ hother)) ?_
    rw [names_merge, h entry List.mem_cons_self, hbase, if_pos (List.mem_singleton_self name)]

/-- What variant a table is depends on its names alone. -/
theorem toVariant_eq_of_names {s t : Setting} (hs : s.IsTable) (ht : t.IsTable)
    {name : String} (hsname : s.names = [name]) (htname : t.names = [name]) :
    s.toVariant = t.toVariant := by
  obtain ⟨o, entries, rfl⟩ := hs
  obtain ⟨o', entries', rfl⟩ := ht
  obtain ⟨⟨n, v⟩, rfl, hn⟩ := List.map_eq_singleton_iff.1 hsname
  obtain ⟨⟨n', v'⟩, rfl, hn'⟩ := List.map_eq_singleton_iff.1 htname
  obtain rfl : n = n' := hn.trans hn'.symm
  rfl

/-- A setting that is read as a variant has one name, that of the variant. -/
theorem names_of_toVariant {s : Setting} (hs : s.IsTable) {variant : Variant}
    (h : s.toVariant = .ok variant) : ∃ name, s.names = [name] := by
  obtain ⟨origin, entries, rfl⟩ := hs
  match entries with
  | [entry] => exact ⟨entry.1, rfl⟩
  | [] | _ :: _ :: _ => simp [toVariant] at h

/-- A table that, merged into whatever it was, names a variant names it by itself. -/
theorem toVariant_mergeAll {base : Setting} {entry : String × Setting}
    {rest : List (String × Setting)} {variant : Variant}
    (h : (mergeAll base (entry :: rest)).toVariant = .ok variant) :
    (mergeAll noEntries (entry :: rest)).toVariant = .ok variant := by
  have htable (s : Setting) : (mergeAll s (entry :: rest)).IsTable :=
    (isTable_merge s entry.1 entry.2).mergeAll rest
  -- a variant has one name, so every entry that was merged goes by it
  obtain ⟨name, hname⟩ := names_of_toVariant (htable base) h
  have hall : ∀ other ∈ entry :: rest, plainLower other.1 = name := by
    intro other hother
    have hmem : plainLower other.1 ∈ (mergeAll base (entry :: rest)).names :=
      (mem_names_mergeAll _ base).2 (.inr ⟨other, hother, rfl⟩)
    rw [hname] at hmem
    exact List.mem_singleton.1 hmem
  have hfirst : (noEntries.merge entry.1 entry.2).names = [name] := by
    rw [names_merge, hall entry List.mem_cons_self]
    rfl
  have halone : (mergeAll noEntries (entry :: rest)).names = [name] :=
    names_mergeAll_eq (fun other hother => hall other (List.mem_cons_of_mem _ hother)) hfirst
  rw [← h]
  exact toVariant_eq_of_names (htable noEntries) (htable base) halone hname

end Setting

end TreeOutline
