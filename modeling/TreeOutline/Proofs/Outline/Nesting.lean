import TreeOutline.Proofs.Outline.Keys

namespace TreeOutline

/-!
# Rows as an outline

Rows are a flat list; their levels make it an outline.

* `Row.AllowsNext` — which row may follow another one: deeper by one level at most, and deeper only
  below an open label.
* `HasParent` — a row finds the label it stands below among the rows above it.
* `WellNested` — the invariant of the rows at and below a level; `WellNested.append` puts outlines
  one after the other, `WellNested.cons` puts one below a row.
* `labelRows_wellNested` — **the rows of a nested forest are well nested**, at any level.
* `rows_wellNested` — so are the rows that a pass shows.
-/

/-- The next row is deeper by one level at most, and deeper only if this one is open. -/
def Row.AllowsNext (row next : Row) : Prop :=
  next.level ≤ row.level + 1 ∧ (row.level < next.level → row.toggle = .opened)

/-- The nearest row above that is one level less deep is open and has the path of the row or one
above it, and nothing in between is less deep than the row. -/
def HasParent (above : List Row) (row : Row) : Prop :=
  ∃ first parent between, above = first ++ parent :: between ∧ parent.level + 1 = row.level ∧
    parent.toggle = .opened ∧ parent.key.path <+: row.key.path ∧
    ∀ other ∈ between, row.level ≤ other.level

/-- Rows further up do not matter. -/
theorem HasParent.append_left {above : List Row} {row : Row} (h : HasParent above row)
    (rows : List Row) : HasParent (rows ++ above) row := by
  obtain ⟨first, parent, between, rfl, hparent⟩ := h
  exact ⟨rows ++ first, parent, between, (List.append_assoc ..).symm, hparent⟩

/-! ### Outlines at a level -/

/-- The rows are an outline whose outermost labels stand at `level`. -/
structure WellNested (level : Nat) (rows : List Row) : Prop where
  head : ∀ row ∈ rows.head?, row.level = level
  le_level : ∀ row ∈ rows, level ≤ row.level
  chain : rows.IsChain Row.AllowsNext
  parent : ∀ above row rest, rows = above ++ row :: rest → level < row.level → HasParent above row

namespace WellNested

variable {level : Nat} {rows first second below : List Row} {row : Row}

theorem nil (level : Nat) : WellNested level [] where
  head _ hrow := nomatch hrow
  le_level _ hrow := absurd hrow List.not_mem_nil
  chain := .nil
  parent above row rest hsplit _ := absurd hsplit (by simp)

/-- Outlines at one level make an outline together: the second one begins no deeper than the first
one ends. -/
theorem append (hfirst : WellNested level first) (hsecond : WellNested level second) :
    WellNested level (first ++ second) where
  head := by
    intro row hrow
    cases first with
    | nil => exact hsecond.head row hrow
    | cons other rest => exact hfirst.head row hrow
  le_level := List.forall_mem_append.2 ⟨hfirst.le_level, hsecond.le_level⟩
  chain := by
    refine hfirst.chain.append hsecond.chain fun row hrow next hnext => ?_
    have hlevel : next.level = level := hsecond.head next hnext
    have hlast : level ≤ row.level := hfirst.le_level row (List.mem_of_mem_getLast? hrow)
    exact ⟨by omega, fun hdeeper => by omega⟩
  parent := by
    intro above row rest hsplit hdeeper
    rcases List.append_eq_append_iff.1 hsplit with ⟨more, rfl, hrest⟩ | ⟨more, habove, hrow⟩
    · exact (hsecond.parent more row rest hrest hdeeper).append_left first
    · cases more with
      | nil =>
        -- The row would begin the second outline, and it is deeper than that.
        have hsplit' : row :: rest = second := hrow
        have hlevel : row.level = level := hsecond.head row (by rw [← hsplit']; rfl)
        omega
      | cons other more =>
        obtain ⟨rfl, -⟩ := List.cons.inj hrow
        exact hfirst.parent above row more habove hdeeper

/-- A row makes an outline with one below it, provided the row is open if there is anything below
it, and all of that is within its path. -/
theorem cons (hbelow : WellNested (row.level + 1) below)
    (hopen : ∀ other ∈ below, row.toggle = .opened ∧ row.key.path <+: other.key.path) :
    WellNested row.level (row :: below) where
  head other hother := by rw [← Option.mem_some_iff.1 hother]
  le_level := by
    refine List.forall_mem_cons.2 ⟨Nat.le_refl _, fun other hother => ?_⟩
    have hlevel : row.level + 1 ≤ other.level := hbelow.le_level other hother
    omega
  chain := by
    refine List.isChain_cons.2 ⟨fun next hnext => ?_, hbelow.chain⟩
    exact ⟨(hbelow.head next hnext).le, fun _ => (hopen next (List.mem_of_mem_head? hnext)).1⟩
  parent := by
    intro above other rest hsplit hdeeper
    rcases List.cons_eq_append_iff.1 hsplit with ⟨-, hother⟩ | ⟨more, rfl, hmore⟩
    · obtain ⟨rfl, -⟩ := List.cons.inj hother
      omega
    · rcases Nat.lt_or_ge (row.level + 1) other.level with hlower | hnext
      · exact (hbelow.parent more other rest hmore hlower).append_left [row]
      · -- A row right below the new one has it for its parent.
        have hmem : other ∈ below := by
          rw [hmore]
          exact List.mem_append_right _ List.mem_cons_self
        refine ⟨[], row, more, rfl, by omega, (hopen other hmem).1, (hopen other hmem).2, ?_⟩
        intro between hbetween
        have hlevel : row.level + 1 ≤ between.level :=
          hbelow.le_level between (by rw [hmore]; exact List.mem_append_left _ hbetween)
        omega

end WellNested

/-! ### The rows of a forest -/

mutual

/-- The rows of a nested label are well nested. -/
theorem Label.wellNested_rows (flags : Flags) {label : Label} (level : Nat) (h : label.Nested) :
    WellNested level (label.rows flags level) := by
  match label with
  | .mk caption below =>
    show WellNested (caption.row flags level).level _
    rw [Label.rows]
    by_cases hopen : (caption.toggle flags).isOpen = true
    · rw [if_pos hopen]
      -- the rows below are nested one level deeper, and this row is their open parent
      refine (labelRows_wellNested flags (level + 1) h.2).cons fun row hrow => ⟨?_, ?_⟩
      · exact Toggle.isOpen_eq_true_iff.1 hopen
      · exact h.1 row.key (key_mem_of_mem_labelRows hrow)
    · rw [if_neg hopen]
      exact (WellNested.nil _).cons fun row hrow => absurd hrow List.not_mem_nil

/-- **The rows of a nested forest are well nested.** -/
theorem labelRows_wellNested (flags : Flags) {labels : List Label} (level : Nat)
    (h : LabelsNested labels) : WellNested level (labelRows flags labels level) := by
  match labels with
  | [] => exact .nil level
  | label :: rest =>
    rw [labelRows]
    exact (Label.wellNested_rows flags level h.1).append (labelRows_wellNested flags level h.2)

end

/-- **Rows form an outline.** Whatever the tree, the rules and the store, the first row stands at
level zero, a row is deeper than the one before it by one level at most and only if that one is
open, and each row below the first level has a parent: the nearest row above that is one level less
deep is open, has the row's path or one above it, and no row in between is less deep than the
row. -/
theorem rows_wellNested (rules : DisplayRules) (tree : Option Value) (store : ExpansionStore) :
    let rows := (renderRoot rules tree store).1.rows
    (∀ row ∈ rows.head?, row.level = 0) ∧
      rows.IsChain (fun row next => next.level ≤ row.level + 1 ∧
        (row.level < next.level → row.toggle = .opened)) ∧
      ∀ above row rest, rows = above ++ row :: rest → 0 < row.level →
        ∃ first parent between, above = first ++ parent :: between ∧
          parent.level + 1 = row.level ∧ parent.toggle = .opened ∧
          row.key.path.startsWith parent.key.path = true ∧
          ∀ other ∈ between, row.level ≤ other.level := by
  intro rows
  have hrows : rows = labelRows (store.flags rules) (rootLabels rules tree) 0 :=
    rows_renderRoot rules tree store
  -- all three parts are read off one property of the whole list
  have hnested : WellNested 0 rows := by
    rw [hrows]
    exact labelRows_wellNested _ 0 (rootLabels_nested rules tree)
  refine ⟨hnested.head, hnested.chain, fun above row rest hsplit hdeeper => ?_⟩
  obtain ⟨first, parent, between, habove, hlevel, hopen, hpath, hbetween⟩ :=
    hnested.parent above row rest hsplit hdeeper
  exact ⟨first, parent, between, habove, hlevel, hopen, Path.startsWith_iff.2 hpath, hbetween⟩

end TreeOutline
