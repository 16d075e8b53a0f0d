import TreeOutline.Tree.Load

namespace TreeOutline

/-!
# What the readers give

Every tree that is read from a text is well formed: in each of its maps the field names are
distinct, however often the text repeats one.

* `Json.Gives` — what holds of the result of a reader that succeeds; `Json.value_gives` — the
  values that it reads are well formed.
* `Yaml.Gives`, `Yaml.value_gives` — the same for nodes.
* `loadTree_wellFormed` — the same for the trees of a file.
-/

namespace Value

/-- Setting a field to a well-formed value keeps all values well formed. -/
theorem fieldsWellFormed_put {name : String} {value : Value} (hvalue : value.WellFormed)
    {fields : List (String × Value)} (h : FieldsWellFormed fields) :
    FieldsWellFormed (put name value fields) := by
  induction fields with
  | nil => exact ⟨hvalue, trivial⟩
  | cons field rest ih =>
    obtain ⟨other, known⟩ := field
    rw [put]
    -- a known name keeps its place with the new value
    by_cases hname : other = name
    · rw [if_pos hname]
      exact ⟨hvalue, h.2⟩
    · rw [if_neg hname]
      exact ⟨h.1, ih h.2⟩

/-- The fields of a map whose names are distinct and whose values are well formed. -/
def GoodFields (fields : List (String × Value)) : Prop := (map fields).WellFormed

theorem goodFields_nil : GoodFields [] := ⟨List.nodup_nil, trivial⟩

/-- Setting a field keeps a map well formed. -/
theorem GoodFields.put {fields : List (String × Value)} (h : GoodFields fields) (name : String)
    {value : Value} (hvalue : value.WellFormed) : GoodFields (Value.put name value fields) :=
  ⟨put_nodup h.1, fieldsWellFormed_put hvalue h.2⟩

end Value

/-! ### JSON -/

namespace Json

/-- Where the reader succeeds, its result satisfies `P`. -/
def Gives {α : Type} (P : α → Prop) (answer : Except Stop (α × List Char)) : Prop :=
  ∀ result rest, answer = .ok (result, rest) → P result

/-- A reader that succeeds gives its result. -/
theorem gives_ok {α : Type} {P : α → Prop} {result : α} (h : P result) (rest : List Char) :
    Gives P (.ok (result, rest)) := by
  intro other after heq
  cases heq
  exact h

/-- A reader that stops gives nothing, and so nothing wrong. -/
theorem gives_error {α : Type} {P : α → Prop} (stop : Stop) : Gives P (.error stop) :=
  fun _ _ heq => nomatch heq

/-- What two readers give one after the other is what the second one gives behind the first. -/
theorem Gives.bind {α β : Type} {P : α → Prop} {Q : β → Prop}
    {answer : Except Stop (α × List Char)} {next : α × List Char → Except Stop (β × List Char)}
    (h : Gives P answer) (hnext : ∀ result rest, P result → Gives Q (next (result, rest))) :
    Gives Q (answer >>= next) := by
  cases answer with
  | error stop => exact gives_error stop
  | ok pair => exact hnext pair.1 pair.2 (h pair.1 pair.2 rfl)

/-- A word gives the value it stands for. -/
theorem gives_word {α : Type} {P : α → Prop} {result : α} (h : P result)
    (letters rest : List Char) : Gives P (word result letters rest) := by
  -- on the letters still expected: the value is given only behind the last of them
  induction letters generalizing rest with
  | nil => exact gives_ok h rest
  | cons letter letters ih =>
    cases rest with
    | nil => exact gives_error _
    | cons c rest =>
      rw [word]
      by_cases hc : c = letter
      · rw [if_pos hc]
        exact ih rest
      · rw [if_neg hc]
        exact gives_error _

/-! Numbers are neither lists nor maps. -/

/-- A number is well formed, whatever its digits are. -/
theorem float_gives (negative : Bool) (significand : Nat) (exponent : Int) (rest : List Char) :
    Gives Value.WellFormed (float negative significand exponent rest) := by
  unfold float
  split
  · exact gives_error _
  · exact gives_ok trivial _

/-- So it is behind the digits of its exponent. -/
theorem exponentDigits_gives (negative : Bool) (s : Scaled) (down : Bool) (value : Nat)
    (rest : List Char) : Gives Value.WellFormed (exponentDigits negative s down value rest) := by
  induction rest generalizing value with
  | nil => exact float_gives negative _ _ _
  | cons c rest ih =>
    rw [exponentDigits]
    -- past the limit on exponents the number is too large or zero, else the digits go on
    split
    · dsimp only
      split
      · split
        · exact gives_error _
        · exact gives_ok trivial _
      · exact ih _
    · exact float_gives negative _ _ _

/-- So it is behind an exponent with or without a sign. -/
theorem exponentPart_gives (negative : Bool) (s : Scaled) (rest : List Char) :
    Gives Value.WellFormed (exponentPart negative s rest) := by
  unfold exponentPart
  dsimp only
  split
  · exact gives_error _
  · split
    · exact exponentDigits_gives negative s _ _ _
    · exact gives_error _

/-- So it is behind the point, if there is one. -/
theorem numberTail_gives (negative : Bool) (s : Scaled) (rest : List Char) :
    Gives Value.WellFormed (numberTail negative s rest) := by
  unfold numberTail
  -- a fraction, an exponent, or neither: then a whole number, unless it is too large
  split
  · dsimp only
    split
    · split
      · exact gives_error _
      · exact gives_error _
    · split
      · exact exponentPart_gives negative _ _
      · exact exponentPart_gives negative _ _
      · exact float_gives negative _ _ _
  · exact exponentPart_gives negative s _
  · exact exponentPart_gives negative s _
  · split
    · exact float_gives negative _ _ _
    · split
      · exact gives_ok trivial _
      · split
        · exact float_gives negative _ _ _
        · exact gives_ok trivial _

/-- So it is from its first digit on. -/
theorem number_gives (negative : Bool) (rest : List Char) :
    Gives Value.WellFormed (number negative rest) := by
  unfold number
  split
  · exact gives_error _
  · split
    · split
      · exact gives_error _
      · exact numberTail_gives negative _ _
    · exact numberTail_gives negative _ _
  · split
    · exact numberTail_gives negative _ _
    · exact gives_error _

mutual

/-- **Values that are read are well formed.** -/
theorem value_gives (fuel depth : Nat) (text : List Char) :
    Gives Value.WellFormed (value fuel depth text) := by
  match fuel with
  | 0 => exact gives_error _
  | fuel + 1 =>
    rw [value]
    split
    · exact gives_error _
    · exact gives_word trivial _ _
    · exact gives_word trivial _ _
    · exact gives_word trivial _ _
    · exact number_gives true _
    · -- a text; behind it a list, then a map, each of them empty or with a reader of its own
      exact Gives.bind (fun _ _ _ => trivial) fun s rest _ => gives_ok trivial rest
    · split
      · exact gives_error _
      · split
        · exact gives_ok trivial _
        · exact gives_error _
        · refine (items_gives fuel _ _).bind fun items rest hitems => ?_
          have hlist : (Value.list items).WellFormed := hitems
          exact gives_ok hlist rest
    · split
      · exact gives_error _
      · split
        · have hempty : (Value.map []).WellFormed := Value.goodFields_nil
          exact gives_ok hempty _
        · exact gives_error _
        · refine (fields_gives fuel _ _ Value.goodFields_nil).bind fun fields rest hfields => ?_
          have hmap : (Value.map fields).WellFormed := hfields
          exact gives_ok hmap rest
    · split
      · exact number_gives false _
      · exact gives_error _

/-- The items of a list that are read are well formed. -/
theorem items_gives (fuel depth : Nat) (text : List Char) :
    Gives Value.ItemsWellFormed (items fuel depth text) := by
  match fuel with
  | 0 => exact gives_error _
  | fuel + 1 =>
    rw [items]
    -- an item, then the end of the list or a comma with more of them
    refine (value_gives fuel depth text).bind fun item rest hitem => ?_
    dsimp only
    split
    · exact gives_error _
    · exact gives_ok ⟨hitem, trivial⟩ _
    · split
      · exact gives_error _
      · exact gives_error _
      · exact (items_gives fuel depth _).bind
          fun others rest hothers => gives_ok ⟨hitem, hothers⟩ rest
    · exact gives_error _

/-- Fields that are read after those of a well-formed map make a well-formed map with them. -/
theorem fields_gives (fuel depth : Nat) {before : List (String × Value)} (text : List Char)
    (hbefore : Value.GoodFields before) :
    Gives Value.GoodFields (fields fuel depth before text) := by
  match fuel with
  | 0 => exact gives_error _
  | fuel + 1 =>
    unfold fields
    split
    · -- Nothing needs to be known of the name.
      refine Gives.bind (fun _ _ _ => trivial) (P := fun _ => True) fun name rest _ => ?_
      dsimp only
      split
      · exact gives_error _
      · -- Setting the field keeps the names distinct, also where the text repeats one.
        refine (value_gives fuel depth _).bind fun field rest hfield => ?_
        have hknown : Value.GoodFields (Value.put name field before) := hbefore.put name hfield
        dsimp only
        split
        · exact gives_error _
        · exact gives_ok hknown _
        · split
          · exact gives_error _
          · exact gives_error _
          · exact fields_gives fuel depth _ hknown
        · exact gives_error _
      · exact gives_error _
    · exact gives_error _

end

/-- The value of a document is well formed. -/
theorem document_wellFormed {text : List Char} {result : Value} (h : document text = .ok result) :
    result.WellFormed := by
  unfold document at h
  cases hvalue : value (2 * text.length + 2) nestingLimit text with
  | error stop =>
    rw [hvalue] at h
    exact nomatch h
  | ok pair =>
    obtain ⟨known, rest⟩ := pair
    -- what is read is good already; the rest may only be blank
    have hknown : known.WellFormed := value_gives _ _ _ known rest hvalue
    rw [hvalue] at h
    dsimp only [bind, Except.bind] at h
    cases hblank : skipBlanks rest with
    | nil =>
      rw [hblank] at h
      cases h
      exact hknown
    | cons c trailing =>
      rw [hblank] at h
      exact nomatch h

/-- The value of a JSON text is well formed. -/
theorem read_wellFormed {text : String} {result : Value} (h : read text = .ok result) :
    result.WellFormed := by
  unfold read at h
  cases hdocument : document text.toList with
  | error stop =>
    rw [hdocument] at h
    exact nomatch h
  | ok found =>
    rw [hdocument] at h
    cases h
    exact document_wellFormed hdocument

end Json

/-! ### YAML -/

namespace Yaml

/-- Where the reader succeeds, its result satisfies `P`. -/
def Gives {α : Type} (P : α → Prop) (reader : StateT Nat Option α) : Prop :=
  ∀ used result after, reader used = some (result, after) → P result

section

variable {α β : Type} {P : α → Prop} {Q : β → Prop}

/-- A reader that only answers gives the answer. -/
theorem gives_pure {result : α} (h : P result) : Gives P (pure result) := by
  intro used other after heq
  cases heq
  exact h

/-- A reader that fails gives nothing, and so nothing wrong. -/
theorem gives_failure : Gives P failure :=
  fun _ _ _ heq => nomatch heq

/-- An answer that may be missing gives what it is if it is there. -/
theorem gives_lift {answer : Option α} (h : ∀ result, answer = some result → P result) :
    Gives P (liftM answer) := by
  intro used other after heq
  cases answer with
  | none => exact nomatch heq
  | some result =>
    cases heq
    exact h other rfl

/-- What two readers give one after the other is what the second one gives behind the first. -/
theorem Gives.bind {reader : StateT Nat Option α} {next : α → StateT Nat Option β}
    (h : Gives P reader) (hnext : ∀ result, P result → Gives Q (next result)) :
    Gives Q (reader >>= next) := by
  intro used other after heq
  cases hreader : reader used with
  | none =>
    simp [Bind.bind, StateT.bind, hreader] at heq
  | some pair =>
    simp only [Bind.bind, StateT.bind, hreader, Option.bind_some] at heq
    exact hnext pair.1 (h used pair.1 pair.2 hreader) pair.2 other after heq

end

/-- What is known of no reader in particular. -/
theorem gives_true {α : Type} (reader : StateT Nat Option α) : Gives (fun _ => True) reader :=
  fun _ _ _ _ => trivial

/-! Scalars are neither lists nor maps. -/

theorem ofDouble_wellFormed (x : Binary64) : (ofDouble x).WellFormed := by
  unfold ofDouble
  split
  · trivial
  · trivial

theorem ofWhole_wellFormed {n : Int} {result : Value} (h : ofWhole? n = some result) :
    result.WellFormed := by
  unfold ofWhole? at h
  split at h
  · cases h
    trivial
  · exact nomatch h

/-- A word without quotes stands for a well-formed value. -/
theorem plainValue_wellFormed {text : String} {result : Value}
    (h : plainValue? text = some result) : result.WellFormed := by
  unfold plainValue? at h
  -- nothing, a truth value, a whole number, a real one, or else the text itself
  split at h
  · cases h
    trivial
  · split at h
    · cases h
      trivial
    · exact ofWhole_wellFormed h
    · split at h
      · cases h
        trivial
      · cases h
        cases realNumber? text.toList with
        | none => trivial
        | some x => exact ofDouble_wellFormed x

/-- So does any scalar, whatever its tag. -/
theorem scalarValue_wellFormed {tag : Option String} {isPlain : Bool} {text : String}
    {result : Value} (h : scalarValue? tag isPlain text = some result) : result.WellFormed := by
  unfold scalarValue? at h
  -- one case for each tag; an unknown tag leaves the text or is refused
  split at h
  · split at h
    · exact plainValue_wellFormed h
    · cases h
      trivial
  · obtain ⟨b, -, rfl⟩ := Option.map_eq_some_iff.1 h
    trivial
  · obtain ⟨n, -, hwhole⟩ := Option.bind_eq_some_iff.1 h
    exact ofWhole_wellFormed hwhole
  · obtain ⟨x, -, rfl⟩ := Option.map_eq_some_iff.1 h
    exact ofDouble_wellFormed x
  · split at h
    · cases h
      trivial
    · exact nomatch h
  · split at h
    · exact nomatch h
    · cases h
      trivial

/-! Lists and maps are made of values read before. -/

/-- Readers one after the other give well-formed items. -/
theorem gives_mapM {reader : Node → StateT Nat Option Value}
    (h : ∀ node, Gives Value.WellFormed (reader node)) (nodes : List Node) :
    Gives Value.ItemsWellFormed (nodes.mapM reader) := by
  induction nodes with
  | nil => exact gives_pure (P := Value.ItemsWellFormed) trivial
  | cons node rest ih =>
    rw [List.mapM_cons]
    -- the state is passed on from one node to the next
    refine (h node).bind fun value hvalue => ih.bind fun values hvalues => ?_
    have hboth : Value.ItemsWellFormed (value :: values) := ⟨hvalue, hvalues⟩
    exact gives_pure hboth

/-- Readers that extend fields one after the other give good ones in the end. -/
theorem gives_foldlM {step : List (String × Value) → Node × Node → StateT Nat Option _}
    (h : ∀ fields entry, Value.GoodFields fields → Gives Value.GoodFields (step fields entry))
    (entries : List (Node × Node)) {fields : List (String × Value)}
    (hfields : Value.GoodFields fields) : Gives Value.GoodFields (entries.foldlM step fields) := by
  induction entries generalizing fields with
  | nil => exact gives_pure hfields
  | cons entry rest ih =>
    rw [List.foldlM_cons]
    exact (h fields entry hfields).bind fun others hothers => ih hothers

/-- **Values of nodes are well formed.** -/
theorem value_gives (aliases : Aliases) (depth : Nat) (node : Node) :
    Gives Value.WellFormed (node.value? aliases depth) := by
  induction depth generalizing node with
  | zero =>
    rw [Node.value?]
    refine (gives_true _).bind fun node _ => ?_
    split
    · exact gives_lift fun result h => scalarValue_wellFormed h
    · exact gives_failure
  -- on the depth that is left, as an alias may lead to a node that is not smaller
  | succ depth ih =>
    rw [Node.value?]
    refine (gives_true _).bind fun node _ => ?_
    split
    · exact gives_lift fun result h => scalarValue_wellFormed h
    · split
      · exact gives_failure
      · refine (gives_mapM ih _).bind fun items hitems => ?_
        have hlist : (Value.list items).WellFormed := hitems
        exact gives_pure hlist
    · split
      · exact gives_failure
      · refine (gives_foldlM (fun fields entry hfields => ?_) _ Value.goodFields_nil).bind
          fun fields hfields => ?_
        · refine (gives_true _).bind fun name _ => (ih _).bind fun value hvalue => ?_
          exact gives_pure (hfields.put name hvalue)
        · have hmap : (Value.map fields).WellFormed := hfields
          exact gives_pure hmap
    · exact gives_failure

/-- The value of a YAML text is well formed. -/
theorem read_wellFormed {text : String} {result : Value} (h : read text = some result) :
    result.WellFormed := by
  unfold read at h
  obtain ⟨document, -, h⟩ := Option.bind_eq_some_iff.1 h
  cases document with
  | none =>
    cases h
    trivial
  | some node =>
    obtain ⟨⟨value, used⟩, hvalue, rfl⟩ := Option.map_eq_some_iff.1 h
    exact value_gives _ _ _ _ _ _ hvalue

end Yaml

/-- **Trees that are loaded are well formed**, in whichever format they are written. -/
theorem loadTree_wellFormed {format : TreeFormat} {text : String} {tree : Value}
    (h : loadTree format text = .ok tree) : tree.WellFormed := by
  unfold loadTree at h
  -- the path decides the format, and each reader gives trees with distinct names
  cases format with
  | json =>
    cases hread : Json.read text with
    | error fault =>
      simp only [hread] at h
      exact nomatch h
    | ok value =>
      simp only [hread] at h
      cases h
      exact Json.read_wellFormed hread
  | yaml =>
    cases hread : Yaml.read text with
    | none =>
      simp only [hread] at h
      exact nomatch h
    | some value =>
      simp only [hread] at h
      cases h
      exact Yaml.read_wellFormed hread

end TreeOutline
