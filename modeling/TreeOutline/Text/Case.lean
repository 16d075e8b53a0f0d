namespace TreeOutline

/-!
# Letter case

* `asciiLower`, `asciiUpper` — the twenty-six letters without marks change, nothing else.
* `plainLower` — every letter changes whose small form is one of these.
-/

/-- The text with its capital letters from A to Z made small. -/
def asciiLower (s : String) : String := String.ofList (s.toList.map Char.toLower)

/-- The text with all letters made small whose small form is a letter from a to z: the capital ones
and the sign of the kelvin. -/
def plainLower (s : String) : String :=
  String.ofList (s.toList.map fun c => if c = '\u212a' then 'k' else c.toLower)

/-- The text with its small letters from a to z made capital. -/
def asciiUpper (s : String) : String := String.ofList (s.toList.map Char.toUpper)

end TreeOutline
