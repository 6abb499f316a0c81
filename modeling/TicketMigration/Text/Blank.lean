import TicketMigration.Text.Ranges

/-!
# Blank characters

The blanks are the separators of the Unicode character database together with the controls that
move to another place on the page.  They are what a trimmed text loses at both ends and what ends
a bare URL.

## Main definitions

* `isBlank` says that a character is one of them, `isBlankText` that a text has nothing else.
* `trim`, `trimStart`, `trimEnd` drop them at both ends or at one.
* `dropTrailing` drops the repetitions of one character at the end.
-/

namespace TicketMigration.Text

/-- The code points of the blanks, as inclusive ranges in increasing order. -/
def blankRanges : List (Nat × Nat) :=
  [(9, 13), (28, 32), (133, 133), (160, 160), (5760, 5760), (8192, 8202), (8232, 8233),
    (8239, 8239), (8287, 8287), (12288, 12288)]

/-- Whether the character is a blank. -/
def isBlank (c : Char) : Bool :=
  within blankRanges c.toNat

/-- Whether the text has nothing but blanks. -/
def isBlankText (s : List Char) : Bool :=
  s.all isBlank

/-- The text from its first character that fails the test. -/
def trimStart (s : List Char) : List Char :=
  s.dropWhile isBlank

/-- Drops the longest end of the text whose characters all pass the test. -/
def dropEndWhile (test : Char → Bool) (s : List Char) : List Char :=
  (s.reverse.dropWhile test).reverse

/-- The text up to its last character that is no blank. -/
def trimEnd (s : List Char) : List Char :=
  dropEndWhile isBlank s

/-- The text without the blanks at its two ends. -/
def trim (s : List Char) : List Char :=
  trimEnd (trimStart s)

/-- Drops all repetitions of one character at the end of a text. -/
def dropTrailing (c : Char) (s : String) : String :=
  String.ofList (dropEndWhile (· == c) s.toList)

@[simp] theorem isBlankText_nil : isBlankText [] = true := rfl

@[simp] theorem isBlankText_cons (c : Char) (s : List Char) :
    isBlankText (c :: s) = (isBlank c && isBlankText s) := rfl

/-- A text has only blanks exactly when trimming its front leaves nothing. -/
theorem trimStart_eq_nil_iff (s : List Char) : trimStart s = [] ↔ isBlankText s = true := by
  induction s with
  | nil => simp [trimStart]
  | cons c s ih =>
    rw [trimStart, List.dropWhile_cons]
    by_cases h : isBlank c = true <;> simp [h, ← ih, trimStart]

/-- A text has only blanks exactly when trimming it leaves nothing. -/
theorem trim_eq_nil_iff (s : List Char) : trim s = [] ↔ isBlankText s = true := by
  rw [← trimStart_eq_nil_iff]
  constructor
  · intro h
    have all : isBlankText (trimStart s).reverse = true := by
      rw [← trimStart_eq_nil_iff]
      simpa [trim, trimEnd, dropEndWhile, trimStart] using h
    have all' : isBlankText (trimStart s) = true := by
      simpa [isBlankText] using all
    rcases hs : trimStart s with _ | ⟨c, r⟩
    · rfl
    · have notBlank : isBlank c = false := by
        have := List.head?_dropWhile_not isBlank s
        rw [show s.dropWhile isBlank = c :: r from hs] at this
        simpa using this
      rw [hs, isBlankText_cons, notBlank] at all'
      simp at all'
  · intro h
    simp [trim, h, trimEnd, dropEndWhile]

end TicketMigration.Text
