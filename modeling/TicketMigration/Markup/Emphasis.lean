import TicketMigration.Markup.Rule
import TicketMigration.Text.Blank

/-!
# Emphasis and escapes

Bold text stands between three apostrophes, italic text between two apostrophes or two slashes.
The slashes of an address are not markers.  An exclamation mark keeps a word in mixed case from
being a link; since there are no such links in the new form, it is dropped.

## Main definitions

* `boldRule`, `apostropheItalicRule`, `slashItalicRule`, `escapeRule`.
-/

namespace TicketMigration.Markup

open Text

/-- An ASCII letter. -/
def isLetter (c : Char) : Bool :=
  c.isUpper || c.isLower

/-- Whether the character may follow the first one in the scheme of an address. -/
def isSchemeChar (c : Char) : Bool :=
  c.isAlphanum || c == '+' || c == '.' || c == '-'

/-- What follows one part of a word in mixed case: a capital letter and then at least one small
letter or digit. -/
def afterHump? : List Char → Option (List Char)
  | capital :: c :: rest =>
    if capital.isUpper && (c.isLower || c.isDigit) then
      some (rest.dropWhile fun d => d.isLower || d.isDigit)
    else none
  | _ => none

/-- Drops the exclamation mark before a word of at least two capitalised parts. -/
def escapeRule : Rule where
  match? s :=
    (after? ['!'] s).bind fun word =>
      if ((afterHump? word).bind afterHump?).isSome then some ([], word) else none
  shorter h := by
    obtain ⟨word, hw, h⟩ := Option.bind_eq_some_iff.1 h
    have := length_of_after? hw
    split at h
    · obtain ⟨-, rfl⟩ := Prod.mk.inj (Option.some.inj h)
      simp only [List.length_singleton] at this
      omega
    · cases h

/-- Writes bold text between double asterisks.  It holds no apostrophe. -/
def boldRule : Rule where
  match? s :=
    (after? ['\'', '\'', '\''] s).bind fun inside =>
      (after? ['\'', '\'', '\''] (inside.dropWhile (· != '\''))).map fun rest =>
        (['*', '*'] ++ inside.takeWhile (· != '\'') ++ ['*', '*'], rest)
  shorter h := by
    obtain ⟨inside, hi, h⟩ := Option.bind_eq_some_iff.1 h
    obtain ⟨rest, hr, he⟩ := Option.map_eq_some_iff.1 h
    obtain ⟨-, rfl⟩ := Prod.mk.inj he
    have h1 := length_of_after? hi
    have h2 := length_of_after? hr
    have h3 := (List.dropWhile_suffix (l := inside) (· != '\'')).length_le
    simp only [List.length_cons] at h1
    omega

/-- Reads text between two markers on one line, up to the first closing marker. -/
def between? (marker s : List Char) : Option (List Char × List Char) :=
  (after? marker s).bind (upTo? onLine marker)

theorem length_of_between? {marker s body rest : List Char} (hne : marker ≠ [])
    (h : between? marker s = some (body, rest)) : rest.length < s.length := by
  obtain ⟨inside, hi, hu⟩ := Option.bind_eq_some_iff.1 h
  have h1 := length_of_after? hi
  have h2 := length_of_upTo? hu
  have h3 := List.length_pos_iff.2 hne
  omega

/-- Writes text between pairs of apostrophes between underscores. -/
def apostropheItalicRule : Rule where
  match? s :=
    (between? ['\'', '\''] s).map fun parts => ('_' :: parts.1 ++ ['_'], parts.2)
  shorter h := by
    obtain ⟨parts, hp, he⟩ := Option.map_eq_some_iff.1 h
    obtain ⟨-, rfl⟩ := Prod.mk.inj he
    exact length_of_between? (by simp) hp

/-- Reads an address of any scheme at the front of a text: the scheme, a colon and two slashes,
and everything up to the next blank. -/
def address? : List Char → Option (List Char × List Char)
  | c :: s =>
    if isLetter c then
      (after? "://".toList (s.dropWhile isSchemeChar)).map fun tail =>
        (c :: s.takeWhile isSchemeChar ++ "://".toList ++ tail.takeWhile (!isBlank ·),
          tail.dropWhile (!isBlank ·))
    else none
  | [] => none

theorem length_of_address? {s address rest : List Char} (h : address? s = some (address, rest)) :
    rest.length < s.length := by
  cases s with
  | nil => cases h
  | cons c s =>
    rw [address?] at h
    split at h
    · obtain ⟨tail, ht, he⟩ := Option.map_eq_some_iff.1 h
      obtain ⟨-, rfl⟩ := Prod.mk.inj he
      have h1 := length_of_after? ht
      have h2 := (List.dropWhile_suffix (l := s) isSchemeChar).length_le
      have h3 := (List.dropWhile_suffix (l := tail) (!isBlank ·)).length_le
      simp only [List.length_cons]
      omega
    · cases h

/-- Writes text between pairs of slashes between underscores, and passes over addresses. -/
def slashItalicRule : Rule where
  match? s :=
    (address? s).or
      ((between? ['/', '/'] s).map fun parts => ('_' :: parts.1 ++ ['_'], parts.2))
  shorter h := by
    rcases Option.or_eq_some_iff.1 h with h | ⟨-, h⟩
    · exact length_of_address? h
    · obtain ⟨parts, hp, he⟩ := Option.map_eq_some_iff.1 h
      obtain ⟨-, rfl⟩ := Prod.mk.inj he
      exact length_of_between? (by simp) hp

end TicketMigration.Markup
