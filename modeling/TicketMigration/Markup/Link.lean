import TicketMigration.Markup.Rule
import TicketMigration.Text.Blank

/-!
# External links and images

A link is written `[url label]` and becomes `[label](url)`.  An image is written `[[Image(file)]]`
and becomes `![image](file)`, unless the file is an attachment of a page, which has no address of
its own.

## Main definitions

* `Link`, `Link.read?`, `Link.markdown`: a link, its recogniser and its new form.
* `image?`: the file of an image.
* `linkRule`, `imageRule`: the conversion rules.
-/

namespace TicketMigration.Markup

open Text

/-- The scheme of a web address at the front of a text, with its colon and slashes, and what
follows it. -/
def scheme? (s : List Char) : Option (List Char × List Char) :=
  ((after? "https://".toList s).map ("https://".toList, ·)).or
    ((after? "http://".toList s).map ("http://".toList, ·))

theorem eq_append_of_scheme? {s scheme rest : List Char} (h : scheme? s = some (scheme, rest)) :
    s = scheme ++ rest := by
  rcases Option.or_eq_some_iff.1 h with h | ⟨-, h⟩ <;>
  · obtain ⟨r, hr, he⟩ := Option.map_eq_some_iff.1 h
    obtain ⟨rfl, rfl⟩ := Prod.mk.inj he
    exact after?_eq_some_iff.1 hr

/-- A character that a linked address may hold. -/
def isAddressChar (c : Char) : Bool :=
  !isBlank c && c != '[' && c != ']'

/-- A character that the label of a link may hold. -/
def isLabelChar (c : Char) : Bool :=
  c != '[' && c != ']'

/-- A link to another site. -/
structure Link where
  /-- The address, with its scheme. -/
  url : List Char
  /-- The text that is shown for it. -/
  label : List Char
  deriving DecidableEq, Repr

namespace Link

/-- Reads the label and the closing bracket of a link. -/
def readLabel? (url s : List Char) : Option (Link × List Char) :=
  match s.dropWhile isLabelChar with
  | ']' :: rest =>
    if (s.takeWhile isLabelChar).isEmpty then none
    else some (⟨url, s.takeWhile isLabelChar⟩, rest)
  | _ => none

/-- Reads what follows the scheme of a link: the address, one blank, the label, a bracket. -/
def readAddress? (scheme s : List Char) : Option (Link × List Char) :=
  match s.dropWhile isAddressChar with
  | c :: rest =>
    if isBlank c && !(s.takeWhile isAddressChar).isEmpty then
      readLabel? (scheme ++ s.takeWhile isAddressChar) rest
    else none
  | [] => none

/-- Reads a link at the front of a text. -/
def read? (s : List Char) : Option (Link × List Char) :=
  (after? ['['] s).bind fun inside =>
    (scheme? inside).bind fun parts => readAddress? parts.1 parts.2

/-- The link with its label in front of its address. -/
def markdown (link : Link) : List Char :=
  '[' :: link.label ++ [']', '('] ++ link.url ++ [')']

theorem length_of_readLabel? {url s rest : List Char} {link : Link}
    (h : readLabel? url s = some (link, rest)) : rest.length < s.length := by
  rw [readLabel?] at h
  have hs := (List.dropWhile_suffix (l := s) isLabelChar).length_le
  split at h
  · next r hr =>
    rw [hr, List.length_cons] at hs
    split at h
    · cases h
    · obtain ⟨-, rfl⟩ := Prod.mk.inj (Option.some.inj h)
      omega
  · cases h

theorem length_of_readAddress? {scheme s rest : List Char} {link : Link}
    (h : readAddress? scheme s = some (link, rest)) : rest.length < s.length := by
  rw [readAddress?] at h
  have hs := (List.dropWhile_suffix (l := s) isAddressChar).length_le
  split at h
  · next c r hr =>
    rw [hr, List.length_cons] at hs
    split at h
    · have := length_of_readLabel? h
      omega
    · cases h
  · cases h

theorem length_of_read? {s rest : List Char} {link : Link}
    (h : read? s = some (link, rest)) : rest.length < s.length := by
  obtain ⟨inside, hi, h⟩ := Option.bind_eq_some_iff.1 h
  obtain ⟨parts, hp, h⟩ := Option.bind_eq_some_iff.1 h
  have h1 := length_of_after? hi
  have h2 := congrArg List.length (eq_append_of_scheme? hp)
  have h3 := length_of_readAddress? h
  rw [List.length_append] at h2
  omega

end Link

/-- The words that begin the name of an attachment of a page. -/
def attachmentSites : List (List Char) :=
  ["wiki".toList, "ticket".toList, "htdocs".toList, "source".toList]

/-- Reads an image at the front of a text.  The name of its file is on one line, has at least one
character and goes on to the first closing marker. -/
def image? (s : List Char) : Option (List Char × List Char) :=
  (after? "[[Image(".toList s).bind fun inside =>
    if attachmentSites.any fun site => (after? site inside).isSome then none
    else
      match inside with
      | c :: rest =>
        if onLine c then
          (upTo? onLine ")]]".toList rest).map fun parts => (c :: parts.1, parts.2)
        else none
      | [] => none

theorem length_of_image? {s file rest : List Char} (h : image? s = some (file, rest)) :
    rest.length < s.length := by
  obtain ⟨inside, hi, h⟩ := Option.bind_eq_some_iff.1 h
  have h1 := length_of_after? hi
  split at h
  · cases h
  · split at h
    · split at h
      · obtain ⟨parts, hp, he⟩ := Option.map_eq_some_iff.1 h
        obtain ⟨-, rfl⟩ := Prod.mk.inj he
        have h2 := length_of_upTo? hp
        simp only [List.length_cons] at h1
        omega
      · cases h
    · cases h

/-- Writes links with their label first. -/
def linkRule : Rule where
  match? s := (Link.read? s).map fun parts => (parts.1.markdown, parts.2)
  shorter h := by
    obtain ⟨parts, hp, he⟩ := Option.map_eq_some_iff.1 h
    obtain ⟨-, rfl⟩ := Prod.mk.inj he
    exact Link.length_of_read? hp

/-- Writes images as links to their file. -/
def imageRule : Rule where
  match? s := (image? s).map fun parts => ("![image](".toList ++ parts.1 ++ [')'], parts.2)
  shorter h := by
    obtain ⟨parts, hp, he⟩ := Option.map_eq_some_iff.1 h
    obtain ⟨-, rfl⟩ := Prod.mk.inj he
    exact length_of_image? hp

end TicketMigration.Markup
