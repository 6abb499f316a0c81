import TicketMigration.Literal.Reader
import TicketMigration.Proofs.QuotedText
import TicketMigration.Value.Printer

/-!
# Reading back a written dictionary

A dictionary from texts to texts is written with its entries in their order, and it is read back as
it was: the text is cut into the words of the entries, no operand of them stands deep in the
grammar, the words are those of an expression for a dictionary, and that expression has the datum.
The texts may have any code points.

## Main definitions

* `TextDictionary` — a dictionary from texts to texts.
* `textOf`, `tokensOf` — the text and the words of a dictionary.
* `CutInto` — a text is cut into words.
* `expressionsOf` — the expressions of the entries.

## Main statements

* `words_textOf` — a written dictionary is cut into its words.
* `descent_tokensOf_le` — how far a reader descends for them.
* `wholeExpression?_tokensOf` — the expression that they are.
* `entriesFrom_expressionsOf` — the datum of that expression.
* `TextDictionary.readLiteral_written` — **a written dictionary is read back.**
-/

namespace TicketMigration.Literal

open Text

/-- An entry of a dictionary from texts to texts: the code points of the key and of the value. -/
abbrev TextEntry := List Nat × List Nat

/-- The texts of an entry have code points. -/
def Coded (entry : TextEntry) : Prop :=
  (∀ code ∈ entry.1, code ≤ maxCode) ∧ ∀ code ∈ entry.2, code ≤ maxCode

/-- A dictionary from texts to texts. -/
structure TextDictionary where
  /-- The entries in the order in which they were added. -/
  entries : List TextEntry
  /-- No key is there twice. -/
  distinct : (entries.map Prod.fst).Nodup
  /-- The texts have code points. -/
  coded : ∀ entry ∈ entries, Coded entry

/-- The data of entries. -/
def dataOf (entries : List TextEntry) : Entries :=
  entries.map fun entry => (.text entry.1, .text entry.2)

namespace TextDictionary

/-- The entries as data. -/
def data (d : TextDictionary) : Entries :=
  dataOf d.entries

/-- The dictionary as it is written. -/
def written (d : TextDictionary) : List Char :=
  (Value.dict d.data).literal

end TextDictionary

/-! ### The written text -/

/-- An entry as it is written, and what stands behind it. -/
def entryText (entry : TextEntry) (behind : List Char) : List Char :=
  quoteCodes entry.1 ++ ':' :: ' ' :: (quoteCodes entry.2 ++ behind)

/-- The text behind an entry. -/
def textBehind : List TextEntry → List Char
  | [] => ['\x7d']
  | entry :: rest => ',' :: ' ' :: entryText entry (textBehind rest)

/-- The text of a dictionary with the given entries. -/
def textOf : List TextEntry → List Char
  | [] => ['\x7b', '\x7d']
  | entry :: rest => '\x7b' :: entryText entry (textBehind rest)

theorem literalEntries_cons (entry : TextEntry) (rest : List TextEntry) :
    Value.literalEntries (dataOf (entry :: rest))
      = (quoteCodes entry.1 ++ [':', ' '] ++ quoteCodes entry.2) ::
        Value.literalEntries (dataOf rest) := rfl

/-- The text of the members of a dictionary and its closing bracket. -/
theorem flatten_intersperse_literalEntries (entry : TextEntry) (rest : List TextEntry) :
    ((Value.literalEntries (dataOf (entry :: rest))).intersperse [',', ' ']).flatten ++ ['\x7d']
      = entryText entry (textBehind rest) := by
  induction rest generalizing entry with
  | nil =>
    have alone : Value.literalEntries (dataOf [entry])
        = [quoteCodes entry.1 ++ [':', ' '] ++ quoteCodes entry.2] := rfl
    rw [alone, List.intersperse_singleton, List.flatten_singleton, entryText, textBehind]
    simp only [List.append_assoc, List.cons_append, List.nil_append]
  | cons next rest ih =>
    have others := ih next
    rw [literalEntries_cons] at others
    rw [literalEntries_cons, literalEntries_cons, List.intersperse_cons_cons, List.flatten_cons,
      List.flatten_cons, List.append_assoc, List.append_assoc [',', ' '], others, textBehind]
    generalize entryText next (textBehind rest) = behind
    rw [entryText]
    simp only [List.append_assoc, List.cons_append, List.nil_append]

/-- The text of a dictionary is that of its entries. -/
theorem literal_dict (entries : List TextEntry) :
    (Value.dict (dataOf entries)).literal = textOf entries := by
  cases entries with
  | nil => rfl
  | cons entry rest =>
    have bracketed : (Value.dict (dataOf (entry :: rest))).literal
        = Value.bracketed ['\x7b'] ['\x7d'] (Value.literalEntries (dataOf (entry :: rest))) := rfl
    rw [bracketed, Value.bracketed, List.append_assoc, flatten_intersperse_literalEntries]
    rfl

/-- Either bracket or comma stands behind an entry. -/
theorem textBehind_eq_cons (entries : List TextEntry) :
    ∃ stop rest, textBehind entries = stop :: rest ∧ stop ≠ '\'' ∧ stop ≠ '"' := by
  cases entries with
  | nil => exact ⟨'\x7d', [], rfl, by decide, by decide⟩
  | cons entry rest => exact ⟨',', _, rfl, by decide, by decide⟩

/-! ### Words -/

/-- From a position on, the text is cut into the words. -/
def CutInto (p : Position) (s : List Char) (tokens : List Token) : Prop :=
  ∀ fuel, s.length < fuel → wordsFrom fuel p s = (tokens, true)

namespace CutInto

variable {p p' : Position} {c : Char} {s rest : List Char} {token : Token} {tokens : List Token}

theorem nil : CutInto p [] [] := by
  intro fuel enough
  obtain ⟨fuel, rfl⟩ : ∃ n, fuel = n + 1 := ⟨fuel - 1, by omega⟩
  rfl

theorem blank (h : CutInto p s tokens) : CutInto p (' ' :: s) tokens := by
  intro fuel enough
  rw [List.length_cons] at enough
  obtain ⟨fuel, rfl⟩ : ∃ n, fuel = n + 1 := ⟨fuel - 1, by omega⟩
  have separates : isSeparator ' ' = true := rfl
  rw [wordsFrom, if_pos separates]
  exact h fuel (by omega)

/-- A word is read where it may stand. -/
theorem word (begins : isSeparator c = false ∧ c ≠ '\n' ∧ c ≠ '#' ∧ c ≠ '\\')
    (read : word? (c :: s) = some (token, rest)) (shorter : rest.length ≤ s.length)
    (place : p.afterToken? token = some p') (h : CutInto p' rest tokens) :
    CutInto p (c :: s) (token :: tokens) := by
  intro fuel enough
  rw [List.length_cons] at enough
  obtain ⟨fuel, rfl⟩ : ∃ n, fuel = n + 1 := ⟨fuel - 1, by omega⟩
  obtain ⟨separator, newline, comment, backslash⟩ := begins
  have others := h fuel (by omega)
  rw [wordsFrom, if_neg (by rw [separator]; decide), if_neg newline, if_neg comment,
    if_neg backslash, read]
  simp only [place, others]

end CutInto

/-- The position inside the brackets of a dictionary. -/
def Position.inBraces : Position := { depth := 1, started := true }

section Texts

variable {codes : List Nat} (bound : ∀ code ∈ codes, code ≤ maxCode)

include bound

/-- **Quoted text is a word.** -/
theorem word?_quoteCodes {stop : Char} (single : stop ≠ '\'') (double : stop ≠ '"')
    (rest : List Char) :
    word? (quoteCodes codes ++ stop :: rest) = some (.text codes, stop :: rest) := by
  have inside := quotation?_quoteCodes bound single double rest
  have denoted := unescape_flatMap_quoteCode (quoteFor_eq codes) bound
  rw [quoteCodes, List.cons_append, List.cons_append] at inside ⊢
  generalize List.flatMap (quoteCode (quoteFor codes)) codes = body at inside denoted ⊢
  have quotes := quoteFor_eq codes
  generalize quoteFor codes = quote at inside quotes ⊢
  -- no letter stands before the quote, so this is a plain quotation with escapes
  have noLetter : quote.isAlpha = false := by rcases quotes with rfl | rfl <;> rfl
  have front (s : List Char) : (quote :: s).dropWhile Char.isAlpha = quote :: s := by
    rw [List.dropWhile_cons_of_neg (by rw [noLetter]; decide)]
  have kind (s : List Char) : quotationKind? (quote :: s) = some {} := by
    have letters : (quote :: s).takeWhile Char.isAlpha = [] := by
      rw [List.takeWhile_cons_of_neg (by rw [noLetter]; decide)]
    rw [quotationKind?, front, letters]
    rcases quotes with rfl | rfl <;> rfl
  rw [word?, kind]
  simp only [quotationWord?, front, inside, Option.bind_some]
  rw [quotationToken?]
  simp only [Bool.false_eq_true, if_false, Bool.not_false, denoted, Option.map_some]

theorem CutInto.text {stop : Char} (single : stop ≠ '\'') (double : stop ≠ '"') {rest : List Char}
    {tokens : List Token} (h : CutInto .inBraces (stop :: rest) tokens) :
    CutInto .inBraces (quoteCodes codes ++ stop :: rest) (.text codes :: tokens) := by
  have read := word?_quoteCodes bound single double rest
  have quotes := quoteFor_eq codes
  rw [quoteCodes, List.cons_append, List.cons_append] at read ⊢
  refine .word ?_ read ?_ rfl h
  · rcases quotes with same | same <;> rw [same] <;> decide
  · simp only [List.length_append, List.length_cons]
    omega

end Texts

/-- The words of an entry, and what stands behind it. -/
def entryTokens (entry : TextEntry) (behind : List Token) : List Token :=
  .text entry.1 :: .colon :: .text entry.2 :: behind

/-- The words behind an entry. -/
def tokensBehind : List TextEntry → List Token
  | [] => [.closing '\x7d']
  | entry :: rest => .comma :: entryTokens entry (tokensBehind rest)

/-- An entry is cut into its words. -/
theorem CutInto.entry {entry : TextEntry} (coded : Coded entry) {rest : List TextEntry}
    {tokens : List Token} (h : CutInto .inBraces (textBehind rest) tokens) :
    CutInto .inBraces (entryText entry (textBehind rest)) (entryTokens entry tokens) := by
  obtain ⟨stop, more, same, single, double⟩ := textBehind_eq_cons rest
  rw [same] at h
  rw [entryText, same]
  have val := CutInto.text coded.2 single double h
  have colon : CutInto .inBraces (':' :: ' ' :: (quoteCodes entry.2 ++ stop :: more))
      (.colon :: .text entry.2 :: tokens) :=
    .word (by decide) rfl (Nat.le_refl _) rfl val.blank
  exact .text coded.1 (by decide) (by decide) colon

/-- The words of a dictionary with the given entries. -/
def tokensOf : List TextEntry → List Token
  | [] => [.opening '\x7b', .closing '\x7d']
  | entry :: rest => .opening '\x7b' :: entryTokens entry (tokensBehind rest)

/-- Every entry takes at least one character. -/
theorem length_le_length_textOf (entries : List TextEntry) :
    entries.length ≤ (textOf entries).length := by
  have behind (rest : List TextEntry) : rest.length ≤ (textBehind rest).length := by
    induction rest with
    | nil => exact Nat.zero_le _
    | cons entry rest ih =>
      simp only [textBehind, entryText, List.length_cons, List.length_append]
      omega
  cases entries with
  | nil => exact Nat.zero_le _
  | cons entry rest =>
    have := behind rest
    simp only [textOf, entryText, List.length_cons, List.length_append]
    omega

/-- What is written of an entry can be seen. -/
theorem isPrintable_entryText {entry : TextEntry} {behind : List Char} (coded : Coded entry)
    (visible : ∀ c ∈ behind, isPrintable c.toNat = true) :
    ∀ c ∈ entryText entry behind, isPrintable c.toNat = true := by
  have colon : isPrintable ':'.toNat = true := by decide +kernel
  have blank : isPrintable ' '.toNat = true := by decide +kernel
  have val := List.forall_mem_append.2 ⟨isPrintable_of_mem_quoteCodes coded.2, visible⟩
  exact List.forall_mem_append.2 ⟨isPrintable_of_mem_quoteCodes coded.1,
    List.forall_mem_cons.2 ⟨colon, List.forall_mem_cons.2 ⟨blank, val⟩⟩⟩

section Entries

variable {entries : List TextEntry} (coded : ∀ entry ∈ entries, Coded entry)

include coded

theorem isPrintable_textBehind : ∀ c ∈ textBehind entries, isPrintable c.toNat = true := by
  have comma : isPrintable ','.toNat = true := by decide +kernel
  have blank : isPrintable ' '.toNat = true := by decide +kernel
  have brace : isPrintable '\x7d'.toNat = true := by decide +kernel
  induction entries with
  | nil => exact List.forall_mem_singleton.2 brace
  | cons entry rest ih =>
    obtain ⟨first, others⟩ := List.forall_mem_cons.1 coded
    exact List.forall_mem_cons.2 ⟨comma, List.forall_mem_cons.2 ⟨blank,
      isPrintable_entryText first (ih others)⟩⟩

/-- All that is written of a dictionary can be seen. -/
theorem isPrintable_textOf : ∀ c ∈ textOf entries, isPrintable c.toNat = true := by
  have opening : isPrintable '\x7b'.toNat = true := by decide +kernel
  have closing : isPrintable '\x7d'.toNat = true := by decide +kernel
  cases entries with
  | nil => exact List.forall_mem_cons.2 ⟨opening, List.forall_mem_singleton.2 closing⟩
  | cons entry rest =>
    obtain ⟨first, others⟩ := List.forall_mem_cons.1 coded
    exact List.forall_mem_cons.2 ⟨opening,
      isPrintable_entryText first (isPrintable_textBehind others)⟩

/-- The words of an entry and of what is behind it, for all entries but the first. -/
theorem cutInto_textBehind : CutInto .inBraces (textBehind entries) (tokensBehind entries) := by
  induction entries with
  | nil => exact .word (by decide) rfl (Nat.le_refl _) rfl .nil
  | cons entry rest ih =>
    obtain ⟨first, others⟩ := List.forall_mem_cons.1 coded
    exact .word (by decide) rfl (Nat.le_refl _) rfl (CutInto.entry first (ih others)).blank

theorem cutInto_textOf : CutInto {} (textOf entries) (tokensOf entries) := by
  cases entries with
  | nil =>
    have closing : CutInto .inBraces ['\x7d'] [.closing '\x7d'] := cutInto_textBehind coded
    exact .word (by decide) rfl (Nat.le_refl _) rfl closing
  | cons entry rest =>
    obtain ⟨first, others⟩ := List.forall_mem_cons.1 coded
    exact .word (by decide) rfl (Nat.le_refl _) rfl (.entry first (cutInto_textBehind others))

/-- **A written dictionary is cut into its words.** -/
theorem words_textOf : words (textOf entries) = (tokensOf entries, true) := by
  have noNull : (textOf entries).contains '\x00' = false := by
    have hidden : isPrintable '\x00'.toNat = false := by decide +kernel
    rw [List.contains_eq_mem, decide_eq_false_iff_not]
    intro null
    have visible := isPrintable_textOf coded _ null
    rw [hidden] at visible
    cases visible
  have front : (textOf entries).dropWhile (fun c => c == ' ' || c == '\t') = textOf entries := by
    cases entries <;> rfl
  rw [words, noNull, if_neg (by decide), front]
  exact cutInto_textOf coded _ (Nat.lt_succ_self _)

end Entries

/-! ### Descent -/

/-- Where the pass over the words is behind an entry. -/
def Descent.behindEntry (elements : List Nat) (expression deepest : Nat) : Descent where
  top := { elements, expression }
  outer := [.ofElements textRules]
  expects := false
  deepest

/-- The entries from the second one on are all at the same depth. -/
theorem deepest_tokensBehind (entries : List TextEntry) :
    ((tokensBehind entries).foldl Descent.step (.behindEntry [33] 33 57)).deepest = 57 := by
  induction entries with
  | nil => rfl
  | cons entry rest ih =>
    -- the words of one more entry lead back to the same place
    have back : (tokensBehind (entry :: rest)).foldl Descent.step (.behindEntry [33] 33 57)
        = (tokensBehind rest).foldl Descent.step (.behindEntry [33] 33 57) := rfl
    rw [back, ih]

/-- **A written dictionary takes few rules of the grammar at once**, however many entries it has. -/
theorem descent_tokensOf_le (entries : List TextEntry) : descent (tokensOf entries) ≤ 57 := by
  match entries with
  | [] => decide
  | [entry] =>
    have deepest : descent (tokensOf [entry]) = 56 := rfl
    rw [deepest]
    decide
  | entry :: next :: rest =>
    have reached : descent (tokensOf (entry :: next :: rest))
        = ((tokensBehind rest).foldl Descent.step (.behindEntry [33] 33 57)).deepest := rfl
    exact Nat.le_of_eq (reached.trans (deepest_tokensBehind rest))

/-! ### Expressions -/

/-- The expressions of entries. -/
def expressionsOf (entries : List TextEntry) : List (Expression × Expression) :=
  entries.map fun entry => (.constant (.text entry.1), .constant (.text entry.2))

/-- An entry is read, and then what stands behind it. -/
theorem entries?_entryTokens (n : Nat) (entry : TextEntry) (rest : List TextEntry) :
    entries? (n + 11) (entryTokens entry (tokensBehind rest))
      = (entriesBehind? (n + 10) (tokensBehind rest)).bind fun parts =>
          some ((.constant (.text entry.1), .constant (.text entry.2)) :: parts.1, parts.2) := by
  -- the words of the entry are read by evaluation, given which word is behind them
  cases rest with
  | nil => rfl
  | cons next rest => rfl

/-- **The entries behind one are read**, each of which takes two more rules. -/
theorem entriesBehind?_tokensBehind (entries : List TextEntry) (n : Nat) :
    entriesBehind? (2 * entries.length + n + 10) (tokensBehind entries)
      = some (expressionsOf entries, []) := by
  induction entries with
  | nil =>
    rw [List.length_nil, Nat.mul_zero, Nat.zero_add]
    rfl
  | cons entry rest ih =>
    have size : 2 * (entry :: rest).length + n + 10 = (2 * rest.length + n + 11) + 1 := by
      rw [List.length_cons]
      omega
    have comma : entriesBehind? ((2 * rest.length + n + 11) + 1) (tokensBehind (entry :: rest))
        = entries? (2 * rest.length + n + 11) (entryTokens entry (tokensBehind rest)) := rfl
    rw [size, comma, entries?_entryTokens, ih]
    rfl

/-- The entries between the braces are read. -/
theorem braces?_entryTokens (n : Nat) (entry : TextEntry) (rest : List TextEntry) :
    braces? (2 * rest.length + n + 11) (entryTokens entry (tokensBehind rest))
      = some (.dict (expressionsOf (entry :: rest)), []) := by
  have opened : braces? (2 * rest.length + n + 10 + 1) (entryTokens entry (tokensBehind rest))
      = (entriesBehind? (2 * rest.length + n + 10) (tokensBehind rest)).bind fun parts =>
          some (.dict ((.constant (.text entry.1), .constant (.text entry.2)) :: parts.1),
            parts.2) := by
    cases rest with
    | nil => rfl
    | cons next rest => rfl
  rw [opened, entriesBehind?_tokensBehind]
  rfl

/-- Braces with nothing behind them are an expression. -/
theorem expression?_of_braces? {n : Nat} {s : List Token} {e : Expression}
    (h : braces? n s = some (e, [])) :
    expression? (n + 8) (.opening '\x7b' :: s) = some (e, []) := by
  have atom : atom? (n + 1) (.opening '\x7b' :: s) = some (e, []) := h
  have primary : primary? (n + 2) (.opening '\x7b' :: s) = some ((e, false), []) := by
    rw [primary?, atom]
    · rfl
    · rintro _ _ ⟨⟩
  have operand : operand? (n + 3) (.opening '\x7b' :: s) = some (e, []) := by
    rw [operand?, primary]
    · rfl
    · rintro _ ⟨⟩
  have factor : factor? (n + 4) (.opening '\x7b' :: s) = some (e, []) := by
    rw [factor?, operand]
    · rfl
    · rintro _ _ ⟨⟩
    · rintro _ ⟨⟩
  have sum : sum? (n + 5) (.opening '\x7b' :: s) = some (e, []) := by
    rw [sum?, factor]
    rfl
  have inversion : inversion? (n + 6) (.opening '\x7b' :: s) = some (e, []) := by
    rw [inversion?, sum]
    · rfl
    · rintro _ ⟨⟩
  have disjunction : disjunction? (n + 7) (.opening '\x7b' :: s) = some (e, []) := by
    rw [disjunction?, inversion]
    rfl
  rw [expression?, disjunction]
  · rfl
  · rintro _ ⟨⟩

/-- **The words of a written dictionary are the expression of its entries.** -/
theorem wholeExpression?_tokensOf (entries : List TextEntry) (length : Nat)
    (enough : entries.length ≤ length) :
    wholeExpression? length (tokensOf entries) = some (.dict (expressionsOf entries)) := by
  -- every entry takes two rules but has more than one character, of which each allows sixteen
  have read : ∃ n s, depthPerCharacter * (length + 1) = n + 8 ∧
      tokensOf entries = .opening '\x7b' :: s ∧
      braces? n s = some (.dict (expressionsOf entries), []) := by
    unfold depthPerCharacter
    cases entries with
    | nil =>
      obtain ⟨n, size⟩ : ∃ n, 16 * (length + 1) = n + 1 + 8 := ⟨16 * (length + 1) - 9, by omega⟩
      exact ⟨_, _, size, rfl, rfl⟩
    | cons entry rest =>
      rw [List.length_cons] at enough
      obtain ⟨n, size⟩ : ∃ n, 16 * (length + 1) = 2 * rest.length + n + 11 + 8 :=
        ⟨16 * (length + 1) - (2 * rest.length + 19), by omega⟩
      exact ⟨_, _, size, rfl, braces?_entryTokens n entry rest⟩
  obtain ⟨n, s, size, layout, braces⟩ := read
  have whole : expressions? (n + 7 + 1) (.opening '\x7b' :: s)
      = some ([.dict (expressionsOf entries)], false) := by
    rw [expressions?, expression?_of_braces? braces]
    rfl
  rw [wholeExpression?, size, layout, whole]
  rfl

/-! ### Data -/

/-- A dictionary of texts is no deep operand. -/
theorem depth_expressionsOf (entries : List TextEntry) :
    (Expression.dict (expressionsOf entries)).depth = 1 := by
  have flat : Expression.depthOfEntries (expressionsOf entries) = 0 := by
    induction entries with
    | nil => rfl
    | cons entry rest ih =>
      rw [expressionsOf, List.map_cons, Expression.depthOfEntries, ← expressionsOf, ih]
      rfl
  rw [Expression.depth, flat]

/-- An entry with a new key is the last one. -/
theorem put_dataOf {entries : List TextEntry} {key : List Nat}
    (new : key ∉ entries.map Prod.fst) (val : List Nat) :
    (dataOf entries).put (.text key) (.text val) = dataOf (entries ++ [(key, val)]) := by
  induction entries with
  | nil => rfl
  | cons entry rest ih =>
    rw [List.map_cons, List.mem_cons, not_or] at new
    -- two texts are the same key only if they are equal
    have differs : (Value.text entry.1).same (.text key) = false := by
      rw [Value.same]
      exact beq_eq_false_iff_ne.2 (Ne.symm new.1)
    have step : (dataOf (entry :: rest)).put (.text key) (.text val)
        = if (Value.text entry.1).same (.text key) then
            (.text entry.1, .text val) :: dataOf rest
          else (.text entry.1, .text entry.2) :: (dataOf rest).put (.text key) (.text val) := rfl
    rw [step, differs, if_neg (by decide), ih new.2]
    rfl

/-- Entries with distinct keys are added one after the other. -/
theorem entriesFrom_expressionsOf {before entries : List TextEntry}
    (distinct : ((before ++ entries).map Prod.fst).Nodup) :
    Expression.entriesFrom (dataOf before) (expressionsOf entries)
      = .ok (dataOf (before ++ entries)) := by
  induction entries generalizing before with
  | nil =>
    rw [List.append_nil]
    rfl
  | cons entry rest ih =>
    have new : entry.1 ∉ before.map Prod.fst := by
      rw [List.map_append, List.map_cons, List.nodup_append] at distinct
      exact fun mem => distinct.2.2 _ mem _ List.mem_cons_self rfl
    have added : Expression.entriesFrom (dataOf before) (expressionsOf (entry :: rest))
        = Expression.entriesFrom ((dataOf before).put (.text entry.1) (.text entry.2))
            (expressionsOf rest) := rfl
    have order : before ++ [entry] ++ rest = before ++ entry :: rest := by
      rw [List.append_assoc, List.singleton_append]
    rw [added, put_dataOf new, ← order]
    exact ih (by rw [order]; exact distinct)

namespace TextDictionary

variable (d : TextDictionary)

theorem written_eq : d.written = textOf d.entries :=
  literal_dict d.entries

/-- **A written dictionary is read back.** -/
theorem readLiteral_written : readLiteral d.written = .ok (.dict d.data) := by
  have shallow : ¬maxDescent < descent (tokensOf d.entries) := by
    have few := descent_tokensOf_le d.entries
    unfold maxDescent
    omega
  have flat : ¬maxOperandDepth < (Expression.dict (expressionsOf d.entries)).depth := by
    rw [depth_expressionsOf]
    decide
  have datum : (Expression.dict (expressionsOf d.entries)).value = .ok (.dict d.data) := by
    have added : Expression.entriesFrom [] (expressionsOf d.entries) = .ok (dataOf d.entries) :=
      @entriesFrom_expressionsOf [] d.entries d.distinct
    rw [Expression.value, added]
    rfl
  have whole := wholeExpression?_tokensOf d.entries _ (length_le_length_textOf d.entries)
  rw [written_eq, readLiteral, words_textOf d.coded]
  simp only [shallow, if_false, Bool.not_true, Bool.false_eq_true, whole, flat, datum]

end TextDictionary

end TicketMigration.Literal
