import TicketMigration.Literal.Quotation
import TicketMigration.Text.Quoted

/-!
# Reading back quoted text

A text between quotes is read back as it was.  Every code point is shown in one of three ways: by an
escape of one letter, as itself, or by its number in hexadecimal.  Each of them is read up to its
end, does not end the quotation, and denotes that code point again.

## Main definitions

* `hexRange` — how many numbers some hexadecimal digits can write.
* `Shown` — how a code point stands between quotes.

## Main statements

* `shown_quoteCode` — a code point is shown in one of these ways.
* `hexDigits?_hexPadded` — a number in hexadecimal is read back.
* `quotation?_quoteCodes` — **quoted text is read up to its closing quote.**
* `unescape_flatMap_quoteCode` — **what stands between the quotes denotes the text.**
-/

namespace TicketMigration.Literal

open Text

/-! ### Hexadecimal digits -/

theorem hexValue?_hexDigit {n : Nat} (h : n < 16) : hexValue? (hexDigit n) = some n := by
  have all : ∀ n < 16, hexValue? (hexDigit n) = some n := by decide +kernel
  exact all n h

/-- Digits are read one part after the other. -/
theorem hexDigits?_append (front : List Char) (count value : Nat) (s : List Char) :
    hexDigits? (front.length + count) value (front ++ s)
      = (hexDigits? front.length value front).bind fun value => hexDigits? count value s := by
  induction front generalizing value with
  | nil =>
    rw [List.length_nil, Nat.zero_add, List.nil_append, hexDigits?, Option.bind_some]
  | cons c front ih =>
    rw [List.length_cons, Nat.add_right_comm, List.cons_append, hexDigits?, hexDigits?]
    cases hexValue? c with
    | none => rfl
    | some d => simp only [Option.bind_some, ih]

theorem length_hexPadded (width n : Nat) : (hexPadded width n).length = width := by
  induction width generalizing n with
  | zero => rfl
  | succ width ih => rw [hexPadded, List.length_append, ih, List.length_singleton]

/-- How many numbers can be written with as many hexadecimal digits. -/
def hexRange : Nat → Nat
  | 0 => 1
  | width + 1 => 16 * hexRange width

/-- **A number in hexadecimal is read back**, as far as it has digits. -/
theorem hexDigits?_hexPadded (width value n : Nat) (s : List Char) :
    hexDigits? width value (hexPadded width n ++ s)
      = some (value * hexRange width + n % hexRange width) := by
  induction width generalizing n s with
  | zero => rw [hexDigits?, hexRange, Nat.mod_one, Nat.mul_one, Nat.add_zero]
  | succ width ih =>
    -- the last digit is behind the others
    have others := hexDigits?_append (hexPadded width (n / 16)) 1 value
      (hexDigit (n % 16) :: s)
    rw [length_hexPadded] at others
    have alone := ih (n / 16) []
    rw [List.append_nil] at alone
    rw [hexPadded, List.append_assoc, List.singleton_append, others, alone, Option.bind_some,
      hexDigits?, hexValue?_hexDigit (Nat.mod_lt n (by decide)), Option.bind_some, hexDigits?]
    have split : n % (16 * hexRange width) = n % 16 + 16 * (n / 16 % hexRange width) := Nat.mod_mul
    have shifted : value * (16 * hexRange width) = value * hexRange width * 16 := by
      rw [Nat.mul_comm 16, Nat.mul_assoc]
    rw [hexRange, split, shifted]
    refine congrArg some ?_
    omega

/-! ### Code points between quotes -/

/-- How a code point stands between quotes. -/
inductive Shown (quote : Char) (code : Nat) : List Char → Prop
  /-- By an escape of one letter. -/
  | letter (c : Char) (known : letterEscapes.lookup c = some code)
      (visible : isPrintable c.toNat = true) : Shown quote code ['\\', c]
  /-- As itself. -/
  | itself (c : Char) (same : c.toNat = code) (visible : isPrintable code = true)
      (inside : c ≠ quote) (unescaped : c ≠ '\\') : Shown quote code [c]
  /-- By its number. -/
  | number (kind : Char) (count : Nat) (known : (kind, count) ∈ hexEscapes true)
      (fits : code < hexRange count) : Shown quote code ('\\' :: kind :: hexPadded count code)

/-- The printable code points are characters. -/
theorem toNat_ofNat_of_isPrintable {code : Nat} (h : isPrintable code = true) :
    (Char.ofNat code).toNat = code := by
  have ranges : ∀ range ∈ printableRanges,
      range.2 < 0xD800 ∨ 0xDFFF < range.1 ∧ range.2 < 0x110000 := by decide +kernel
  obtain ⟨range, mem, lies⟩ := List.any_eq_true.1 h
  rw [Bool.and_eq_true, decide_eq_true_eq, decide_eq_true_eq] at lies
  have valid : code.isValidChar := by
    rcases ranges range mem with low | high
    · exact .inl (by omega)
    · exact .inr (by omega)
  rw [Char.ofNat, dif_pos valid]
  rfl

variable {quote : Char} (quotes : quote = '\'' ∨ quote = '"')

include quotes

/-- **A code point is shown in one of these ways.** -/
theorem shown_quoteCode {code : Nat} (bound : code ≤ maxCode) :
    Shown quote code (quoteCode quote code) := by
  unfold quoteCode
  split
  · next special =>
    -- the quote and the backslash are their own letters
    rcases quotes with rfl | rfl
    · have : code = 39 ∨ code = 92 := by simpa using special
      rcases this with rfl | rfl
      · exact .letter '\'' (by decide) (by decide +kernel)
      · exact .letter '\\' (by decide) (by decide +kernel)
    · have : code = 34 ∨ code = 92 := by simpa using special
      rcases this with rfl | rfl
      · exact .letter '"' (by decide) (by decide +kernel)
      · exact .letter '\\' (by decide) (by decide +kernel)
  · next ordinary =>
    split
    · next newline => exact newline ▸ .letter 'n' (by decide) (by decide +kernel)
    · split
      · next carriage => exact carriage ▸ .letter 'r' (by decide) (by decide +kernel)
      · split
        · next tab => exact tab ▸ .letter 't' (by decide) (by decide +kernel)
        · split
          · next visible =>
            have same := toNat_ofNat_of_isPrintable visible
            have neither : code ≠ quote.toNat ∧ code ≠ '\\'.toNat := by simpa using ordinary
            refine .itself _ same visible (fun h => neither.1 ?_) (fun h => neither.2 ?_)
            · rw [← h, same]
            · rw [← h, same]
          · have ranges : hexRange 2 = 0x100 ∧ hexRange 4 = 0x10000 ∧ hexRange 8 = 0x100000000 := by
              decide
            unfold hexEscape
            unfold maxCode at bound
            split
            · exact .number 'x' 2 (by decide) (by omega)
            · split
              · exact .number 'u' 4 (by decide) (by omega)
              · exact .number 'U' 8 (by decide) (by omega)

omit quotes

namespace Shown

variable {code : Nat} {shown : List Char}

theorem isPrintable_hexPadded (width n : Nat) :
    ∀ c ∈ hexPadded width n, isPrintable c.toNat = true ∧ c.isAlphanum = true := by
  have digit : ∀ n < 16,
      isPrintable (hexDigit n).toNat = true ∧ (hexDigit n).isAlphanum = true := by decide +kernel
  induction width generalizing n with
  | zero => simp [hexPadded]
  | succ width ih =>
    rw [hexPadded]
    refine List.forall_mem_append.2 ⟨ih (n / 16), ?_⟩
    intro c hc
    rw [List.mem_singleton.1 hc]
    exact digit _ (Nat.mod_lt n (by decide))

/-- All that is shown can be seen. -/
theorem visible (h : Shown quote code shown) : ∀ c ∈ shown, isPrintable c.toNat = true := by
  have backslash : isPrintable '\\'.toNat = true := by decide +kernel
  cases h with
  | letter c _ visible =>
    exact List.forall_mem_cons.2 ⟨backslash, List.forall_mem_singleton.2 visible⟩
  | itself c same visible => simpa [same] using visible
  | number kind count known =>
    have kinds : ∀ entry ∈ hexEscapes true, isPrintable entry.1.toNat = true := by decide +kernel
    intro c hc
    rcases List.mem_cons.1 hc with rfl | hc
    · exact backslash
    · rcases List.mem_cons.1 hc with rfl | hc
      · exact kinds _ known
      · exact (isPrintable_hexPadded _ _ c hc).1

end Shown

/-- A character that neither ends a quotation nor keeps the next one from it stands in it. -/
theorem quotationBody?_cons {c : Char} (hq : c ≠ quote) (hb : c ≠ '\\') (hn : c ≠ '\n')
    (s : List Char) : quotationBody? [quote] (c :: s)
      = (quotationBody? [quote] s).map fun parts => (c :: parts.1, parts.2) := by
  rw [quotationBody?]
  · simp [hq, hn]
  · exact fun alone => absurd alone hb
  · exact fun _ _ same => absurd same hb

theorem quotationBody?_append {u : List Char} (hq : quote ∉ u) (hb : '\\' ∉ u) (hn : '\n' ∉ u)
    (s : List Char) : quotationBody? [quote] (u ++ s)
      = (quotationBody? [quote] s).map fun parts => (u ++ parts.1, parts.2) := by
  induction u with
  | nil => simp
  | cons c u ih =>
    rw [List.mem_cons, not_or] at hq hb hn
    rw [List.cons_append, quotationBody?_cons (Ne.symm hq.1) (Ne.symm hb.1) (Ne.symm hn.1),
      ih hq.2 hb.2 hn.2, Option.map_map]
    rfl

include quotes

/-- What is shown does not end a quotation. -/
theorem Shown.quotationBody? {code : Nat} {shown : List Char} (h : Shown quote code shown)
    (s : List Char) : quotationBody? [quote] (shown ++ s)
      = (quotationBody? [quote] s).map fun parts => (shown ++ parts.1, parts.2) := by
  cases h with
  | letter c _ _ => rfl
  | itself c same visible inside unescaped =>
    refine quotationBody?_append (by simpa using Ne.symm inside) (by simpa using Ne.symm unescaped)
      ?_ s
    intro newline
    have breaks : isPrintable '\n'.toNat = false := by decide +kernel
    rw [← same, ← List.mem_singleton.1 newline, breaks] at visible
    cases visible
  | number kind count known fits =>
    -- the digits are neither quotes nor backslashes, and they stay on the line
    have digits := isPrintable_hexPadded count code
    have quote' : quote.isAlphanum = false := by rcases quotes with rfl | rfl <;> decide
    have absent {c : Char} (hc : c.isAlphanum = false) : c ∉ hexPadded count code := by
      intro hm
      rw [(digits c hm).2] at hc
      cases hc
    rw [List.cons_append, List.cons_append, Literal.quotationBody?,
      quotationBody?_append (absent quote') (absent (by decide)) (absent (by decide)),
      Option.map_map]
    rfl

/-- What is shown begins with no quote. -/
theorem Shown.eq_cons {code : Nat} {shown : List Char} (h : Shown quote code shown) :
    ∃ c rest, shown = c :: rest ∧ c ≠ quote := by
  have backslash : '\\' ≠ quote := by rcases quotes with rfl | rfl <;> decide
  cases h with
  | letter c => exact ⟨'\\', [c], rfl, backslash⟩
  | itself c _ _ inside => exact ⟨c, [], rfl, inside⟩
  | number kind count => exact ⟨'\\', _, rfl, backslash⟩

omit quotes

/-! ### Escapes -/

theorem unescape_letter {c : Char} {code : Nat} (known : letterEscapes.lookup c = some code)
    (s : List Char) : unescape true ('\\' :: c :: s) = (unescape true s).map (code :: ·) := by
  -- a backslash before a line end is no escape of a letter
  have newline : c ≠ '\n' := by
    rintro rfl
    cases known
  have escape : escape? true (c :: s) = some ([code], 1) := by
    rw [escape?, if_neg newline, known]
  rw [unescape, if_pos rfl, escape]
  rfl

theorem unescape_number {kind : Char} {count code : Nat} (known : (kind, count) ∈ hexEscapes true)
    (fits : code < hexRange count) (bound : code ≤ maxCode) (s : List Char) :
    unescape true ('\\' :: kind :: (hexPadded count code ++ s))
      = (unescape true s).map (code :: ·) := by
  have found : kind ≠ '\n' ∧ letterEscapes.lookup kind = none ∧
      (hexEscapes true).lookup kind = some count := by
    have all : ∀ entry ∈ hexEscapes true, entry.1 ≠ '\n' ∧ letterEscapes.lookup entry.1 = none ∧
        (hexEscapes true).lookup entry.1 = some entry.2 := by decide
    exact all _ known
  obtain ⟨newline, letter, hex⟩ := found
  have number : hexDigits? count 0 (hexPadded count code ++ s) = some code := by
    rw [hexDigits?_hexPadded, Nat.zero_mul, Nat.zero_add, Nat.mod_eq_of_lt fits]
  have escape : escape? true (kind :: (hexPadded count code ++ s)) = some ([code], count + 1) := by
    rw [escape?, if_neg newline, letter, hex]
    simp only [number, Option.bind_some, if_pos bound]
  have behind : (kind :: (hexPadded count code ++ s)).drop (count + 1) = s := by
    rw [List.drop_succ_cons, List.drop_left' (length_hexPadded count code)]
  rw [unescape, if_pos rfl, escape]
  simp only [Option.bind_some, behind]
  rfl

/-- What is shown denotes its code point. -/
theorem Shown.unescape {code : Nat} {shown : List Char} (h : Shown quote code shown)
    (bound : code ≤ maxCode) (s : List Char) :
    unescape true (shown ++ s) = (unescape true s).map (code :: ·) := by
  cases h with
  | letter c known => exact unescape_letter known s
  | itself c same _ _ unescaped =>
    rw [List.singleton_append, Literal.unescape, if_neg unescaped, Bool.true_or, if_pos rfl, same]
  | number kind count known fits => exact unescape_number known fits bound s

/-! ### Quotations -/

theorem quoteFor_eq (codes : List Nat) : quoteFor codes = '\'' ∨ quoteFor codes = '"' := by
  unfold quoteFor
  split
  · exact .inr rfl
  · exact .inl rfl

section Codes

variable {codes : List Nat} (bound : ∀ code ∈ codes, code ≤ maxCode)

include quotes bound

/-- What stands between the quotes goes to the closing quote. -/
theorem quotationBody?_flatMap_quoteCode (rest : List Char) :
    quotationBody? [quote] (codes.flatMap (quoteCode quote) ++ quote :: rest)
      = some (codes.flatMap (quoteCode quote), rest) := by
  induction codes with
  | nil => rcases quotes with rfl | rfl <;> rfl
  | cons code codes ih =>
    obtain ⟨first, others⟩ := List.forall_mem_cons.1 bound
    rw [List.flatMap_cons, List.append_assoc, (shown_quoteCode quotes first).quotationBody? quotes,
      ih others]
    rfl

/-- **What stands between the quotes denotes the text.** -/
theorem unescape_flatMap_quoteCode :
    unescape true (codes.flatMap (quoteCode quote)) = some codes := by
  induction codes with
  | nil =>
    rw [List.flatMap_nil, unescape]
  | cons code codes ih =>
    obtain ⟨first, others⟩ := List.forall_mem_cons.1 bound
    rw [List.flatMap_cons, (shown_quoteCode quotes first).unescape first, ih others]
    rfl

omit quotes

/-- **Quoted text is read up to its closing quote**, if no other quote follows. -/
theorem quotation?_quoteCodes {stop : Char} (single : stop ≠ '\'') (double : stop ≠ '"')
    (rest : List Char) :
    quotation? (quoteCodes codes ++ stop :: rest)
      = some (codes.flatMap (quoteCode (quoteFor codes)), stop :: rest) := by
  generalize chosen : quoteFor codes = quote
  have quotes : quote = '\'' ∨ quote = '"' := chosen ▸ quoteFor_eq codes
  have other : stop ≠ quote := by rcases quotes with rfl | rfl <;> assumption
  have layout : quoteCodes codes ++ stop :: rest
      = quote :: (codes.flatMap (quoteCode quote) ++ quote :: stop :: rest) := by
    rw [quoteCodes, chosen, List.cons_append, List.cons_append, List.append_assoc,
      List.singleton_append]
  -- the opening quote does not stand three times
  have one : after? [quote, quote] (codes.flatMap (quoteCode quote) ++ quote :: stop :: rest)
      = none := by
    cases codes with
    | nil => simp [other]
    | cons code codes =>
      obtain ⟨c, more, same, differs⟩ :=
        (shown_quoteCode quotes (bound code List.mem_cons_self)).eq_cons quotes
      rw [List.flatMap_cons, same]
      simp [differs]
  have isQuote : (quote = '\'' || quote = '"') = true := by
    rcases quotes with rfl | rfl <;> rfl
  rw [layout, quotation?, if_pos isQuote, one]
  exact quotationBody?_flatMap_quoteCode quotes bound (stop :: rest)

/-- All that stands in quoted text can be seen. -/
theorem isPrintable_of_mem_quoteCodes : ∀ c ∈ quoteCodes codes, isPrintable c.toNat = true := by
  have quotes := quoteFor_eq codes
  have visible : isPrintable (quoteFor codes).toNat = true := by
    rcases quotes with h | h <;> rw [h] <;> decide +kernel
  rw [quoteCodes]
  refine List.forall_mem_append.2 ⟨List.forall_mem_cons.2 ⟨visible, ?_⟩,
    List.forall_mem_singleton.2 visible⟩
  intro c hc
  obtain ⟨code, mem, hc⟩ := List.mem_flatMap.1 hc
  exact (shown_quoteCode quotes (bound code mem)).visible c hc

end Codes

end TicketMigration.Literal
