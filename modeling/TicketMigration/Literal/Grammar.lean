import TicketMigration.Literal.Expression
import TicketMigration.Literal.Template

/-!
# The grammar of expressions

Expressions of all kinds are read, not only those that denote a datum.  So a fault in a part of a
text is told from a text that cannot be read at all: a list that is used as a key is found although
a call stands behind it, but not if a bracket stays open there.

Each function reads one part of the grammar at the front of a list of words and gives the words
behind it.  Its first argument bounds how deep the grammar is entered.

## Main definitions

* `expression?` reads an expression, `sum?` one of signs and operators, `atom?` one without.
* `round?`, `square?` and `braces?` read the inside of brackets, `item?` what stands between commas.
* `clauses?` and `targets?` read the loops of a comprehension, `arguments?` the arguments of a call,
  `subscripts?` what selects an element, `parameters?` the parameters of a function.
* `template?` reads a text with holes.
* `expressions?` reads a whole text.
-/

namespace TicketMigration.Literal

/-- What stands between commas. -/
inductive Item
  /-- An expression. -/
  | plain (e : Expression)
  /-- An expression with a name for its datum. -/
  | named (e : Expression)
  /-- An expression whose elements are spread out. -/
  | spread (e : Expression)

namespace Item

/-- The expression of an item as an element. -/
def expression : Item → Expression
  | plain e => e
  | named e | spread e => .compound [e]

/-- Whether elements are spread out. -/
def isSpread : Item → Bool
  | spread _ => true
  | _ => false

end Item

/-! ### Words -/

namespace Token

/-- Whether the word begins a loop of a comprehension. -/
def beginsLoop : Token → Bool
  | keyword k => k == "for" || k == "async"
  | _ => false

/-- Texts that stand side by side are one text, and so are strings of bytes. -/
def merge? : Token → Token → Option Token
  | text a, text b => some (text (a ++ b))
  | bytes a, bytes b => some (bytes (a ++ b))
  | template raw s, text _ | template raw s, template _ _ => some (template raw s)
  | text _, template raw s => some (template raw s)
  | _, _ => none

/-- Whether the word is a quotation. -/
def isQuotation : Token → Bool
  | text _ | bytes _ | template _ _ => true
  | _ => false

/-- What a word denotes on its own. -/
def constant? : Token → Option Expression
  | number value => some (.constant value)
  | text codes => some (.constant (.text codes))
  | bytes data => some (.constant (.bytes data))
  | template _ _ => some (.other 0)
  | ellipsis => some (.constant .ellipsis)
  | name s => some (.name s)
  | keyword k =>
    if k = "None" then some (.constant .null)
    else if k = "True" then some (.constant (.bool true))
    else if k = "False" then some (.constant (.bool false))
    else none
  | _ => none

end Token

/-- The operators between two numbers, apart from the signs and the power. -/
def operators : List String :=
  ["*", "/", "//", "%", "@", "<<", ">>", "&", "|", "^"]

/-- The operators that compare. -/
def comparisons : List String :=
  ["<", ">", "<=", ">=", "==", "!="]

/-- Reads an operator that compares. -/
def comparison? : List Token → Option (List Token)
  | .mark m :: s => if comparisons.contains m then some s else none
  | .keyword "in" :: s => some s
  | .keyword "not" :: .keyword "in" :: s => some s
  | .keyword "is" :: .keyword "not" :: s => some s
  | .keyword "is" :: s => some s
  | _ => none

/-- Reads `and` or `or`. -/
def junction? : List Token → Option (List Token)
  | .keyword "and" :: s => some s
  | .keyword "or" :: s => some s
  | _ => none

/-- An expression and the ones that operators of one kind join to it. -/
def joined (e : Expression) (more : List Expression) : Expression :=
  if more.isEmpty then e else .compound (e :: more)

/-- An expression, or the tuple that it is an element of if there is a comma. -/
def oneOrTuple : List Expression → Bool → Expression
  | [e], false => e
  | es, _ => .tuple es

/-- Reads the closing bracket. -/
def close? (bracket : Char) : List Token → Option (List Token)
  | .closing c :: s => if c = bracket then some s else none
  | _ => none

/-- How far the arguments of a call have been read. -/
inductive ArgumentStage
  /-- All kinds may follow. -/
  | first
  /-- An argument has been named, so all that follow are named or spread out. -/
  | named
  /-- Names have been spread out, so no list may be. -/
  | spread
  deriving DecidableEq, Repr

/-- How far the parameters of a function have been read. -/
structure ParameterStage where
  /-- A parameter has been read. -/
  given : Bool := false
  /-- The slash has been read, before which no parameter can be named. -/
  slash : Bool := false
  /-- A parameter that may be left out has been read. -/
  optional : Bool := false
  /-- The star has been read, behind which every parameter is named. -/
  star : Bool := false
  /-- The star has no name of its own, and no parameter has been read behind it. -/
  bare : Bool := false
  deriving DecidableEq, Repr

/-! ### The grammar -/

mutual

/-- Reads an expression.  The number bounds how deep the grammar is entered. -/
def expression? : Nat → List Token → Option (Expression × List Token)
  | 0, _ => none
  | n + 1, .keyword "lambda" :: s => do
    let (defaults, s) ← parameters? n {} s
    let (body, s) ← expression? n s
    some (.compound [.compound defaults, body], s)
  | n + 1, s => do
    let (e, s) ← disjunction? n s
    match s with
    | .keyword "if" :: s =>
      let (condition, s) ← disjunction? n s
      match s with
      | .keyword "else" :: s =>
        let (last, s) ← expression? n s
        some (.compound [e, condition, last], s)
      | _ => none
    | _ => some (e, s)

/-- Reads an expression without a condition. -/
def disjunction? : Nat → List Token → Option (Expression × List Token)
  | 0, _ => none
  | n + 1, s => do
    let (e, s) ← inversion? n s
    let (more, s) ← junctions? n s
    some (joined e more, s)

/-- Reads what `and` and `or` join to an expression. -/
def junctions? : Nat → List Token → Option (List Expression × List Token)
  | 0, _ => none
  | n + 1, s =>
    match junction? s with
    | none => some ([], s)
    | some s => do
      let (e, s) ← inversion? n s
      let (more, s) ← junctions? n s
      some (e :: more, s)

/-- Reads comparisons, which may be denied. -/
def inversion? : Nat → List Token → Option (Expression × List Token)
  | 0, _ => none
  | n + 1, .keyword "not" :: s => do
    let (e, s) ← inversion? n s
    some (.compound [e], s)
  | n + 1, s => do
    let (e, s) ← sum? n s
    let (more, s) ← comparisons? n s
    some (joined e more, s)

/-- Reads what an expression is compared with. -/
def comparisons? : Nat → List Token → Option (List Expression × List Token)
  | 0, _ => none
  | n + 1, s =>
    match comparison? s with
    | none => some ([], s)
    | some s => do
      let (e, s) ← sum? n s
      let (more, s) ← comparisons? n s
      some (e :: more, s)

/-- Reads operands with operators between them. -/
def sum? : Nat → List Token → Option (Expression × List Token)
  | 0, _ => none
  | n + 1, s => do
    let (e, s) ← factor? n s
    sumFrom? n e s

/-- Reads the operators and operands behind the first ones. -/
def sumFrom? : Nat → Expression → List Token → Option (Expression × List Token)
  | 0, _, _ => none
  | n + 1, e, .sign negative :: s => do
    let (right, s) ← factor? n s
    sumFrom? n (.sum negative e right) s
  | n + 1, e, .mark m :: s =>
    if operators.contains m then do
      let (right, s) ← factor? n s
      sumFrom? n (.compound [e, right]) s
    else some (e, .mark m :: s)
  | _ + 1, e, s => some (e, s)

/-- Reads an operand with the signs before it. -/
def factor? : Nat → List Token → Option (Expression × List Token)
  | 0, _ => none
  | n + 1, .sign negative :: s => do
    let (e, s) ← factor? n s
    some (.signed negative e, s)
  | n + 1, .mark "~" :: s => do
    let (e, s) ← factor? n s
    some (.compound [e], s)
  | n + 1, s => do
    let (e, s) ← operand? n s
    match s with
    | .mark "**" :: s =>
      let (power, s) ← factor? n s
      some (.compound [e, power], s)
    | _ => some (e, s)

/-- Reads an operand, which may be waited for. -/
def operand? : Nat → List Token → Option (Expression × List Token)
  | 0, _ => none
  | n + 1, .keyword "await" :: s => do
    let ((e, _), s) ← primary? n s
    some (.compound [e], s)
  | n + 1, s => do
    let ((e, _), s) ← primary? n s
    some (e, s)

/-- Reads an atom with the calls and selections behind it, and says whether it stands for a place
that can be written to. -/
def primary? : Nat → List Token → Option ((Expression × Bool) × List Token)
  | 0, _ => none
  | n + 1, s => do
    let isName := match s with
      | .name _ :: _ => true
      | _ => false
    let (e, s) ← atom? n s
    selections? n e isName s

/-- Reads the calls and selections behind an atom. -/
def selections? : Nat → Expression → Bool → List Token → Option ((Expression × Bool) × List Token)
  | 0, _, _, _ => none
  | n + 1, e, _, .mark "." :: .name _ :: s => selections? n (.compound [e]) true s
  | n + 1, e, _, .opening '(' :: s => do
    let (arguments, rest) ← arguments? n .first true s
    selections? n (e.called (close? ')' s).isSome arguments) false rest
  | n + 1, e, _, .opening '[' :: s => do
    let (subscripts, s) ← subscripts? n s
    selections? n (.compound [e, subscripts]) true s
  | _ + 1, e, isPlace, s => some ((e, isPlace), s)

/-- Reads a word or a bracket that denotes something on its own. -/
def atom? : Nat → List Token → Option (Expression × List Token)
  | 0, _ => none
  | n + 1, .opening '(' :: s => round? n s
  | n + 1, .opening '[' :: s => square? n s
  | n + 1, .opening '\x7b' :: s => braces? n s
  | n + 1, token :: s =>
    if token.isQuotation then if isReadable n token then quotations? n token s else none
    else token.constant?.map (·, s)
  | _ + 1, [] => none

/-- Reads the quotations behind the first ones. -/
def quotations? : Nat → Token → List Token → Option (Expression × List Token)
  | 0, _, _ => none
  | n + 1, first, s =>
    match s with
    | next :: rest =>
      if next.isQuotation then
        if isReadable n next then (first.merge? next).bind fun merged => quotations? n merged rest
        else none
      else first.constant?.map (·, s)
    | [] => first.constant?.map (·, s)

/-- Whether a word is no template or one that can be read. -/
def isReadable : Nat → Token → Bool
  | 0, _ => false
  | n + 1, .template raw inside => template? n raw 0 inside == some []
  | _ + 1, _ => true

/-- Reads the inside of round brackets and the closing one. -/
def round? : Nat → List Token → Option (Expression × List Token)
  | 0, _ => none
  | _ + 1, .closing ')' :: s => some (.tuple [], s)
  | n + 1, .keyword "yield" :: s => (yielded? n s).map fun (e, s) => (.compound [e], s)
  | n + 1, s => do
    let (item, s) ← item? n s
    match s with
    | .comma :: s =>
      let (more, s) ← items? n ')' s
      some (.tuple (item.expression :: more), s)
    | s =>
      if item.isSpread then none
      else if s.head?.any Token.beginsLoop then do
        let (loops, s) ← clauses? n s
        (close? ')' s).map (.compound (item.expression :: loops), ·)
      else (close? ')' s).map (item.expression, ·)

/-- Reads what a generator yields and the closing bracket. -/
def yielded? : Nat → List Token → Option (Expression × List Token)
  | 0, _ => none
  | n + 1, .keyword "from" :: s => do
    let (e, s) ← expression? n s
    (close? ')' s).map (e, ·)
  | _ + 1, .closing ')' :: s => some (.other 0, s)
  | n + 1, s => do
    let (es, isTuple, s) ← yieldedFrom? n s
    some (oneOrTuple es isTuple, s)

/-- Reads one or more expressions that a generator yields and the closing bracket, and says whether
there is a comma. -/
def yieldedFrom? : Nat → List Token → Option (List Expression × Bool × List Token)
  | 0, _ => none
  | n + 1, s => do
    let (e, s) ← match s with
      | .mark "*" :: s => (sum? n s).map fun (e, s) => (.compound [e], s)
      | s => expression? n s
    match s with
    | .comma :: .closing ')' :: s => some ([e], true, s)
    | .comma :: s =>
      let (more, _, s) ← yieldedFrom? n s
      some (e :: more, true, s)
    | s => (close? ')' s).map ([e], false, ·)

/-- Reads the inside of square brackets and the closing one. -/
def square? : Nat → List Token → Option (Expression × List Token)
  | 0, _ => none
  | _ + 1, .closing ']' :: s => some (.list [], s)
  | n + 1, s => do
    let (item, s) ← item? n s
    if !item.isSpread && s.head?.any Token.beginsLoop then do
      let (loops, s) ← clauses? n s
      (close? ']' s).map (.compound (item.expression :: loops), ·)
    else do
      let (more, s) ← itemsBehind? n ']' s
      some (.list (item.expression :: more), s)

/-- Reads the inside of braces and the closing one. -/
def braces? : Nat → List Token → Option (Expression × List Token)
  | 0, _ => none
  | _ + 1, .closing '\x7d' :: s => some (.dict [], s)
  | n + 1, .mark "**" :: s => do
    let (entries, s) ← entries? n (.mark "**" :: s)
    some (.dict entries, s)
  | n + 1, s => do
    let (item, s) ← item? n s
    match item, s with
    | .plain key, .colon :: s =>
      let (val, s) ← expression? n s
      if s.head?.any Token.beginsLoop then do
        let (loops, s) ← clauses? n s
        (close? '\x7d' s).map (.compound (key :: val :: loops), ·)
      else do
        let (more, s) ← entriesBehind? n s
        some (.dict ((key, val) :: more), s)
    | item, s =>
      if !item.isSpread && s.head?.any Token.beginsLoop then do
        let (loops, s) ← clauses? n s
        (close? '\x7d' s).map (.compound (item.expression :: loops), ·)
      else do
        let (more, s) ← itemsBehind? n '\x7d' s
        some (.set (item.expression :: more), s)

/-- Reads what stands between commas in brackets. -/
def item? : Nat → List Token → Option (Item × List Token)
  | 0, _ => none
  | n + 1, .mark "*" :: s => do
    let (e, s) ← sum? n s
    some (.spread e, s)
  | n + 1, .name _ :: .mark ":=" :: s => do
    let (e, s) ← expression? n s
    some (.named e, s)
  | n + 1, s => do
    let (e, s) ← expression? n s
    some (.plain e, s)

/-- Reads items up to the closing bracket. -/
def items? : Nat → Char → List Token → Option (List Expression × List Token)
  | 0, _, _ => none
  | n + 1, bracket, s =>
    match close? bracket s with
    | some s => some ([], s)
    | none => do
      let (item, s) ← item? n s
      let (more, s) ← itemsBehind? n bracket s
      some (item.expression :: more, s)

/-- Reads the items behind one and the closing bracket, before which there may be a comma. -/
def itemsBehind? : Nat → Char → List Token → Option (List Expression × List Token)
  | 0, _, _ => none
  | n + 1, bracket, .comma :: s => items? n bracket s
  | _ + 1, bracket, s => (close? bracket s).map ([], ·)

/-- Reads the entries of a dictionary up to the closing bracket.  An entry may be another dictionary
that is spread out. -/
def entries? : Nat → List Token → Option (List (Expression × Expression) × List Token)
  | 0, _ => none
  | _ + 1, .closing '\x7d' :: s => some ([], s)
  | n + 1, .mark "**" :: s => do
    let (e, s) ← sum? n s
    let (more, s) ← entriesBehind? n s
    some ((.other 0, e) :: more, s)
  | n + 1, s => do
    let (key, s) ← expression? n s
    match s with
    | .colon :: s =>
      let (val, s) ← expression? n s
      let (more, s) ← entriesBehind? n s
      some ((key, val) :: more, s)
    | _ => none

/-- Reads the entries behind one and the closing bracket, before which there may be a comma. -/
def entriesBehind? : Nat → List Token → Option (List (Expression × Expression) × List Token)
  | 0, _ => none
  | n + 1, .comma :: s => entries? n s
  | _ + 1, s => (close? '\x7d' s).map ([], ·)

/-- Reads the loops of a comprehension with their conditions. -/
def clauses? : Nat → List Token → Option (List Expression × List Token)
  | 0, _ => none
  | n + 1, .keyword "async" :: .keyword "for" :: s => clauses? n (.keyword "for" :: s)
  | n + 1, .keyword "for" :: s => do
    let s ← targets? n none s
    let (source, s) ← disjunction? n s
    let (conditions, s) ← conditions? n s
    let loop := Expression.compound (source :: conditions)
    if s.head?.any Token.beginsLoop then do
      let (more, s) ← clauses? n s
      some (loop :: more, s)
    else some ([loop], s)
  | _ + 1, _ => none

/-- Reads the conditions of a comprehension. -/
def conditions? : Nat → List Token → Option (List Expression × List Token)
  | 0, _ => none
  | n + 1, .keyword "if" :: s => do
    let (e, s) ← disjunction? n s
    let (more, s) ← conditions? n s
    some (e :: more, s)
  | _ + 1, s => some ([], s)

/-- Reads one or more places that a loop writes to, up to the closing bracket, or to the word behind
them if there is none. -/
def targets? : Nat → Option Char → List Token → Option (List Token)
  | 0, _, _ => none
  | n + 1, bracket, s => do
    let finish? (s : List Token) : Option (List Token) :=
      match bracket with
      | some bracket => close? bracket s
      | none =>
        match s with
        | .keyword "in" :: s => some s
        | _ => none
    let s ← match s with
      | .mark "*" :: s => target? n s
      | s => target? n s
    match s with
    | .comma :: s => (finish? s).or (targets? n bracket s)
    | s => finish? s

/-- Reads a place that a loop writes to. -/
def target? : Nat → List Token → Option (List Token)
  | 0, _ => none
  | n + 1, s =>
    match primary? n s, s with
    | some ((_, true), rest), _ => some rest
    | _, .opening '(' :: .closing ')' :: s => some s
    | _, .opening '[' :: .closing ']' :: s => some s
    | _, .opening '[' :: s => targets? n (some ']') s
    | _, .opening '(' :: .mark "*" :: s => do
      let s ← target? n s
      match s with
      | .comma :: s => (close? ')' s).or (targets? n (some ')') s)
      | _ => none
    | _, .opening '(' :: s => targets? n (some ')') s
    | _, _ => none

/-- Reads the arguments of a call and the closing bracket. -/
def arguments? : Nat → ArgumentStage → Bool → List Token → Option (List Expression × List Token)
  | 0, _, _, _ => none
  | _ + 1, _, _, .closing ')' :: s => some ([], s)
  | n + 1, stage, isFirst, s => do
    let (stage, e, s) ← match s with
      | .mark "*" :: s =>
        if stage = .spread then none
        else (expression? n s).map fun (e, s) => (stage, .compound [e], s)
      | .mark "**" :: s =>
        (expression? n s).map fun (e, s) => (ArgumentStage.spread, .compound [e], s)
      | .name _ :: .mark "=" :: s =>
        (expression? n s).map fun (e, s) =>
          (if stage = .spread then .spread else .named, .compound [e], s)
      | s =>
        if stage = .first then do
          let (item, s) ← item? n s
          if isFirst && s.head?.any Token.beginsLoop then do
            let (loops, s) ← clauses? n s
            let _ ← close? ')' s
            some (.first, .compound (item.expression :: loops), s)
          else some (.first, item.expression, s)
        else none
    match s with
    | .comma :: s =>
      let (more, s) ← arguments? n stage false s
      some (e :: more, s)
    | s => (close? ')' s).map ([e], ·)

/-- Reads what selects elements and the closing bracket. -/
def subscripts? : Nat → List Token → Option (Expression × List Token)
  | 0, _ => none
  | n + 1, s => do
    let (es, isTuple, s) ← subscriptsFrom? n s
    some (oneOrTuple es isTuple, s)

/-- Reads one or more parts of what selects elements and the closing bracket, and says whether there
is a comma. -/
def subscriptsFrom? : Nat → List Token → Option (List Expression × Bool × List Token)
  | 0, _ => none
  | n + 1, s => do
    let (e, s) ← match s with
      | .mark "*" :: s => (expression? n s).map fun (e, s) => (.tuple [.compound [e]], s)
      | .colon :: s => (sliceEnd? n s).map fun (es, s) => (.compound es, s)
      | s => do
        let (item, s) ← item? n s
        match item, s with
        | .plain e, .colon :: s => (sliceEnd? n s).map fun (es, s) => (.compound (e :: es), s)
        | item, s => some (item.expression, s)
    match s with
    | .comma :: .closing ']' :: s => some ([e], true, s)
    | .comma :: s =>
      let (more, _, s) ← subscriptsFrom? n s
      some (e :: more, true, s)
    | s => (close? ']' s).map ([e], false, ·)

/-- Reads the end of a range of elements and its step, which may be left out. -/
def sliceEnd? : Nat → List Token → Option (List Expression × List Token)
  | 0, _ => none
  | n + 1, s => do
    let (last, s) ← bound? n s
    match s with
    | .colon :: s =>
      let (stride, s) ← bound? n s
      some (last ++ stride, s)
    | s => some (last, s)

/-- Reads an expression that may be left out. -/
def bound? : Nat → List Token → Option (List Expression × List Token)
  | 0, _ => none
  | n + 1, s =>
    match s with
    | .colon :: _ | .comma :: _ | .closing _ :: _ => some ([], s)
    | s => (expression? n s).map fun (e, s) => ([e], s)

/-- Reads the parameters of a function and the colon behind them.  Given back is what parameters are
when they are left out. -/
def parameters? : Nat → ParameterStage → List Token → Option (List Expression × List Token)
  | 0, _, _ => none
  | _ + 1, stage, .colon :: s => if stage.bare then none else some ([], s)
  | n + 1, stage, .mark "*" :: .comma :: s =>
    if stage.star then none else parameters? n { stage with star := true, bare := true } s
  | _ + 1, stage, .mark "**" :: .name _ :: s =>
    if stage.bare then none
    else
      match s with
      | .colon :: s => some ([], s)
      | .comma :: .colon :: s => some ([], s)
      | _ => none
  | n + 1, stage, s => do
    let (stage, given, s) ← match s with
      | .mark "/" :: s =>
        if stage.given && !stage.slash && !stage.star then
          some ({ stage with slash := true }, [], s)
        else none
      | .mark "*" :: .name _ :: s =>
        if stage.star then none else some ({ stage with star := true }, [], s)
      | .name _ :: .mark "=" :: s => do
        let (e, s) ← expression? n s
        some ({ stage with given := true, optional := true, bare := false }, [e], s)
      | .name _ :: s =>
        if stage.optional && !stage.star then none
        else some ({ stage with given := true, bare := false }, [], s)
      | _ => none
    match s with
    | .comma :: s =>
      let (more, s) ← parameters? n stage s
      some (given ++ more, s)
    | .colon :: _ =>
      let (more, s) ← parameters? n stage s
      some (given ++ more, s)
    | _ => none

/-- Reads a template: what follows its last text, which is nothing unless the template stands in a
hole.  Given is how many holes are around it. -/
def template? : Nat → Bool → Nat → List Char → Option (List Char)
  | 0, _, _, _ => none
  | n + 1, raw, level, s =>
    let parts := templateText raw (level == 0) s
    if isTemplateText raw parts.1 then
      match parts.2.1 with
      | .doubled => template? n raw level parts.2.2
      | .hole => (hole? n raw level parts.2.2).bind (template? n raw level)
      | .finish => some parts.2.2
    else none

/-- Reads a hole of a template behind its opening brace. -/
def hole? : Nat → Bool → Nat → List Char → Option (List Char)
  | 0, _, _, _ => none
  | n + 1, raw, level, s => do
    let (inside, s) ← if 2 ≤ level then none else holeText? none [] s
    let words ← if isBlankHole inside then none else tokens? ('(' :: inside ++ [')'])
    let (_, _) ← round? n (words.drop 1)
    let s ← afterConversion? s
    let s ← match s with
      | ':' :: s => template? n raw (level + 1) s
      | s => some s
    match s with
    | '\x7d' :: s => some s
    | _ => none

end

/-- Reads the expressions of a whole text.  A comma behind the last one makes a tuple of them. -/
def expressions? : Nat → List Token → Option (List Expression × Bool)
  | 0, _ => none
  | n + 1, s => do
    let (e, s) ← expression? (n + 1) s
    match s with
    | [] => some ([e], false)
    | [.comma] => some ([e], true)
    | .comma :: s =>
      let (more, _) ← expressions? n s
      some (e :: more, true)
    | _ => none

end TicketMigration.Literal
