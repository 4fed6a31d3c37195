import RowQuery.Json.Basic
import RowQuery.Sql.Name

/-!
# Tokens of statements

The text of a statement is read as the store reads it: words, signs, placeholders, and names between
double quotes, in which a double quote is written twice.

* `Sql.tokens` are the tokens of a text, if it is made of tokens.
* `Sql.fill` puts parameters in the place of the placeholders, in order.
* `Spells` says that a text stands for some tokens wherever it occurs; texts are put together from
  parts that spell (`Spells.append`, `spells_joinWith`).
* `spells_name` — every name spells the one token that holds it, whatever characters are in it.

## Design notes

The reader is a machine that takes one character at a time, since a quote inside a name is told from
the quote at its end only by the character that follows. Its tokens are collected backwards. A token
may be complete only when the next character is seen, so most texts spell their tokens before a
`Stop`: a blank, a comma, a bracket or the end.
-/

namespace RowQuery.Sql

/-! ### Tokens -/

/-- A token. A placeholder has a value of its own: none while the statement is a mere text, its
parameter later on. -/
inductive Token (α : Type) where
  /-- A keyword, the name of a function or a number. -/
  | word (letters : String)
  | sign (letters : String)
  /-- A name, without its quotes. -/
  | name (text : String)
  | placeholder (value : α)
deriving DecidableEq

namespace Token

/-- The token as it is written. -/
def blank {α : Type} : Token α → Token Unit
  | word letters => word letters
  | sign letters => sign letters
  | .name text => .name text
  | placeholder _ => placeholder ()

/-- The value of a placeholder. -/
def value? {α : Type} : Token α → Option α
  | placeholder value => some value
  | _ => none

/-- Whether the token is a placeholder. -/
def isPlaceholder {α : Type} (token : Token α) : Bool := token.value?.isSome

end Token

/-- The tokens with parameters in the place of the placeholders; there have to be as many of the one
as of the other. -/
def fill : List (Token Unit) → List Json → Option (List (Token Json))
  | [], [] => some []
  | [], _ :: _ => none
  | .placeholder () :: _, [] => none
  | .placeholder () :: rest, value :: values =>
    (fill rest values).map (Token.placeholder value :: ·)
  | .word letters :: rest, values => (fill rest values).map (Token.word letters :: ·)
  | .sign letters :: rest, values => (fill rest values).map (Token.sign letters :: ·)
  | .name text :: rest, values => (fill rest values).map (Token.name text :: ·)

/-- Tokens are got back from their written form and their values. -/
theorem fill_blank (filled : List (Token Json)) :
    fill (filled.map Token.blank) (filled.filterMap Token.value?) = some filled := by
  induction filled with
  | nil => rfl
  | cons token rest ih =>
    cases token <;>
      simp only [List.map_cons, Token.blank, fill, List.filterMap_cons, Token.value?, ih,
        Option.map_some]

/-! ### Reading a text -/

/-- What the reader is in the middle of; characters are kept backwards. -/
inductive Reading where
  | between
  | word (letters : List Char)
  | quoted (name : List Char)
  /-- Behind a quote inside a name, which ends the name or is the first of two. -/
  | quote (name : List Char)
  | operator (first : Char)
  /-- Behind a question mark. -/
  | mark

/-- The characters of words. -/
def isWordChar (c : Char) : Bool := c.isAlphanum || c = '_'

namespace Reading

/-- The tokens so far when what is being read ends here. -/
def close (out : List (Token Unit)) : Reading → Option (List (Token Unit))
  | between => some out
  | word letters => some (.word (String.ofList letters.reverse) :: out)
  | quoted _ => none
  | quote name => some (.name (String.ofList name.reverse) :: out)
  | operator first => if first = '!' then none else some (.sign (String.singleton first) :: out)
  | mark => some (.placeholder () :: out)

/-- What a character begins. -/
def start (out : List (Token Unit)) (c : Char) : Option (Reading × List (Token Unit)) :=
  if c.isWhitespace then some (between, out)
  else if c = '"' then some (quoted [], out)
  else if c = '?' then some (mark, out)
  else if c = '(' || c = ')' || c = ',' || c = '*' then
    some (between, .sign (String.singleton c) :: out)
  else if c = '=' || c = '<' || c = '>' || c = '!' then some (operator c, out)
  else if isWordChar c then some (word [c], out)
  else none

/-- The reader after a further character. -/
def step (out : List (Token Unit)) (c : Char) (reading : Reading) :
    Option (Reading × List (Token Unit)) :=
  let next := (reading.close out).bind (start · c)
  match reading with
  | between => next
  | word letters => if isWordChar c then some (word (c :: letters), out) else next
  | quoted name => some (if c = '"' then quote name else quoted (c :: name), out)
  | quote name => if c = '"' then some (quoted ('"' :: name), out) else next
  | operator first =>
    if c = '=' || (first = '<' && c = '>') then
      some (between, .sign (String.ofList [first, c]) :: out)
    else next
  -- A number behind the mark would choose a parameter by its place.
  | mark => if c.isDigit then none else next

end Reading

/-- The tokens of a text, backwards, read on from some state. -/
def scan : Reading → List (Token Unit) → List Char → Option (List (Token Unit))
  | reading, out, [] => reading.close out
  | reading, out, c :: rest =>
    match reading.step out c with
    | some (reading, out) => scan reading out rest
    | none => none

/-- The tokens of a text. -/
def tokens (text : List Char) : Option (List (Token Unit)) :=
  (scan .between [] text).map List.reverse

/-! ### Texts that spell tokens -/

/-- Whether every token ends before this text. -/
def Stop : List Char → Prop
  | [] => True
  | c :: _ => c = ' ' ∨ c = ',' ∨ c = '(' ∨ c = ')'

/-- The text is read as these tokens, whatever follows it. -/
def SpellsAnywhere (text : List Char) (tokens : List (Token Json)) : Prop :=
  ∀ out rest, scan .between out (text ++ rest) =
    scan .between ((tokens.map Token.blank).reverse ++ out) rest

/-- The text is read as these tokens, provided that tokens end behind it. -/
def Spells (text : List Char) (tokens : List (Token Json)) : Prop :=
  ∀ out rest, Stop rest → scan .between out (text ++ rest) =
    scan .between ((tokens.map Token.blank).reverse ++ out) rest

/-- A text that can follow a token at once: it is not empty, and tokens end before it. -/
def Breaks (text : List Char) : Prop := text ≠ [] ∧ Stop text

section Spelling

variable {text more : List Char} {spelt moreSpelt : List (Token Json)}

theorem Breaks.stop_append (h : Breaks text) (rest : List Char) : Stop (text ++ rest) := by
  obtain ⟨nonempty, stop⟩ := h
  cases text with
  | nil => exact absurd rfl nonempty
  | cons c text => exact stop

theorem Stop.append (h : Stop text) {rest : List Char} (h' : Stop rest) : Stop (text ++ rest) := by
  cases text with
  | nil => exact h'
  | cons c text => exact h

theorem SpellsAnywhere.spells (h : SpellsAnywhere text spelt) : Spells text spelt :=
  fun out rest _ => h out rest

theorem spellsAnywhere_nil : SpellsAnywhere [] [] := fun _ _ => rfl

/-- A text in front that is complete in itself. -/
theorem SpellsAnywhere.append (h : SpellsAnywhere text spelt) (h' : Spells more moreSpelt) :
    Spells (text ++ more) (spelt ++ moreSpelt) := by
  intro out rest stop
  rw [List.append_assoc, h, h' _ _ stop, List.map_append, List.reverse_append, List.append_assoc]

/-- A text in front that the next one ends. -/
theorem Spells.append (h : Spells text spelt) (h' : Spells more moreSpelt) (ends : Stop more) :
    Spells (text ++ more) (spelt ++ moreSpelt) := by
  intro out rest stop
  rw [List.append_assoc, h _ _ (ends.append stop), h' _ _ stop, List.map_append,
    List.reverse_append, List.append_assoc]

/-- Both texts are complete, the first one because of the second. -/
theorem Spells.append_anywhere (h : Spells text spelt) (h' : SpellsAnywhere more moreSpelt)
    (breaks : Breaks more) : SpellsAnywhere (text ++ more) (spelt ++ moreSpelt) := by
  intro out rest
  rw [List.append_assoc, h _ _ (breaks.stop_append rest), h', List.map_append,
    List.reverse_append, List.append_assoc]

/-- What a text spells are its tokens. -/
theorem Spells.tokens_eq (h : Spells text spelt) : tokens text = some (spelt.map Token.blank) := by
  have read := h [] [] trivial
  rw [List.append_nil, List.append_nil] at read
  rw [tokens, read]
  show some (spelt.map Token.blank).reverse.reverse = some (spelt.map Token.blank)
  rw [List.reverse_reverse]

end Spelling

/-! ### Parts of statements -/

/-- Before a stop, a token that is being read is complete. -/
theorem scan_stop {reading : Reading} {out closed : List (Token Unit)} {rest : List Char}
    (close : reading.close out = some closed) (stop : Stop rest) :
    scan reading out rest = scan .between closed rest := by
  cases rest with
  | nil => exact close
  | cons c rest =>
    have step : reading.step out c = Reading.start closed c := by
      -- None of the four characters goes on with a token, nor is it the second one of a sign.
      cases reading <;> rcases stop with rfl | rfl | rfl | rfl <;>
        simp_all [Reading.step, Reading.close, isWordChar]
    rw [scan, step]
    rfl

/-- A text that leaves the reader in the middle of its last token. -/
theorem spells_of_reading {text : List Char} (reading : Reading) (spelt : List (Token Json))
    (last : Token Json)
    (read : ∀ out rest, scan .between out (text ++ rest) =
      scan reading ((spelt.map Token.blank).reverse ++ out) rest)
    (close : ∀ out, reading.close out = some (last.blank :: out)) :
    Spells text (spelt ++ [last]) := by
  intro out rest stop
  rw [read, scan_stop (close _) stop, List.map_append, List.reverse_append]
  rfl

theorem scan_quoted (name : List Char) (read : List Char) (out : List (Token Unit))
    (rest : List Char) :
    scan (.quoted read) out (escapeName name ++ '"' :: rest) =
      scan (.quote (name.reverse ++ read)) out rest := by
  induction name generalizing read with
  | nil => rfl
  | cons c name ih =>
    rw [show escapeName (c :: name) = (if c = '"' then ['"', '"'] else [c]) ++ escapeName name from
      rfl, List.reverse_cons, List.append_assoc, List.append_assoc]
    by_cases hc : c = '"'
    · -- The first quote may be the end of the name, the second one shows that it is not.
      subst hc
      exact ih ('"' :: read)
    · rw [if_neg hc]
      have step : Reading.step out c (.quoted read) = some (.quoted (c :: read), out) := by
        simp [Reading.step, hc]
      show scan (.quoted read) out (c :: (escapeName name ++ '"' :: rest)) = _
      rw [scan, step]
      exact ih (c :: read)

/-- A name spells the token that holds it, whatever characters are in it. -/
theorem spells_name (name : String) : Spells (nameChars name) [.name name] := by
  intro out rest stop
  have close : Reading.close out (.quote name.toList.reverse) = some (.name name :: out) := by
    simp [Reading.close]
  calc scan .between out (nameChars name ++ rest)
      = scan (.quoted []) out ((escapeName name.toList ++ ['"']) ++ rest) := rfl
    _ = scan (.quoted []) out (escapeName name.toList ++ '"' :: rest) := by
        rw [List.append_assoc]; rfl
    _ = scan (.quote (name.toList.reverse ++ [])) out rest := scan_quoted _ _ _ _
    _ = scan .between (.name name :: out) rest := by
        rw [List.append_nil, scan_stop close stop]

theorem spells_placeholder (value : Json) : Spells ['?'] [.placeholder value] :=
  spells_of_reading .mark [] (.placeholder value) (fun _ _ => rfl) fun _ => rfl

/-- Parts that spell their tokens, with a separator between neighbours. -/
theorem spells_joinWith {α : Type} {separator : List Char} {separating : List (Token Json)}
    (separates : SpellsAnywhere separator separating) (breaks : Breaks separator)
    {write : α → List Char} {read : α → List (Token Json)} (items : List α)
    (h : ∀ item ∈ items, Spells (write item) (read item)) :
    Spells (Text.joinWith separator (items.map write))
      (separating.intercalate (items.map read)) := by
  induction items with
  | nil => exact spellsAnywhere_nil.spells
  | cons item rest ih =>
    have first := h item (List.mem_cons_self ..)
    have others := ih fun other mem => h other (List.mem_cons_of_mem _ mem)
    cases rest with
    | nil => simpa [Text.joinWith] using first
    | cons next rest =>
      -- The separator ends the item in front of it, and nothing has to end the separator.
      rw [List.map_cons, List.map_cons, List.map_cons, List.map_cons,
        List.intercalate_cons_cons, ← List.map_cons, ← List.map_cons]
      exact (first.append_anywhere separates breaks).append others

end RowQuery.Sql
