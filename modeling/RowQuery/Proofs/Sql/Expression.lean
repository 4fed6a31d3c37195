import RowQuery.Proofs.Sql.Statement
import RowQuery.Store.Condition

/-!
# Reading conditions

The text of a condition is read as an expression: a tree of comparisons and tests joined by `OR` and
`AND`, where `AND` binds tighter and brackets bind tightest. An expression has a truth value on a
row, which is unknown where null is involved.

* `Expression.read` reads tokens, `Expression.truth` is the value of what has been read.
* `readsAs_chain` and `readsAs_brackets` put together what is read.
* `Condition.readsAs` — the tokens of a condition are read as the expression that it stands for.
* `Sql.selected?` reads a whole restriction with its parameters, and tells whether it selects a row.
* `selected?_where` — a restriction written for conditions selects the rows that meet all of them.

## Design notes

The reader knows the part of the language in which conditions are written, and no more: what is
compared with, listed or limited to is a value, never a second column. A chain of one operator is
read from its end, which gives the same value as any other order.
-/

namespace RowQuery.Sql

/-- An operator that joins two expressions. -/
inductive Connective where
  | or
  | and
deriving DecidableEq

namespace Connective

/-- The keyword of an operator. -/
def word : Connective → String
  | or => "OR"
  | and => "AND"

/-- The truth value of two joined expressions, which may be known although one of theirs is not. -/
def combine : Connective → Truth → Truth → Truth
  | or, some true, _ | or, _, some true => some true
  | or, some false, some false => some false
  | or, _, _ => none
  | and, some false, _ | and, _, some false => some false
  | and, some true, some true => some true
  | and, _, _ => none

end Connective

/-- What a test looks at. -/
inductive Operand where
  /-- A column; where no column has the name, a text. -/
  | name (text : String)
  | constant (value : Json)
  /-- An operand in lower case. -/
  | lowered (operand : Operand)

/-- An expression that has a truth value on every row. -/
inductive Expression where
  | compare (comparison : Comparison) (left : Operand) (right : Json)
  | among (operand : Operand) (values : List Json)
  | isNull (operand : Operand)
  | notNull (operand : Operand)
  | like (operand pattern : Operand)
  | join (connective : Connective) (left right : Expression)

/-! ### The value of an expression -/

namespace Operand

/-- How the values of an operand are kept, if it is a column. -/
def storage? (table : Table) : Operand → Option Storage
  | name text => (table.declaration.source text).storage?
  | constant _ | lowered _ => none

/-- The value of an operand on a row. -/
def cell (table : Table) (row : Row) : Operand → Cell
  | name text => row.read (table.declaration.source text)
  | constant value => .bound value
  | lowered operand =>
    match operand.cell table row with
    | .text s => .text (Text.lower s)
    | cell => cell

/-- The value of an operand as text, unless it is null. -/
def text? (table : Table) (row : Row) (operand : Operand) : Option String :=
  match (operand.cell table row).toText with
  | .text s => some s
  | _ => none

end Operand

namespace Expression

/-- The truth value of an expression on a row. -/
def truth (table : Table) (row : Row) : Expression → Truth
  | compare comparison left right =>
    (Cell.compareIn (left.storage? table) (left.cell table row) (.bound right)).map comparison.holds
  | among operand values =>
    Truth.any (values.map fun value => (Cell.compareIn (operand.storage? table)
      (operand.cell table row) (.bound value)).map (·.isEq))
  | isNull operand => some (operand.cell table row).isNull
  | notNull operand => some !(operand.cell table row).isNull
  | like operand pattern => do
    let text ← operand.text? table row
    let pattern ← pattern.text? table row
    some (Pattern.matchesText pattern.toList text.toList)
  | join connective left right => connective.combine (left.truth table row) (right.truth table row)

/-- Expressions joined by one operator. -/
def chain (connective : Connective) : Expression → List Expression → Expression
  | first, [] => first
  | first, next :: more => join connective first (chain connective next more)

end Expression

/-! ### Reading an expression -/

/-- The tokens behind a token that they begin with. -/
def after? (token : Token Json) : List (Token Json) → Option (List (Token Json))
  | [] => none
  | first :: rest => if first = token then some rest else none

/-- The value that a token states. -/
def constant? : Token Json → Option Json
  | .placeholder value => some value
  | .word letters =>
    if letters ≠ "" ∧ letters.toList.all Char.isDigit then
      some (.integer (Nat.ofDigitChars 10 letters.toList 0))
    else none
  | _ => none

/-- The operand that a token states. -/
def simple? : Token Json → Option Operand
  | .name text => some (.name text)
  | token => (constant? token).map Operand.constant

/-- An operand in lower case, written as the call of a function. -/
def readLowered (tokens : List (Token Json)) : Option (Operand × List (Token Json)) := do
  let rest ← after? (.word lowerFunction) tokens
  let inner ← after? (.sign "(") rest
  let operand ← inner.head?.bind simple?
  let rest ← after? (.sign ")") inner.tail
  some (.lowered operand, rest)

/-- An operand. -/
def readOperand (tokens : List (Token Json)) : Option (Operand × List (Token Json)) :=
  match tokens.head?.bind simple? with
  | some operand => some (operand, tokens.tail)
  | none => readLowered tokens

/-- Values between commas, up to the closing bracket. -/
def readValues : List (Token Json) → Option (List Json × List (Token Json))
  | first :: next :: rest => do
    let value ← constant? first
    if next = .sign ")" then some ([value], rest)
    else if next = .sign "," then
      let (values, rest) ← readValues rest
      some (value :: values, rest)
    else none
  | _ => none

/-- The test of an operand that comes next. -/
def readTestOf (operand : Operand) : List (Token Json) → Option (Expression × List (Token Json))
  | .sign sign :: rest => do
    let comparison ← Comparison.all.find? (·.sign = sign)
    let right ← rest.head?.bind constant?
    some (.compare comparison operand right, rest.tail)
  | .word letters :: rest =>
    if letters = "IS" then
      match after? (.word "NOT") rest with
      | some rest => do some (.notNull operand, ← after? (.word "NULL") rest)
      | none => do some (.isNull operand, ← after? (.word "NULL") rest)
    else if letters = "IN" then do
      let (values, rest) ← readValues (← after? (.sign "(") rest)
      some (.among operand values, rest)
    else if letters = "LIKE" then do
      let (pattern, rest) ← readOperand rest
      some (.like operand pattern, rest)
    else none
  | _ => none

/-- What may stand in an expression without brackets around it. -/
inductive Level where
  /-- Expressions joined by an operator, or by one that binds tighter. -/
  | joined (connective : Connective)
  | test

/-- What an operator joins. -/
def Connective.operands : Connective → Level
  | or => .joined and
  | and => .test

/-- Reads an expression. The number bounds the depth to which it is nested. -/
def Expression.read : Nat → Level → List (Token Json) → Option (Expression × List (Token Json))
  | 0, _, _ => none
  | depth + 1, .test, tokens =>
    match after? (.sign "(") tokens with
    | some inner => do
      let (expression, rest) ← read depth (.joined .or) inner
      let rest ← after? (.sign ")") rest
      some (expression, rest)
    | none => do
      let (operand, rest) ← readOperand tokens
      readTestOf operand rest
  | depth + 1, .joined connective, tokens => do
    let (left, rest) ← read depth connective.operands tokens
    match after? (.word connective.word) rest with
    | some more => do
      let (right, rest) ← read depth (.joined connective) more
      some (.join connective left right, rest)
    | none => some (left, rest)

/-- The expression that restricts a statement, if its tokens go on with one. -/
def restriction? (tokens : List (Token Json)) : Option (Option Expression) :=
  if tokens.isEmpty then some none
  else do
    let rest ← after? (.word "WHERE") tokens
    -- No expression is nested deeper than twice its number of tokens.
    let (expression, rest) ← Expression.read (2 * rest.length + 3) (.joined .or) rest
    if rest.isEmpty then some (some expression) else none

/-- Whether a row is selected by the text of a restriction with its parameters. There is no answer
where the text is no restriction, or has not as many placeholders as there are parameters. -/
def selected? (table : Table) (row : Row) (text : List Char) (params : List Json) :
    Option Bool := do
  let filled ← fill (← tokens text) params
  let restriction ← restriction? filled
  some (restriction.all fun expression => expression.truth table row = some true)

/-! ### What is read -/

@[simp] theorem after?_cons_self (token : Token Json) (rest : List (Token Json)) :
    after? token (token :: rest) = some rest := if_pos rfl

/-- How far a level is above the tests. -/
def Level.height : Level → Nat
  | joined .or => 3
  | joined .and => 2
  | test => 1

/-- Whether an expression of a level ends before these tokens. -/
def Level.Ends : Level → List (Token Json) → Prop
  | joined .or, rest => after? (.word "OR") rest = none ∧ after? (.word "AND") rest = none
  | joined .and, rest => after? (.word "AND") rest = none
  | test, _ => True

/-- On a level, the tokens are read as the expression wherever such an expression ends. -/
def ReadsAs (level : Level) (tokens : List (Token Json)) (expression : Expression) : Prop :=
  ∀ rest depth, level.Ends rest → 2 * tokens.length + level.height ≤ depth →
    Expression.read depth level (tokens ++ rest) = some (expression, rest)

/-- A test without brackets. -/
theorem readsAs_test {spelt : List (Token Json)} {expression : Expression}
    (bare : ∀ rest, after? (.sign "(") (spelt ++ rest) = none)
    (read : ∀ rest, (readOperand (spelt ++ rest)).bind (fun found => readTestOf found.1 found.2) =
      some (expression, rest)) : ReadsAs .test spelt expression := by
  intro rest depth _ enough
  obtain ⟨depth, rfl⟩ : ∃ d, depth = d + 1 := ⟨depth - 1, by simp [Level.height] at enough; omega⟩
  rw [Expression.read, bare rest]
  exact read rest

/-- Brackets make a test of every expression. -/
theorem readsAs_brackets {spelt : List (Token Json)} {expression : Expression}
    (h : ReadsAs (.joined .or) spelt expression) :
    ReadsAs .test ([.sign "("] ++ spelt ++ [.sign ")"]) expression := by
  intro rest depth _ enough
  obtain ⟨depth, rfl⟩ : ∃ d, depth = d + 1 := ⟨depth - 1, by simp [Level.height] at enough; omega⟩
  -- The closing bracket is what ends the expression inside.
  have inside : Expression.read depth (.joined .or) (spelt ++ .sign ")" :: rest) =
      some (expression, .sign ")" :: rest) := by
    refine h _ _ ⟨rfl, rfl⟩ ?_
    simp [Level.height] at enough ⊢
    omega
  have shape : [.sign "("] ++ spelt ++ [.sign ")"] ++ rest =
      Token.sign "(" :: (spelt ++ .sign ")" :: rest) := by simp
  rw [shape, Expression.read, after?_cons_self]
  simp [inside]

/-- What ends an expression of a level is not its operator. -/
theorem Level.Ends.after?_eq {connective : Connective} {rest : List (Token Json)}
    (h : (Level.joined connective).Ends rest) : after? (.word connective.word) rest = none := by
  cases connective with
  | or => exact h.1
  | and => exact h

theorem Level.Ends.operands {connective : Connective} {rest : List (Token Json)}
    (h : (Level.joined connective).Ends rest) : connective.operands.Ends rest := by
  cases connective with
  | or => exact h.2
  | and => trivial

/-- An operator ends what it joins. -/
theorem Connective.operands_ends (connective : Connective) (rest : List (Token Json)) :
    connective.operands.Ends (.word connective.word :: rest) := by
  cases connective with
  | or => rfl
  | and => trivial

theorem Connective.height_operands (connective : Connective) :
    connective.operands.height + 1 = (Level.joined connective).height := by
  cases connective <;> rfl

/-- What an operator may join, on its own. -/
theorem ReadsAs.joined {connective : Connective} {spelt : List (Token Json)}
    {expression : Expression} (h : ReadsAs connective.operands spelt expression) :
    ReadsAs (.joined connective) spelt expression := by
  have height := connective.height_operands
  intro rest depth ends enough
  obtain ⟨depth, rfl⟩ : ∃ d, depth = d + 1 := ⟨depth - 1, by omega⟩
  have only := h rest depth ends.operands (by omega)
  -- The operator does not follow, so the first expression is the only one.
  simp only [Expression.read, only, Option.bind_eq_bind, Option.bind_some, ends.after?_eq]

/-- Expressions with an operator between neighbours. -/
theorem readsAs_chain {α : Type} (connective : Connective) {write : α → List (Token Json)}
    {mean : α → Expression} (item : α) (items : List α)
    (h : ∀ other ∈ item :: items, ReadsAs connective.operands (write other) (mean other)) :
    ReadsAs (.joined connective)
      (List.intercalate [.word connective.word] ((item :: items).map write))
      (.chain connective (mean item) (items.map mean)) := by
  have height := connective.height_operands
  induction items generalizing item with
  | nil =>
    rw [List.map_cons, List.map_nil, List.intercalate_singleton]
    exact (h item (List.mem_cons_self ..)).joined
  | cons next items ih =>
    intro rest depth ends enough
    rw [List.map_cons, List.map_cons, List.intercalate_cons_cons, ← List.map_cons] at enough ⊢
    simp only [List.length_append, List.length_singleton] at enough
    obtain ⟨depth, rfl⟩ : ∃ d, depth = d + 1 := ⟨depth - 1, by omega⟩
    -- The operator ends what stands in front of it; behind it a shorter chain is read.
    have first := h item (List.mem_cons_self ..)
      (.word connective.word :: (List.intercalate [.word connective.word]
        ((next :: items).map write) ++ rest)) depth (connective.operands_ends _) (by omega)
    have others := ih next (fun other mem => h other (List.mem_cons_of_mem _ mem)) rest depth ends
      (by omega)
    rw [List.append_assoc, List.append_assoc, List.singleton_append]
    simp only [Expression.read, first, Option.bind_eq_bind, Option.bind_some, after?_cons_self,
      others]
    rfl

/-! ### Conditions as expressions -/

/-- The expression of a comparison. -/
def Term.expression (term : Term) : Expression :=
  .compare term.comparison (.name term.column) term.value

/-- The expression that a condition stands for. -/
def Condition.expression : Condition → Expression
  | compare term => term.expression
  | oneOf column values => .among (.name column) values
  | never | anyOf [] => .compare .eq (.constant (.integer 1)) (.integer 0)
  | isNull column => .isNull (.name column)
  | notNull column => .notNull (.name column)
  | like column pattern =>
    .like (.lowered (.name column)) (.lowered (.constant (.string pattern)))
  | anyOf (term :: terms) => .chain .or term.expression (terms.map Term.expression)

/-- Whether a condition has a text: one that lists nothing has none. -/
def Condition.Writable : Condition → Prop
  | oneOf _ values => values ≠ []
  | anyOf terms => terms ≠ []
  | _ => True

theorem Term.readsAs (term : Term) : ReadsAs .test term.tokens term.expression := by
  have sign : Comparison.all.find? (·.sign = term.comparison.sign) = some term.comparison := by
    cases term.comparison <;> rfl
  refine readsAs_test (fun _ => rfl) fun rest => ?_
  show readTestOf (.name term.column)
    (.sign term.comparison.sign :: .placeholder term.value :: rest) = _
  rw [readTestOf, sign]
  rfl

/-- Values between commas are read up to the bracket. -/
theorem readValues_commas (value : Json) (values : List Json) (rest : List (Token Json)) :
    readValues (commas ((value :: values).map fun v => [.placeholder v]) ++ .sign ")" :: rest) =
      some (value :: values, rest) := by
  induction values generalizing value with
  | nil => rfl
  | cons next values ih =>
    have others := ih next
    rw [commas, List.map_cons] at others ⊢
    rw [List.map_cons, List.intercalate_cons_cons, List.append_assoc, List.append_assoc]
    simp only [List.singleton_append, readValues, others]
    rfl

/-- **The tokens of a condition are read as the expression that it stands for.** -/
theorem Condition.readsAs (condition : Condition) (writable : condition.Writable) :
    ReadsAs .test condition.tokens condition.expression := by
  cases condition with
  | compare term => exact term.readsAs
  | oneOf column values =>
    cases values with
    | nil => exact absurd rfl writable
    | cons value values =>
      refine readsAs_test (fun _ => rfl) fun rest => ?_
      have shape : (oneOf column (value :: values)).tokens ++ rest =
          Token.name column :: .word "IN" :: .sign "(" ::
            (commas ((value :: values).map fun v => [Token.placeholder v]) ++
              Token.sign ")" :: rest) := by
        simp [tokens]
      rw [shape]
      show (do
        let (values, rest) ← readValues
          (commas ((value :: values).map fun v => [.placeholder v]) ++ Token.sign ")" :: rest)
        some (Expression.among (.name column) values, rest)) = _
      rw [readValues_commas]
      rfl
  | never => exact readsAs_test (fun _ => rfl) fun _ => rfl
  | isNull column => exact readsAs_test (fun _ => rfl) fun _ => rfl
  | notNull column => exact readsAs_test (fun _ => rfl) fun _ => rfl
  | like column pattern => exact readsAs_test (fun _ => rfl) fun _ => rfl
  | anyOf terms =>
    cases terms with
    | nil => exact absurd rfl writable
    | cons term terms =>
      -- A comparison is a test, and so a chain of one under the operator that binds tighter.
      have joined (other : Term) : ReadsAs (.joined .and) other.tokens other.expression :=
        ReadsAs.joined other.readsAs
      exact readsAs_brackets (readsAs_chain .or term terms fun other _ => joined other)

/-! ### The values of conditions -/

section Values

variable (table : Table) (row : Row)

theorem any_cons (truth : Truth) (truths : List Truth) :
    Truth.any (truth :: truths) = Connective.or.combine truth (Truth.any truths) := by
  conv => lhs; unfold Truth.any
  generalize Truth.any truths = others
  rcases truth with _ | _ | _ <;> rcases others with _ | _ | _ <;> rfl

theorem Connective.combine_and_eq_true {left right : Truth} :
    Connective.and.combine left right = some true ↔ left = some true ∧ right = some true := by
  rcases left with _ | _ | _ <;> rcases right with _ | _ | _ <;> decide

/-- Joined by `OR`, at least one expression has to hold. -/
theorem Expression.truth_chain_or (first : Expression) (more : List Expression) :
    (chain .or first more).truth table row =
      Truth.any ((first :: more).map (·.truth table row)) := by
  induction more generalizing first with
  | nil =>
    rw [chain, List.map_singleton, any_cons]
    rcases first.truth table row with _ | _ | _ <;> rfl
  | cons next more ih =>
    have others := ih next
    rw [chain, truth, others, List.map_cons (a := first), any_cons]

/-- Joined by `AND`, all expressions have to hold. -/
theorem Expression.truth_chain_and (first : Expression) (more : List Expression) :
    (chain .and first more).truth table row = some true ↔
      ∀ expression ∈ first :: more, expression.truth table row = some true := by
  induction more generalizing first with
  | nil => simp [chain]
  | cons next more ih =>
    rw [chain, truth, Connective.combine_and_eq_true, ih,
      List.forall_mem_cons (a := first)]

theorem Operand.text?_lowered (operand : Operand) :
    (lowered operand).text? table row =
      (Table.loweredText? (operand.cell table row)).map String.ofList := by
  rw [text?, cell]
  cases operand.cell table row <;> simp [Table.loweredText?, Cell.toText, Text.lower]

/-- The expression of a condition has the value of the condition. -/
theorem Condition.truth_expression (condition : Condition) :
    condition.expression.truth table row = table.truth row condition := by
  cases condition with
  | compare term => rfl
  | oneOf column values => rfl
  | never => rfl
  | isNull column => rfl
  | notNull column => rfl
  | like column pattern =>
    have text : (Operand.lowered (.name column)).text? table row =
        (Table.loweredText? (row.read (table.declaration.source column))).map String.ofList :=
      Operand.text?_lowered table row (.name column)
    have wanted : (Operand.lowered (.constant (.string pattern))).text? table row =
        some (Text.lower pattern) := rfl
    rw [expression, Expression.truth, text, wanted, Table.truth]
    -- The pattern is never unknown, so the test is unknown where the text is.
    generalize Table.loweredText? (row.read (table.declaration.source column)) = found
    cases found with
    | none => rfl
    | some chars => simp [Text.lower]
  | anyOf terms =>
    cases terms with
    | nil => rfl
    | cons term terms =>
      rw [expression, Expression.truth_chain_or, ← List.map_cons, List.map_map]
      rfl

/-- The tokens of a restriction are read as its conditions, joined by `AND`. -/
theorem restriction?_whereTokens (first : Condition) (rest : List Condition)
    (writable : ∀ condition ∈ first :: rest, condition.Writable) :
    restriction? (whereTokens (first :: rest)) =
      some (some (.chain .and first.expression (rest.map Condition.expression))) := by
  have joined : ReadsAs (.joined .and)
      (List.intercalate [.word "AND"] ((first :: rest).map Condition.tokens))
      (.chain .and first.expression (rest.map Condition.expression)) :=
    readsAs_chain .and first rest fun condition mem => condition.readsAs (writable condition mem)
  have tokens : whereTokens (first :: rest) = .word "WHERE" ::
      List.intercalate [.word "AND"] ((first :: rest).map Condition.tokens) := rfl
  rw [tokens]
  generalize List.intercalate [.word "AND"] ((first :: rest).map Condition.tokens) = spelt at joined
  -- A chain under the one operator is a chain of length one under the other.
  have loosest : ReadsAs (.joined .or) spelt _ := ReadsAs.joined joined
  have read := loosest [] (2 * spelt.length + 3) ⟨rfl, rfl⟩ (Nat.le_refl _)
  rw [List.append_nil] at read
  simp [restriction?, read]

/-- **A restriction written for conditions selects the rows that meet all of them.** -/
theorem selected?_where (conditions : List Condition)
    (writable : ∀ condition ∈ conditions, condition.Writable) :
    selected? table row (whereChars conditions) (whereParams conditions) =
      some (table.selects conditions row) := by
  -- The parameters are the values of the tokens, so the tokens are got back whole.
  have filled : fill ((whereTokens conditions).map Token.blank) (whereParams conditions) =
      some (whereTokens conditions) := by
    rw [← values_whereTokens]
    exact fill_blank _
  rw [selected?, (spells_where conditions).tokens_eq]
  show (fill _ _).bind _ = _
  rw [filled]
  cases conditions with
  | nil => rfl
  | cons first rest =>
    show (restriction? _).bind _ = _
    rw [restriction?_whereTokens first rest writable]
    show some (decide _) = _
    rw [Table.selects, ← Bool.decide_coe ((first :: rest).all _)]
    congr 1
    rw [decide_eq_decide, List.all_eq_true, Expression.truth_chain_and, ← List.map_cons]
    simp [Condition.truth_expression]

end Values

end RowQuery.Sql
