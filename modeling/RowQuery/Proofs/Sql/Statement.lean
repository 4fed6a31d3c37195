import RowQuery.Proofs.Sql.Token
import RowQuery.Sql.Statement

/-!
# The tokens of a statement

The text of a statement and its parameters, seen together: a list of tokens in which every
placeholder holds the value that goes with it.

* `Statement.tokens` are the tokens of a statement, `Condition.tokens` those of a condition.
* `Fits` says that a text and its parameters are such a list, taken apart.
* `Statement.fits` — the text and the parameters of every statement fit its tokens. So no name ends
  before its last character, and every parameter meets its own placeholder.
-/

namespace RowQuery.Sql

/-- Items with commas between them. -/
def commas {α : Type} (items : List (List (Token α))) : List (Token α) :=
  List.intercalate [.sign ","] items

/-- The tokens of a comparison. -/
def Term.tokens (term : Term) : List (Token Json) :=
  [.name term.column, .sign term.comparison.sign, .placeholder term.value]

/-- The tokens of a condition. -/
def Condition.tokens : Condition → List (Token Json)
  | compare term => term.tokens
  | oneOf column values =>
    [.name column, .word "IN", .sign "("] ++
      commas (values.map fun value => [.placeholder value]) ++ [.sign ")"]
  | never => [.word "1", .sign "=", .word "0"]
  | isNull column => [.name column, .word "IS", .word "NULL"]
  | notNull column => [.name column, .word "IS", .word "NOT", .word "NULL"]
  | like column pattern =>
    [.word lowerFunction, .sign "(", .name column, .sign ")", .word "LIKE",
      .word lowerFunction, .sign "(", .placeholder (.string pattern), .sign ")"]
  | anyOf terms =>
    [.sign "("] ++ List.intercalate [.word "OR"] (terms.map Term.tokens) ++ [.sign ")"]

/-- The tokens that restrict a statement to the rows where all conditions hold. -/
def whereTokens (conditions : List Condition) : List (Token Json) :=
  if conditions.isEmpty then []
  else .word "WHERE" :: List.intercalate [.word "AND"] (conditions.map Condition.tokens)

/-- The token of an entry of a list of columns. -/
def Selection.token : Selection → Token Json
  | all => .sign "*"
  | column name => .name name

/-- The tokens of an order term. -/
def orderTokens (term : OrderTerm) : List (Token Json) :=
  [.name term.column, .word (if term.ascending then "ASC" else "DESC")]

/-- The tokens of a statement. -/
def Statement.tokens : Statement → List (Token Json)
  | select projection table conditions order limit =>
    [.word "SELECT"] ++ commas (projection.map fun entry => [entry.token]) ++
      [.word "FROM", .name table] ++ whereTokens conditions ++
      (if order.isEmpty then []
        else [.word "ORDER", .word "BY"] ++ commas (order.map orderTokens)) ++
      (match limit with
        | none => []
        | some n => [.word "LIMIT", .placeholder (.integer n)])
  | insert table values =>
    [.word "INSERT", .word "INTO", .name table, .sign "("] ++
      commas (values.map fun field => [.name field.1]) ++
      [.sign ")", .word "VALUES", .sign "("] ++
      commas (values.map fun field => [.placeholder field.2]) ++ [.sign ")"]
  | update table values conditions =>
    [.word "UPDATE", .name table, .word "SET"] ++
      commas (values.map fun field => [.name field.1, .sign "=", .placeholder field.2]) ++
      whereTokens conditions
  | delete table conditions =>
    [.word "DELETE", .word "FROM", .name table] ++ whereTokens conditions

/-! ### The values in the placeholders -/

/-- The values in the placeholders among some tokens, in order. -/
def values (tokens : List (Token Json)) : List Json := tokens.filterMap Token.value?

@[simp] theorem values_nil : values [] = [] := rfl

@[simp] theorem values_append (tokens more : List (Token Json)) :
    values (tokens ++ more) = values tokens ++ values more := List.filterMap_append ..

@[simp] theorem values_word (letters : String) (rest : List (Token Json)) :
    values (.word letters :: rest) = values rest := rfl

@[simp] theorem values_sign (letters : String) (rest : List (Token Json)) :
    values (.sign letters :: rest) = values rest := rfl

@[simp] theorem values_name (name : String) (rest : List (Token Json)) :
    values (.name name :: rest) = values rest := rfl

@[simp] theorem values_placeholder (value : Json) (rest : List (Token Json)) :
    values (.placeholder value :: rest) = value :: values rest := rfl

/-- The values of items are those of each item in turn, whatever separates the items. -/
theorem values_intercalate {α : Type} {separator : List (Token Json)}
    (separates : values separator = []) {write : α → List (Token Json)} {each : α → List Json}
    (h : ∀ item, values (write item) = each item) (items : List α) :
    values (separator.intercalate (items.map write)) = items.flatMap each := by
  induction items with
  | nil => rfl
  | cons item rest ih =>
    cases rest with
    | nil => simp [h]
    | cons next rest =>
      rw [List.map_cons, List.map_cons, List.intercalate_cons_cons, ← List.map_cons, values_append,
        values_append, separates, ih, List.append_nil, h]
      rfl

/-- Items with one value each. -/
theorem values_intercalate_single {α : Type} {separator : List (Token Json)}
    (separates : values separator = []) {write : α → List (Token Json)} {each : α → Json}
    (h : ∀ item, values (write item) = [each item]) (items : List α) :
    values (separator.intercalate (items.map write)) = items.map each := by
  rw [values_intercalate separates h, List.map_eq_flatMap]

/-- Items without values. -/
theorem values_intercalate_nil {α : Type} {separator : List (Token Json)}
    (separates : values separator = []) {write : α → List (Token Json)}
    (h : ∀ item, values (write item) = []) (items : List α) :
    values (separator.intercalate (items.map write)) = [] := by
  rw [values_intercalate separates h]
  exact List.flatMap_eq_nil_iff.mpr fun _ _ => rfl

theorem Condition.values_tokens (condition : Condition) :
    values condition.tokens = condition.params := by
  cases condition with
  | compare term => rfl
  | oneOf column listed =>
    have placeholders : values (commas (listed.map fun value => [.placeholder value])) =
        listed.map id := values_intercalate_single rfl (fun _ => rfl) listed
    simp [tokens, params, placeholders]
  | never | isNull _ | notNull _ | like _ _ => rfl
  | anyOf terms =>
    have alternatives : values (List.intercalate [.word "OR"] (terms.map Term.tokens)) =
        terms.map (·.value) := values_intercalate_single rfl (fun _ => rfl) terms
    simp [tokens, params, alternatives]

theorem values_whereTokens (conditions : List Condition) :
    values (whereTokens conditions) = whereParams conditions := by
  cases conditions with
  | nil => rfl
  | cons first rest => exact values_intercalate rfl Condition.values_tokens _

theorem Statement.values_tokens (statement : Statement) :
    values statement.tokens = statement.params := by
  cases statement with
  | select projection table conditions order limit =>
    have columns : values (commas (projection.map fun entry => [entry.token])) = [] :=
      values_intercalate_nil rfl (fun entry => by cases entry <;> rfl) projection
    have keys : values (commas (order.map orderTokens)) = [] :=
      values_intercalate_nil rfl (fun _ => rfl) order
    cases order <;> cases limit <;> simp_all [tokens, params, values_whereTokens]
  | insert table fields =>
    have names : values (commas (fields.map fun field => [.name field.1])) = [] :=
      values_intercalate_nil rfl (fun _ => rfl) fields
    have placeholders : values (commas (fields.map fun field => [.placeholder field.2])) =
        fields.map (·.2) := values_intercalate_single rfl (fun _ => rfl) fields
    simp [tokens, params, names, placeholders]
  | update table fields conditions =>
    have settings : values (commas (fields.map fun field =>
        [.name field.1, .sign "=", .placeholder field.2])) = fields.map (·.2) :=
      values_intercalate_single rfl (fun _ => rfl) fields
    simp [tokens, params, values_whereTokens, settings]
  | delete table conditions => simp [tokens, params, values_whereTokens]

/-! ### The texts -/

theorem stop_blank {rest : List Char} : Stop (' ' :: rest) := .inl rfl

theorem stop_opening {rest : List Char} : Stop ('(' :: rest) := .inr (.inr (.inl rfl))

theorem stop_closing {rest : List Char} : Stop (')' :: rest) := .inr (.inr (.inr rfl))

theorem breaks_blank {rest : List Char} : Breaks (' ' :: rest) := ⟨List.cons_ne_nil _ _, stop_blank⟩

theorem breaks_closing {rest : List Char} : Breaks (')' :: rest) :=
  ⟨List.cons_ne_nil _ _, stop_closing⟩

theorem stop_clause (chars : List Char) : Stop (clause chars) := by
  rw [clause]
  split
  · trivial
  · exact stop_blank

theorem spells_commas {α : Type} {write : α → List Char} {read : α → List (Token Json)}
    (items : List α) (h : ∀ item ∈ items, Spells (write item) (read item)) :
    Spells (Text.joinWith [',', ' '] (items.map write)) (commas (items.map read)) :=
  spells_joinWith (fun _ _ => rfl) ⟨List.cons_ne_nil _ _, .inr (.inl rfl)⟩ items h

theorem Term.spells (term : Term) : Spells term.chars term.tokens := by
  have sign : Spells (' ' :: term.comparison.sign.toList) [.sign term.comparison.sign] := by
    -- A sign of two characters is complete in itself, one of one character only before a stop.
    cases term.comparison with
    | ne | ge | le => exact fun _ _ _ => rfl
    | eq => exact spells_of_reading (.operator '=') [] (.sign "=") (fun _ _ => rfl) fun _ => rfl
    | gt => exact spells_of_reading (.operator '>') [] (.sign ">") (fun _ _ => rfl) fun _ => rfl
    | lt => exact spells_of_reading (.operator '<') [] (.sign "<") (fun _ _ => rfl) fun _ => rfl
  have value : Spells [' ', '?'] [.placeholder term.value] := spells_placeholder term.value
  exact ((spells_name term.column).append sign stop_blank).append value stop_blank

theorem Condition.spells (condition : Condition) : Spells condition.chars condition.tokens := by
  have opening : SpellsAnywhere ['('] [.sign "("] := fun _ _ => rfl
  have closing : Spells [')'] [.sign ")"] := fun _ _ _ => rfl
  cases condition with
  | compare term => exact term.spells
  | oneOf column listed =>
    have test : SpellsAnywhere " IN (".toList [.word "IN", .sign "("] := fun _ _ => rfl
    have inside : Spells (Text.joinWith [',', ' '] (listed.map fun _ => ['?']))
        (commas (listed.map fun value => [.placeholder value])) :=
      spells_commas listed fun value _ => spells_placeholder value
    have start := (spells_name column).append_anywhere test breaks_blank
    exact (start.append inside).append closing stop_closing
  | never =>
    exact spells_of_reading (.word ['0']) [.word "1", .sign "="] (.word "0") (fun _ _ => rfl)
      fun _ => rfl
  | isNull column =>
    have test : Spells " IS NULL".toList [.word "IS", .word "NULL"] :=
      spells_of_reading (.word ['L', 'L', 'U', 'N']) [.word "IS"] (.word "NULL") (fun _ _ => rfl)
        fun _ => rfl
    exact (spells_name column).append test stop_blank
  | notNull column =>
    have test : Spells " IS NOT NULL".toList [.word "IS", .word "NOT", .word "NULL"] :=
      spells_of_reading (.word ['L', 'L', 'U', 'N']) [.word "IS", .word "NOT"] (.word "NULL")
        (fun _ _ => rfl) fun _ => rfl
    exact (spells_name column).append test stop_blank
  | like column pattern =>
    have function : Spells lowerFunction.toList [.word lowerFunction] :=
      spells_of_reading (.word lowerFunction.toList.reverse) [] (.word lowerFunction)
        (fun _ _ => rfl) fun _ => rfl
    have operator : SpellsAnywhere ") LIKE ".toList [.sign ")", .word "LIKE"] := fun _ _ => rfl
    -- The function is called twice, so a bracket follows each of its names.
    have value := opening.append ((spells_placeholder (.string pattern)).append closing
      stop_closing)
    have lowered := function.append (opening.append (spells_name column))
      stop_opening
    have compared := (lowered.append_anywhere operator breaks_closing).append function
    exact compared.append value stop_opening
  | anyOf terms =>
    have separator : SpellsAnywhere " OR ".toList [.word "OR"] := fun _ _ => rfl
    have inside := spells_joinWith separator breaks_blank terms fun term _ => term.spells
    exact (opening.append inside).append closing stop_closing

/-- A restriction spells its tokens; without conditions there is nothing. -/
theorem spells_where (conditions : List Condition) :
    Spells (whereChars conditions) (whereTokens conditions) := by
  cases conditions with
  | nil => exact spellsAnywhere_nil.spells
  | cons first rest =>
    have keyword : SpellsAnywhere "WHERE ".toList [.word "WHERE"] := fun _ _ => rfl
    have separator : SpellsAnywhere " AND ".toList [.word "AND"] := fun _ _ => rfl
    exact keyword.append (spells_joinWith separator breaks_blank (first :: rest)
      fun condition _ => condition.spells)

/-- A blank in front does not matter. -/
theorem Spells.clause {text : List Char} {spelt : List (Token Json)} (h : Spells text spelt) :
    Spells (clause text) spelt := by
  have blank : SpellsAnywhere [' '] [] := fun _ _ => rfl
  rw [Sql.clause]
  split
  · next empty => rwa [List.isEmpty_iff.mp empty] at h
  · exact blank.append h

theorem Selection.spells (entry : Selection) : Spells entry.chars [entry.token] := by
  cases entry with
  | all => exact fun _ _ _ => rfl
  | column name => exact spells_name name

theorem orderTerm_spells (term : OrderTerm) : Spells (orderChars term) (orderTokens term) := by
  have direction : Spells (if term.ascending then " ASC" else " DESC").toList
      [.word (if term.ascending then "ASC" else "DESC")] := by
    cases term.ascending with
    | true =>
      exact spells_of_reading (.word ['C', 'S', 'A']) [] (.word "ASC") (fun _ _ => rfl)
        fun _ => rfl
    | false =>
      exact spells_of_reading (.word ['C', 'S', 'E', 'D']) [] (.word "DESC") (fun _ _ => rfl)
        fun _ => rfl
  have stop : Stop (if term.ascending then " ASC" else " DESC").toList := by
    cases term.ascending <;> exact stop_blank
  exact (spells_name term.column).append direction stop

/-- The order of a select, if it has one. -/
theorem spells_order (order : List OrderTerm) :
    Spells (if order.isEmpty then []
        else " ORDER BY ".toList ++ Text.joinWith [',', ' '] (order.map orderChars))
      (if order.isEmpty then []
        else [.word "ORDER", .word "BY"] ++ commas (order.map orderTokens)) := by
  cases order with
  | nil => exact spellsAnywhere_nil.spells
  | cons first rest =>
    have keyword : SpellsAnywhere " ORDER BY ".toList [.word "ORDER", .word "BY"] :=
      fun _ _ => rfl
    exact keyword.append (spells_commas (first :: rest) fun term _ => orderTerm_spells term)

/-- The limit of a select, if it has one. -/
theorem spells_limit (limit : Option Int) :
    Spells (if limit.isNone then [] else " LIMIT ?".toList)
      (match limit with
        | none => []
        | some n => [.word "LIMIT", .placeholder (.integer n)]) := by
  cases limit with
  | none => exact spellsAnywhere_nil.spells
  | some n =>
    exact spells_of_reading .mark [.word "LIMIT"] (.placeholder (.integer n)) (fun _ _ => rfl)
      fun _ => rfl

/-- Every statement spells its tokens. -/
theorem Statement.spells (statement : Statement) : Spells statement.chars statement.tokens := by
  cases statement with
  | select projection table conditions order limit =>
    have keyword : SpellsAnywhere "SELECT ".toList [.word "SELECT"] := fun _ _ => rfl
    have source : SpellsAnywhere " FROM ".toList [.word "FROM"] := fun _ _ => rfl
    have orderStop : Stop (if order.isEmpty then []
        else " ORDER BY ".toList ++ Text.joinWith [',', ' '] (order.map orderChars)) := by
      cases order with
      | nil => trivial
      | cons => exact stop_blank
    have limitStop : Stop (if limit.isNone then [] else " LIMIT ?".toList) := by
      cases limit with
      | none => trivial
      | some => exact stop_blank
    -- Part by part: what ends a part is the blank in front of the next one.
    have columns := keyword.append (spells_commas projection fun entry _ => entry.spells)
    have named := (columns.append_anywhere source breaks_blank).append (spells_name table)
    rw [List.append_assoc _ [Token.word "FROM"] [Token.name table]] at named
    have restricted := named.append (spells_where conditions).clause (stop_clause _)
    exact (restricted.append (spells_order order) orderStop).append (spells_limit limit) limitStop
  | insert table fields =>
    have keyword : SpellsAnywhere "INSERT INTO ".toList [.word "INSERT", .word "INTO"] :=
      fun _ _ => rfl
    have opening : SpellsAnywhere " (".toList [.sign "("] := fun _ _ => rfl
    have middle : SpellsAnywhere ") VALUES (".toList [.sign ")", .word "VALUES", .sign "("] :=
      fun _ _ => rfl
    have closing : Spells [')'] [.sign ")"] := fun _ _ _ => rfl
    have names : Spells (Text.joinWith [',', ' '] (fields.map fun field => nameChars field.1))
        (commas (fields.map fun field => [.name field.1])) :=
      spells_commas fields fun field _ => spells_name field.1
    have placeholders : Spells (Text.joinWith [',', ' '] (fields.map fun _ => ['?']))
        (commas (fields.map fun field => [.placeholder field.2])) :=
      spells_commas fields fun field _ => spells_placeholder field.2
    -- The brackets end the lists of names and of placeholders.
    have start := (keyword.append (spells_name table)).append_anywhere opening breaks_blank
    have listed := (start.append names).append_anywhere middle breaks_closing
    exact (listed.append placeholders).append closing stop_closing
  | update table fields conditions =>
    have keyword : SpellsAnywhere "UPDATE ".toList [.word "UPDATE"] := fun _ _ => rfl
    have setting : SpellsAnywhere " SET ".toList [.word "SET"] := fun _ _ => rfl
    have assigned : ∀ value : Json, Spells " = ?".toList [.sign "=", .placeholder value] :=
      fun value => spells_of_reading .mark [.sign "="] (.placeholder value) (fun _ _ => rfl)
        fun _ => rfl
    have assignments : Spells
        (Text.joinWith [',', ' '] (fields.map fun field => nameChars field.1 ++ " = ?".toList))
        (commas (fields.map fun field => [.name field.1, .sign "=", .placeholder field.2])) :=
      spells_commas fields fun field _ =>
        (spells_name field.1).append (assigned field.2) stop_blank
    have start := (keyword.append (spells_name table)).append_anywhere setting breaks_blank
    exact (start.append assignments).append (spells_where conditions).clause (stop_clause _)
  | delete table conditions =>
    have keyword : SpellsAnywhere "DELETE FROM ".toList [.word "DELETE", .word "FROM"] :=
      fun _ _ => rfl
    exact (keyword.append (spells_name table)).append (spells_where conditions).clause
      (stop_clause _)

/-! ### Texts and parameters together -/

/-- A text and its parameters are some tokens, taken apart: the tokens as they are written, and the
values in their placeholders. -/
structure Fits (text : String) (params : List Json) (tokens : List (Token Json)) : Prop where
  tokens_eq : Sql.tokens text.toList = some (tokens.map Token.blank)
  values_eq : params = values tokens

/-- There are as many placeholders as parameters. -/
theorem Fits.count_placeholders {text : String} {params : List Json} {spelt : List (Token Json)}
    (h : Fits text params spelt) :
    (Sql.tokens text.toList).map (·.countP Token.isPlaceholder) = some params.length := by
  have same : Token.isPlaceholder ∘ Token.blank = fun token : Token Json => token.value?.isSome :=
    funext fun token => by cases token <;> rfl
  rw [h.tokens_eq, Option.map_some, List.countP_map, same, h.values_eq, values,
    List.length_filterMap_eq_countP]

/-- The text and the parameters of a statement fit its tokens. -/
theorem Statement.fits (statement : Statement) :
    Fits statement.text statement.params statement.tokens where
  tokens_eq := by
    rw [text, String.toList_ofList]
    exact statement.spells.tokens_eq
  values_eq := statement.values_tokens.symm

end RowQuery.Sql
