import Mathlib.Tactic

/-!
# Data definition

The statements a schema migration is made of, over any SQL dialect. A `Database` is a catalog (types,
tables, and the rules on them: keys, checks and indexes) with the rows of its tables. A `Statement` changes
the catalog, the rows or both, and fails if the new rows do not satisfy the new catalog (`exec`). A
`migrate` is a transaction: it runs to its end or leaves the database as it was.

A row is a function of the column's name and NULL is `none`, also where there is no such column.

Rules of proof: a statement that changes no rows fails exactly if a rule it creates does not hold of them
(`run_structural`); the other statements have one lemma each.
-/

set_option autoImplicit false

namespace LedgerLoop.Library.Ddl

/-- The values, column types and conditions of a dialect. -/
structure Dialect where
  Value : Type
  ColumnType : Type
  Condition : Type
  decValue : DecidableEq Value
  decColumnType : DecidableEq ColumnType
  decCondition : DecidableEq Condition
  admits : ColumnType → Value → Bool
  /-- The type a column type is the name of, if it is a created one. -/
  named : ColumnType → Option String
  /-- The truth of a condition; `none` is unknown. -/
  eval : Condition → (String → Option Value) → Option Bool
  mentions : Condition → List String
  eval_congr : ∀ {e : Condition} {r r' : String → Option Value},
    (∀ c ∈ mentions e, r c = r' c) → eval e r = eval e r'

variable {D : Dialect}

instance : DecidableEq D.Value := D.decValue

instance : DecidableEq D.ColumnType := D.decColumnType

instance : DecidableEq D.Condition := D.decCondition

abbrev Row (D : Dialect) := String → Option D.Value

/-- The rows of every table. -/
abbrev Data (D : Dialect) := String → List (Row D)

structure Column (D : Dialect) where
  name : String
  type : D.ColumnType
  nullable : Bool
deriving DecidableEq

structure Table (D : Dialect) where
  name : String
  columns : List (Column D)
deriving DecidableEq

/-- A column of an index. -/
structure IndexKey where
  column : String
  desc : Bool := false
deriving DecidableEq

/-- A key, a check or an index, on the table it belongs to. -/
inductive Kind (D : Dialect) where
  | primaryKey (column : String)
  | foreignKey (column table referenced : String)
  | check (condition : D.Condition)
  | index (unique : Bool) (keys : List IndexKey) (where_ : Option D.Condition)
deriving DecidableEq

structure Rule (D : Dialect) where
  name : String
  table : String
  kind : Kind D
deriving DecidableEq

/-- Two rows that a unique index does not admit together. -/
def Collide (keys : List IndexKey) (where_ : Option D.Condition) (r r' : Row D) : Prop :=
  (∀ e ∈ where_, D.eval e r = some true ∧ D.eval e r' = some true) ∧
    ∀ k ∈ keys, r k.column ≠ none ∧ r k.column = r' k.column

instance (keys : List IndexKey) (where_ : Option D.Condition) (r r' : Row D) :
    Decidable (Collide keys where_ r r') := inferInstanceAs (Decidable (_ ∧ _))

/-- What a rule says of the rows of its table and of the rest of the data. -/
def Kind.Holds (d : Data D) (rows : List (Row D)) : Kind D → Prop
  | .primaryKey c => (∀ r ∈ rows, r c ≠ none) ∧ rows.Pairwise fun r r' => r c ≠ r' c
  | .foreignKey c t c' => ∀ r ∈ rows, r c = none ∨ ∃ r' ∈ d t, r' c' = r c
  | .check e => ∀ r ∈ rows, D.eval e r ≠ some false
  | .index unique keys where_ => unique = true → rows.Pairwise fun r r' => ¬Collide keys where_ r r'

instance (d : Data D) (rows : List (Row D)) : (kind : Kind D) → Decidable (kind.Holds d rows)
  | .primaryKey c => inferInstanceAs (Decidable ((∀ r ∈ rows, r c ≠ none) ∧ rows.Pairwise fun r r' => r c ≠ r' c))
  | .foreignKey c t c' => inferInstanceAs (Decidable (∀ r ∈ rows, r c = none ∨ ∃ r' ∈ d t, r' c' = r c))
  | .check e => inferInstanceAs (Decidable (∀ r ∈ rows, D.eval e r ≠ some false))
  | .index unique keys where_ =>
    inferInstanceAs (Decidable (unique = true → rows.Pairwise fun r r' => ¬Collide keys where_ r r'))

/-- A rule holds of the data. -/
def Rule.Holds (rule : Rule D) (d : Data D) : Prop := rule.kind.Holds d (d rule.table)

instance (rule : Rule D) (d : Data D) : Decidable (rule.Holds d) := inferInstanceAs (Decidable (Kind.Holds _ _ _))

/-- The columns of its own table that a rule reads. -/
def Kind.columns : Kind D → List String
  | .primaryKey c | .foreignKey c _ _ => [c]
  | .check e => D.mentions e
  | .index _ keys where_ => keys.map IndexKey.column ++ where_.toList.flatMap D.mentions

/-- The column a foreign key refers to. -/
def Kind.refersTo : Kind D → Option (String × String)
  | .foreignKey _ t c => some (t, c)
  | .primaryKey _ | .check _ | .index .. => none

/-- Whether a rule reads a column of a table. -/
def Rule.reads (rule : Rule D) (t c : String) : Bool :=
  rule.table == t && rule.kind.columns.contains c || rule.kind.refersTo == some (t, c)

/-- The types, tables and rules of a schema; the rules in the order of their names. -/
structure Catalog (D : Dialect) where
  types : List String := []
  tables : List (Table D) := []
  rules : List (Rule D) := []
deriving DecidableEq

/-- A value a column takes. -/
def Column.Takes (column : Column D) (v : Option D.Value) : Prop :=
  (v = none → column.nullable = true) ∧ ∀ x ∈ v, D.admits column.type x = true

instance (column : Column D) (v : Option D.Value) : Decidable (column.Takes v) :=
  inferInstanceAs (Decidable (_ ∧ _))

/-- The data satisfy the schema. -/
structure Catalog.Holds (C : Catalog D) (d : Data D) : Prop where
  typed : ∀ T ∈ C.tables, ∀ column ∈ T.columns, ∀ r ∈ d T.name, column.Takes (r column.name)
  rules : ∀ rule ∈ C.rules, rule.Holds d

instance (C : Catalog D) (d : Data D) : Decidable (C.Holds d) :=
  decidable_of_iff ((∀ T ∈ C.tables, ∀ column ∈ T.columns, ∀ r ∈ d T.name, column.Takes (r column.name)) ∧
    ∀ rule ∈ C.rules, rule.Holds d) ⟨fun h => ⟨h.1, h.2⟩, fun h => ⟨h.1, h.2⟩⟩

/-- There are no rows and no values but those of the schema's tables and columns. -/
structure Catalog.Tidy (C : Catalog D) (d : Data D) : Prop where
  tables : ∀ t, (∀ T ∈ C.tables, T.name ≠ t) → d t = []
  columns : ∀ T ∈ C.tables, ∀ r ∈ d T.name, ∀ c, (∀ column ∈ T.columns, column.name ≠ c) → r c = none

/-- What a database with a given schema may contain. -/
structure Content (C : Catalog D) where
  data : Data D
  tidy : C.Tidy data
  holds : C.Holds data

structure Database (D : Dialect) where
  catalog : Catalog D := {}
  data : Data D := fun _ => []

inductive Statement (D : Dialect) where
  /-- `CREATE TYPE`, unless it exists. -/
  | createType (name : String)
  /-- `DROP TYPE`, if it exists. -/
  | dropType (name : String)
  | createTable (table : Table D) (rules : List (Rule D))
  | dropTable (name : String)
  | addColumn (table : String) (column : Column D)
  | dropColumn (table column : String)
  | setNotNull (table column : String)
  /-- `CREATE INDEX` or `ADD CONSTRAINT`. -/
  | create (rule : Rule D)
  /-- `DROP INDEX` or `DROP CONSTRAINT`. -/
  | drop (table name : String)
  /-- `INSERT .. ON CONFLICT (target) DO NOTHING` of one row. -/
  | insert (table target : String) (row : Row D)
  /-- `UPDATE table SET column = (SELECT sought FROM source WHERE key = value)`. -/
  | update (table column source sought key : String) (value : D.Value)

/-- Put a value into a column of every row of a table. -/
def Data.write (d : Data D) (t c : String) (v : Option D.Value) : Data D :=
  Function.update d t ((d t).map fun r => Function.update r c v)

/-- Put a value into a column of every row of several tables. -/
def Data.writeAll (d : Data D) (ts : List String) (c : String) (v : Option D.Value) : Data D :=
  fun t => if t ∈ ts then (d t).map fun r => Function.update r c v else d t

namespace Catalog

/-- Whether a table has a column. -/
def hasColumn (C : Catalog D) (t c : String) : Bool :=
  C.tables.any fun T => T.name == t && T.columns.any (·.name == c)

/-- Whether a column's type exists. -/
def hasType (C : Catalog D) (type : D.ColumnType) : Bool := (D.named type).all C.types.contains

/-- Whether a rule's columns exist and a foreign key refers to a primary key. -/
def admitsRule (C : Catalog D) (rule : Rule D) : Bool :=
  rule.kind.columns.all (C.hasColumn rule.table) &&
    rule.kind.refersTo.all fun ref => C.rules.any fun r => r.table == ref.1 && r.kind == .primaryKey ref.2

/-- Names in the order of their bytes. -/
abbrev inOrder (a b : Rule D) : Prop := a.name.toByteArray.data.toList ≤ b.name.toByteArray.data.toList

/-- Add a rule under a new name. -/
def addRule (C : Catalog D) (rule : Rule D) : Option (Catalog D) :=
  if !C.rules.any (·.name == rule.name) && C.admitsRule rule then
    some { C with rules := C.rules.orderedInsert inOrder rule }
  else none

/-- Change the columns of a table. -/
def mapColumns (C : Catalog D) (t : String) (f : List (Column D) → List (Column D)) : Catalog D :=
  { C with tables := C.tables.map fun T => if T.name = t then { T with columns := f T.columns } else T }

end Catalog

/-- What a statement does to the catalog. -/
def Statement.define (C : Catalog D) : Statement D → Option (Catalog D)
  | .createType name => some { C with types := if name ∈ C.types then C.types else C.types ++ [name] }
  | .dropType name =>
    if C.tables.any (·.columns.any (D.named ·.type == some name)) then none
    else some { C with types := C.types.erase name }
  | .createTable T rules =>
    if !C.tables.any (·.name == T.name) && T.columns.all (C.hasType ·.type) && rules.all (·.table == T.name) then
      rules.foldlM Catalog.addRule { C with tables := C.tables ++ [T] }
    else none
  | .dropTable name =>
    if C.tables.any (·.name == name) &&
        C.rules.all (fun rule => rule.table == name || !rule.kind.refersTo.any (·.1 == name)) then
      some { C with tables := C.tables.filter (·.name != name), rules := C.rules.filter (·.table != name) }
    else none
  | .addColumn t column =>
    if C.tables.any (·.name == t) && !C.hasColumn t column.name && C.hasType column.type then
      some (C.mapColumns t (· ++ [column]))
    else none
  | .dropColumn t c =>
    if C.hasColumn t c && C.rules.all (·.kind.refersTo != some (t, c)) then
      some { C.mapColumns t (·.filter (·.name != c)) with rules := C.rules.filter (!·.reads t c) }
    else none
  | .setNotNull t c =>
    if C.hasColumn t c then
      some (C.mapColumns t (·.map fun column => if column.name = c then { column with nullable := false } else column))
    else none
  | .create rule => C.addRule rule
  | .drop t name =>
    if C.rules.any (fun rule => rule.table == t && rule.name == name) then
      some { C with rules := C.rules.filter (·.name != name) }
    else none
  | .insert t target _ => if C.hasColumn t target then some C else none
  | .update t c source sought key _ =>
    if C.hasColumn t c && C.hasColumn source sought && C.hasColumn source key then some C else none

/-- What a statement does to the rows; a subquery with two rows is an error. -/
def Statement.change (d : Data D) : Statement D → Option (Data D)
  | .createTable T _ => some (Function.update d T.name [])
  | .dropTable name => some (Function.update d name [])
  | .addColumn t column => some (d.write t column.name none)
  | .dropColumn t c => some (d.write t c none)
  | .insert t target row =>
    if ∃ r ∈ d t, r target ≠ none ∧ r target = row target then some d
    else some (Function.update d t (d t ++ [row]))
  | .update t c source sought key value =>
    let found := (d source).filter fun r => r key == some value
    if found.length ≤ 1 then some (d.write t c (found.head?.bind fun r => r sought)) else none
  | .createType _ | .dropType _ | .setNotNull _ _ | .create _ | .drop _ _ => some d

/-- Execute one statement; `none` is an error. -/
def exec (db : Database D) (s : Statement D) : Option (Database D) :=
  (s.define db.catalog).bind fun C => (s.change db.data).bind fun d =>
    if C.Holds d then some ⟨C, d⟩ else none

/-- Execute the statements one after the other. -/
def run (ss : List (Statement D)) (db : Database D) : Option (Database D) := ss.foldlM exec db

/-- Execute the statements in a transaction; tells whether it has committed. -/
def migrate (ss : List (Statement D)) (db : Database D) : Database D × Bool :=
  (run ss db).elim (db, false) fun db' => (db', true)

/-- The catalog after the statements. -/
def defineAll (ss : List (Statement D)) (C : Catalog D) : Option (Catalog D) :=
  ss.foldlM Statement.define C

/-- The rules a statement creates. -/
def Statement.created : Statement D → List (Rule D)
  | .create rule => [rule]
  | .createTable _ rules => rules
  | _ => []

/-- A statement that creates and drops rules and types, or a table that is empty. -/
def Statement.Structural (d : Data D) : Statement D → Prop
  | .createType _ | .dropType _ | .create _ | .drop _ _ => True
  | .createTable T _ => d T.name = []
  | .dropTable _ | .addColumn _ _ | .dropColumn _ _ | .setNotNull _ _ | .insert _ _ _ | .update .. => False

/-- A statement that creates or drops a rule. -/
def Statement.onRule : Statement D → Bool
  | .create _ | .drop _ _ => true
  | _ => false

section Rules
variable {C C' : Catalog D} {d d' : Data D} {s : Statement D} {ss : List (Statement D)}
  {rule : Rule D} {rules : List (Rule D)} {t c : String} {ts : List String} {v : Option D.Value}

lemma run_append {ss' : List (Statement D)} {db : Database D} :
    run (ss ++ ss') db = (run ss db).bind (run ss') := List.foldlM_append

lemma defineAll_append {ss' : List (Statement D)} :
    defineAll (ss ++ ss') C = (defineAll ss C).bind (defineAll ss') := List.foldlM_append

/-- A statement whose change satisfies its catalog. -/
lemma exec_eq (defined : s.define C = some C') (changed : s.change d = some d') (holds : C'.Holds d') :
    exec ⟨C, d⟩ s = some ⟨C', d'⟩ := by
  simp only [exec, defined, changed, Option.bind_some, if_pos holds]

lemma run_cons {db db' : Database D} (ok : exec db s = some db') : run (s :: ss) db = run ss db' := by
  rw [run, List.foldlM_cons, ok]
  rfl

lemma migrate_some {db db' : Database D} (ok : run ss db = some db') : migrate ss db = (db', true) := by
  rw [migrate, ok]
  rfl

lemma migrate_none {db : Database D} (error : run ss db = none) : migrate ss db = (db, false) := by
  rw [migrate, error]
  rfl

/-- A new rule joins the others. -/
lemma addRule_some (added : C.addRule rule = some C') :
    C'.tables = C.tables ∧ ∀ r, r ∈ C'.rules ↔ r = rule ∨ r ∈ C.rules := by
  unfold Catalog.addRule at added
  split_ifs at added
  obtain rfl := Option.some.inj added
  exact ⟨rfl, fun r => List.mem_orderedInsert _⟩

lemma addRules_some (added : rules.foldlM Catalog.addRule C = some C') :
    C'.tables = C.tables ∧ ∀ r, r ∈ C'.rules ↔ r ∈ rules ∨ r ∈ C.rules := by
  induction rules generalizing C with
  | nil =>
    obtain rfl := Option.some.inj added
    exact ⟨rfl, fun r => by simp⟩
  | cons rule rules ih =>
    rw [List.foldlM_cons] at added
    obtain ⟨C1, first, rest⟩ := Option.bind_eq_some_iff.1 added
    obtain ⟨tables, mem⟩ := addRule_some first
    obtain ⟨tables', mem'⟩ := ih rest
    refine ⟨tables'.trans tables, fun r => ?_⟩
    rw [mem', mem, List.mem_cons]
    tauto

/-- What a structural statement leaves of the catalog, and what it adds. -/
lemma define_structural (structural : s.Structural d) (defined : s.define C = some C') :
    (∀ T ∈ C'.tables, T ∈ C.tables ∨ d T.name = []) ∧ (∀ r ∈ C'.rules, r ∈ s.created ∨ r ∈ C.rules) ∧
      ∀ r ∈ s.created, r ∈ C'.rules := by
  cases s with
  | createType name =>
    obtain rfl := Option.some.inj defined
    exact ⟨fun T mem => .inl mem, fun r mem => .inr mem, by rintro r ⟨⟩⟩
  | dropType name =>
    simp only [Statement.define] at defined
    split_ifs at defined
    obtain rfl := Option.some.inj defined
    exact ⟨fun T mem => .inl mem, fun r mem => .inr mem, by rintro r ⟨⟩⟩
  | createTable T rules =>
    simp only [Statement.define] at defined
    split_ifs at defined
    obtain ⟨tables, mem⟩ := addRules_some defined
    refine ⟨fun T' mem' => ?_, fun r => (mem r).1, fun r created => (mem r).2 (.inl created)⟩
    rw [tables, List.mem_append, List.mem_singleton] at mem'
    rcases mem' with was | rfl
    · exact .inl was
    · exact .inr structural
  | create rule =>
    obtain ⟨tables, mem⟩ := addRule_some defined
    refine ⟨fun T mem' => .inl (tables ▸ mem'), fun r mem' => ?_, fun r created => (mem r).2 (.inl ?_)⟩
    · exact ((mem r).1 mem').imp_left List.mem_singleton.2
    · exact List.mem_singleton.1 created
  | drop t name =>
    simp only [Statement.define] at defined
    split_ifs at defined
    obtain rfl := Option.some.inj defined
    exact ⟨fun T mem => .inl mem, fun r mem => .inr (List.mem_of_mem_filter mem), by rintro r ⟨⟩⟩
  | dropTable | addColumn | dropColumn | setNotNull | insert | update => exact structural.elim

lemma structural_of_onRule (onRule : s.onRule = true) : s.Structural d := by
  cases s with
  | create | drop => trivial
  | _ => cases onRule

lemma change_structural (structural : s.Structural d) : s.change d = some d := by
  cases s with
  | createType | dropType | create | drop => rfl
  | createTable T rules => exact congrArg some (Function.update_eq_self_iff.2 (structural : d T.name = []).symm)
  | dropTable | addColumn | dropColumn | setNotNull | insert | update => exact structural.elim

/-- A structural statement fails exactly if a rule it creates is violated. -/
lemma exec_structural (structural : s.Structural d) (holds : C.Holds d) (defined : s.define C = some C') :
    exec ⟨C, d⟩ s = if ∀ r ∈ s.created, r.Holds d then some ⟨C', d⟩ else none := by
  obtain ⟨tables, old, new⟩ := define_structural structural defined
  have iff : C'.Holds d ↔ ∀ r ∈ s.created, r.Holds d := by
    refine ⟨fun holds' r mem => holds'.rules r (new r mem), fun created => ⟨fun T mem column here r row => ?_,
      fun r mem => (old r mem).elim (created r) (holds.rules r)⟩⟩
    rcases tables T mem with was | empty
    · exact holds.typed T was column here r row
    · rw [empty] at row
      cases row
  simp only [exec, defined, change_structural structural, Option.bind_some, iff]

/-- Structural statements fail exactly if a rule that one of them creates is violated. -/
lemma run_structural (structural : ∀ s ∈ ss, s.Structural d) (holds : C.Holds d)
    (defined : defineAll ss C = some C') :
    run ss ⟨C, d⟩ = if ∀ r ∈ ss.flatMap Statement.created, r.Holds d then some ⟨C', d⟩ else none := by
  induction ss generalizing C with
  | nil =>
    obtain rfl := Option.some.inj defined
    rfl
  | cons s ss ih =>
    rw [defineAll, List.foldlM_cons] at defined
    obtain ⟨C1, first, rest⟩ := Option.bind_eq_some_iff.1 defined
    have one := exec_structural (structural s List.mem_cons_self) holds first
    simp only [List.flatMap_cons, List.forall_mem_append]
    by_cases created : ∀ r ∈ s.created, r.Holds d
    · rw [if_pos created] at one
      have holds' : C1.Holds d := by
        by_contra violated
        simp only [exec, first, change_structural (structural s List.mem_cons_self), Option.bind_some,
          if_neg violated] at one
        cases one
      rw [run_cons one, ih (fun s mem => structural s (List.mem_cons_of_mem _ mem)) holds' rest]
      simp only [and_iff_right created]
    · rw [if_neg created] at one
      rw [if_neg fun both => created both.1, run, List.foldlM_cons, one]
      rfl

@[simp] lemma write_self : d.write t c v t = (d t).map fun r => Function.update r c v :=
  Function.update_self ..

lemma write_of_ne {t' : String} (ne : t' ≠ t) : d.write t c v t' = d t' := Function.update_of_ne ne ..

lemma write_write {v' : Option D.Value} : (d.write t c v).write t c v' = d.write t c v' := by
  funext t'
  by_cases same : t' = t
  · subst same
    simp [Function.comp_def]
  · rw [write_of_ne same, write_of_ne same, write_of_ne same]

/-- The values of the other columns, in every table. -/
lemma forall_mem_write {t' c' : String} {P : Option D.Value → Prop} (other : t' = t → c' ≠ c) :
    (∀ r ∈ d.write t c v t', P (r c')) ↔ ∀ r ∈ d t', P (r c') := by
  by_cases same : t' = t
  · subst same
    simp only [write_self, List.forall_mem_map, Function.update_of_ne (other rfl)]
  · rw [write_of_ne same]

/-- What a rule says of rows it cannot tell apart. -/
lemma Kind.holds_map {kind : Kind D} {rows : List (Row D)} {f : Row D → Row D}
    (kept : ∀ r, ∀ c ∈ kind.columns, f r c = r c)
    (referred : ∀ t c, kind.refersTo = some (t, c) → ∀ x, (∃ r ∈ d' t, r c = x) ↔ ∃ r ∈ d t, r c = x) :
    kind.Holds d' (rows.map f) ↔ kind.Holds d rows := by
  cases kind with
  | primaryKey c =>
    have same (r : Row D) : f r c = r c := kept r c List.mem_cons_self
    simp only [Kind.Holds, List.forall_mem_map, List.pairwise_map, same]
  | foreignKey c t c' =>
    have same (r : Row D) : f r c = r c := kept r c List.mem_cons_self
    simp only [Kind.Holds, List.forall_mem_map, same, referred t c' rfl]
  | check e =>
    have same (r : Row D) : D.eval e (f r) = D.eval e r := D.eval_congr fun c mem => kept r c mem
    simp only [Kind.Holds, List.forall_mem_map, same]
  | index unique keys where_ =>
    have collide (r r' : Row D) : Collide keys where_ (f r) (f r') ↔ Collide keys where_ r r' := by
      have key (r : Row D) (k : IndexKey) (mem : k ∈ keys) : f r k.column = r k.column :=
        kept r _ (List.mem_append_left _ (List.mem_map_of_mem mem))
      have cond (r : Row D) (e : D.Condition) (mem : e ∈ where_) : D.eval e (f r) = D.eval e r :=
        D.eval_congr fun c here => kept r c (List.mem_append_right _
          (List.mem_flatMap.2 ⟨e, Option.mem_toList.2 mem, here⟩))
      refine and_congr (forall₂_congr fun e mem => ?_) (forall₂_congr fun k mem => ?_)
      · rw [cond r e mem, cond r' e mem]
      · rw [key r k mem, key r' k mem]
    simp only [Kind.Holds, List.pairwise_map, collide]

/-- A rule that does not read the column holds before and after. -/
lemma Rule.holds_write (free : rule.reads t c = false) : rule.Holds (d.write t c v) ↔ rule.Holds d := by
  simp only [Rule.reads, Bool.or_eq_false_iff, Bool.and_eq_false_imp, beq_iff_eq] at free
  have referred : ∀ t' c', rule.kind.refersTo = some (t', c') →
      ∀ x, (∃ r ∈ d.write t c v t', r c' = x) ↔ ∃ r ∈ d t', r c' = x := fun t' c' refers x => by
    have other : t' = t → c' ≠ c := by
      rintro rfl rfl
      simp [refers] at free
    have all := @forall_mem_write D d t c v t' c' (· ≠ x) other
    simpa only [ne_eq, not_forall, not_not, exists_prop] using not_congr all
  unfold Rule.Holds
  by_cases same : rule.table = t
  · have unread : c ∉ rule.kind.columns := by simpa using free.1 same
    rw [same, write_self]
    refine Kind.holds_map (fun r c' mem => Function.update_of_ne ?_ ..) referred
    rintro rfl
    exact unread mem
  · rw [write_of_ne same]
    have rows := @Kind.holds_map D d (d.write t c v) rule.kind (d rule.table) id (fun _ _ _ => rfl) referred
    rwa [List.map_id] at rows

/-- A rule that does not concern the table holds before and after. -/
lemma Rule.holds_update {rows : List (Row D)} (own : rule.table ≠ t)
    (apart : rule.kind.refersTo.any (·.1 == t) = false) : rule.Holds (Function.update d t rows) ↔ rule.Holds d := by
  have same := @Kind.holds_map D d (Function.update d t rows) rule.kind (d rule.table) id (fun _ _ _ => rfl)
    fun t' c' refers x => by
      rw [Function.update_of_ne]
      rintro rfl
      simp [refers] at apart
  rw [List.map_id] at same
  rw [Rule.Holds, Function.update_of_ne own]
  exact same

lemma writeAll_nil : d.writeAll [] c v = d := by
  funext t
  simp [Data.writeAll]

lemma writeAll_cons : d.writeAll (t :: ts) c v = (d.write t c v).writeAll ts c v := by
  funext t'
  by_cases same : t' = t
  · subst same
    by_cases again : t' ∈ ts <;> simp [Data.writeAll, again, Function.comp_def]
  · simp [Data.writeAll, same, write_of_ne same]

lemma Rule.holds_writeAll (free : ∀ t ∈ ts, rule.reads t c = false) :
    rule.Holds (d.writeAll ts c v) ↔ rule.Holds d := by
  induction ts generalizing d with
  | nil => rw [writeAll_nil]
  | cons t ts ih =>
    rw [writeAll_cons, ih fun t mem => free t (List.mem_cons_of_mem _ mem),
      Rule.holds_write (free t List.mem_cons_self)]

/-- A rule says nothing of an empty table. -/
lemma Rule.holds_of_empty (empty : d rule.table = []) : rule.Holds d := by
  unfold Rule.Holds
  rw [empty]
  cases rule.kind with
  | primaryKey c => exact ⟨by simp, .nil⟩
  | foreignKey c t c' | check e => simp [Kind.Holds]
  | index unique keys where_ => exact fun _ => .nil

/-- An index that is not unique. -/
def Kind.plain : Kind D → Bool
  | .index unique _ _ => !unique
  | .primaryKey _ | .foreignKey _ _ _ | .check _ => false

lemma Rule.holds_of_plain (plain : rule.kind.plain = true) : rule.Holds d := by
  unfold Rule.Holds
  cases kind : rule.kind with
  | index unique keys where_ =>
    rw [kind, Kind.plain, Bool.not_eq_true'] at plain
    exact fun is => absurd (is.symm.trans plain) (by decide)
  | primaryKey | foreignKey | check => simp [kind, Kind.plain] at plain

/-- A unique index over fewer columns. -/
def Kind.refines : Kind D → Kind D → Bool
  | .index true keys where_, .index _ keys' where_' => keys ⊆ keys' && where_ == where_'
  | _, _ => false

/-- A unique index over fewer columns admits fewer rows. -/
lemma Rule.holds_of_refines {finer : Rule D} (table : finer.table = rule.table)
    (refines : finer.kind.refines rule.kind = true) (holds : finer.Holds d) : rule.Holds d := by
  unfold Rule.Holds at holds ⊢
  rw [table] at holds
  unfold Kind.refines at refines
  split at refines
  · rename_i keys where_ unique keys' where_' fine coarse
    rw [Bool.and_eq_true, decide_eq_true_eq, beq_iff_eq] at refines
    obtain ⟨sub, rfl⟩ := refines
    rw [fine] at holds
    rw [coarse]
    exact fun _ => (holds rfl).imp fun apart collide => apart ⟨collide.1, fun k mem => collide.2 k (sub mem)⟩
  · cases refines

/-- What a statement leaves satisfies the catalog. -/
lemma holds_of_exec {db : Database D} (ok : exec db s = some ⟨C', d'⟩) : C'.Holds d' := by
  obtain ⟨C, _, changed⟩ := Option.bind_eq_some_iff.1 ok
  obtain ⟨d, _, checked⟩ := Option.bind_eq_some_iff.1 changed
  split_ifs at checked with holds
  cases checked
  exact holds

lemma holds_of_run (holds : C.Holds d) (ok : run ss ⟨C, d⟩ = some ⟨C', d'⟩) : C'.Holds d' := by
  induction ss generalizing C d with
  | nil =>
    cases ok
    exact holds
  | cons s ss ih =>
    rw [run, List.foldlM_cons] at ok
    obtain ⟨⟨C1, d1⟩, first, rest⟩ := Option.bind_eq_some_iff.1 ok
    exact ih (holds_of_exec first) rest

/-- Writing a value that the column takes and that no rule reads. -/
lemma Catalog.Holds.write (holds : C.Holds d) (free : ∀ rule ∈ C.rules, rule.reads t c = false)
    (takes : ∀ T ∈ C.tables, T.name = t → ∀ column ∈ T.columns, column.name = c → column.Takes v) :
    C.Holds (d.write t c v) where
  typed T mem column here := by
    by_cases written : T.name = t ∧ column.name = c
    · obtain ⟨rfl, rfl⟩ := written
      rw [write_self, List.forall_mem_map]
      intro r _
      rw [Function.update_self]
      exact takes T mem rfl column here rfl
    · have other : T.name = t → column.name ≠ c := fun table eq => written ⟨table, eq⟩
      exact (forall_mem_write other).2 (holds.typed T mem column here)
  rules rule mem := (Rule.holds_write (free rule mem)).2 (holds.rules rule mem)

lemma mem_mapColumns {T : Table D} {f : List (Column D) → List (Column D)} (mem : T ∈ (C.mapColumns t f).tables) :
    ∃ T0 ∈ C.tables, T.name = T0.name ∧ T.columns = if T0.name = t then f T0.columns else T0.columns := by
  obtain ⟨T0, mem0, rfl⟩ := List.mem_map.1 mem
  refine ⟨T0, mem0, ?_⟩
  split_ifs <;> exact ⟨rfl, rfl⟩

/-- A table without the column. -/
lemma ne_of_hasColumn (absent : C.hasColumn t c = false) {T : Table D} (mem : T ∈ C.tables) (table : T.name = t)
    {column : Column D} (here : column ∈ T.columns) : column.name ≠ c := by
  rintro rfl
  refine Bool.eq_false_iff.1 absent (List.any_eq_true.2 ⟨T, mem, ?_⟩)
  rw [Bool.and_eq_true, beq_iff_eq, List.any_eq_true]
  exact ⟨table, column, here, beq_self_eq_true _⟩

/-- A nullable column is added with NULL in every row. -/
lemma exec_addColumn {column : Column D} (holds : C.Holds d) (nullable : column.nullable = true)
    (free : ∀ rule ∈ C.rules, rule.reads t column.name = false)
    (defined : (Statement.addColumn t column).define C = some C') :
    exec ⟨C, d⟩ (.addColumn t column) = some ⟨C', d.write t column.name none⟩ := by
  refine exec_eq defined rfl ?_
  simp only [Statement.define] at defined
  split_ifs at defined with admitted
  simp only [Bool.and_eq_true, Bool.not_eq_true'] at admitted
  obtain rfl := Option.some.inj defined
  have kept : C.Holds (d.write t column.name none) := holds.write free fun T mem table column' here eq =>
    absurd eq (ne_of_hasColumn admitted.1.2 mem table here)
  refine ⟨fun T mem column' here r row => ?_, kept.rules⟩
  obtain ⟨T0, mem0, name, columns⟩ := mem_mapColumns mem
  rw [name] at row
  rw [columns] at here
  split_ifs at here with table
  · rcases List.mem_append.1 here with here | here
    · exact kept.typed T0 mem0 column' here r row
    · obtain rfl := List.mem_singleton.1 here
      rw [table, write_self] at row
      obtain ⟨r0, _, rfl⟩ := List.mem_map.1 row
      rw [Function.update_self]
      exact ⟨fun _ => nullable, by rintro x ⟨⟩⟩
  · exact kept.typed T0 mem0 column' here r row

/-- The new column is the only one of its name, and there are no new rules. -/
lemma define_addColumn {column : Column D} (defined : (Statement.addColumn t column).define C = some C') :
    C'.rules = C.rules ∧ ∀ T ∈ C'.tables, T.name = t → ∀ column' ∈ T.columns, column'.name = column.name →
      column' = column := by
  simp only [Statement.define] at defined
  split_ifs at defined with admitted
  simp only [Bool.and_eq_true, Bool.not_eq_true'] at admitted
  obtain rfl := Option.some.inj defined
  refine ⟨rfl, fun T mem table column' here eq => ?_⟩
  obtain ⟨T0, mem0, name, columns⟩ := mem_mapColumns mem
  rw [name] at table
  rw [columns, if_pos table] at here
  rcases List.mem_append.1 here with here | here
  · exact absurd eq (ne_of_hasColumn admitted.1.2 mem0 table here)
  · exact List.mem_singleton.1 here

/-- A column without NULL is made not nullable; there are no new rules. -/
lemma define_setNotNull (defined : (Statement.setNotNull t c).define C = some C') : C'.rules = C.rules := by
  simp only [Statement.define] at defined
  split_ifs at defined
  exact Option.some.inj defined ▸ rfl

lemma exec_setNotNull (holds : C.Holds d) (filled : ∀ r ∈ d t, r c ≠ none)
    (defined : (Statement.setNotNull t c).define C = some C') :
    exec ⟨C, d⟩ (.setNotNull t c) = some ⟨C', d⟩ := by
  refine exec_eq defined rfl ?_
  simp only [Statement.define] at defined
  split_ifs at defined
  obtain rfl := Option.some.inj defined
  refine ⟨fun T mem column here r row => ?_, holds.rules⟩
  obtain ⟨T0, mem0, name, columns⟩ := mem_mapColumns mem
  rw [name] at row
  rw [columns] at here
  split_ifs at here with table
  · obtain ⟨column0, here0, rfl⟩ := List.mem_map.1 here
    have takes := holds.typed T0 mem0 column0 here0 r row
    split_ifs with same
    · exact ⟨fun null => absurd (same ▸ null) (filled r (table ▸ row)), takes.2⟩
    · exact takes
  · exact holds.typed T0 mem0 column here r row

/-- A column is dropped with its values and the rules that read it. -/
lemma exec_dropColumn (holds : C.Holds d) (defined : (Statement.dropColumn t c).define C = some C') :
    exec ⟨C, d⟩ (.dropColumn t c) = some ⟨C', d.write t c none⟩ := by
  refine exec_eq defined rfl ?_
  simp only [Statement.define] at defined
  split_ifs at defined
  obtain rfl := Option.some.inj defined
  refine ⟨fun T mem column here => ?_, fun rule mem => ?_⟩
  · obtain ⟨T0, mem0, name, columns⟩ := mem_mapColumns mem
    rw [columns] at here
    rw [name]
    split_ifs at here with table
    · obtain ⟨here, other⟩ := List.mem_filter.1 here
      exact (forall_mem_write fun _ => by simpa using other).2 (holds.typed T0 mem0 column here)
    · exact (forall_mem_write fun eq => absurd eq table).2 (holds.typed T0 mem0 column here)
  · obtain ⟨mem, free⟩ := List.mem_filter.1 mem
    exact (Rule.holds_write (by simpa using free)).2 (holds.rules rule mem)

/-- A table is dropped with its rows. -/
lemma exec_dropTable (holds : C.Holds d) (defined : (Statement.dropTable t).define C = some C') :
    exec ⟨C, d⟩ (.dropTable t) = some ⟨C', Function.update d t []⟩ := by
  refine exec_eq defined rfl ?_
  simp only [Statement.define] at defined
  split_ifs at defined with admitted
  obtain rfl := Option.some.inj defined
  simp only [Bool.and_eq_true, List.all_eq_true, Bool.or_eq_true, beq_iff_eq, Bool.not_eq_true'] at admitted
  refine ⟨fun T mem column here => ?_, fun rule mem => ?_⟩
  · obtain ⟨mem, other⟩ := List.mem_filter.1 mem
    rw [Function.update_of_ne (by simpa using other)]
    exact holds.typed T mem column here
  · obtain ⟨mem, other⟩ := List.mem_filter.1 mem
    have apart : rule.table ≠ t := by simpa using other
    have unreferred := (admitted.2 rule mem).resolve_left apart
    exact (Rule.holds_update apart unreferred).2 (holds.rules rule mem)

/-- An update leaves the catalog. -/
lemma define_update {source sought key : String} {value : D.Value}
    (defined : (Statement.update t c source sought key value).define C = some C') : C' = C := by
  simp only [Statement.define] at defined
  split_ifs at defined
  exact (Option.some.inj defined).symm

/-- Every row gets the value that is found. -/
lemma exec_update {source sought key : String} {value : D.Value} {row : Row D} (holds : C.Holds d)
    (free : ∀ rule ∈ C.rules, rule.reads t c = false)
    (takes : ∀ T ∈ C.tables, T.name = t → ∀ column ∈ T.columns, column.name = c → column.Takes (row sought))
    (found : d source = [row]) (is : row key = some value)
    (defined : (Statement.update t c source sought key value).define C = some C') :
    exec ⟨C, d⟩ (.update t c source sought key value) = some ⟨C', d.write t c (row sought)⟩ := by
  obtain rfl := define_update defined
  refine exec_eq defined ?_ (holds.write free takes)
  simp [Statement.change, found, is]

/-- A row with values in some columns satisfies the rule if it is alone in its table. -/
def Kind.heldAlone (filled : List String) : Kind D → Bool
  | .primaryKey c => filled.contains c
  | .index .. => true
  | .foreignKey .. | .check _ => false

/-- The first row of a table. -/
lemma exec_insert {target : String} {row : Row D} {filled : List String} (holds : C.Holds d) (empty : d t = [])
    (takes : ∀ T ∈ C.tables, T.name = t → ∀ column ∈ T.columns, column.Takes (row column.name))
    (values : ∀ c ∈ filled, row c ≠ none)
    (alone : ∀ rule ∈ C.rules, rule.table = t → rule.kind.heldAlone filled = true)
    (defined : (Statement.insert t target row).define C = some C') :
    exec ⟨C, d⟩ (.insert t target row) = some ⟨C', Function.update d t [row]⟩ := by
  have same : C = C' := by
    simp only [Statement.define] at defined
    split_ifs at defined
    exact Option.some.inj defined
  subst same
  refine exec_eq defined (by simp [Statement.change, empty]) ⟨fun T mem column here r in_ => ?_, fun rule mem => ?_⟩
  · by_cases table : T.name = t
    · rw [table, Function.update_self, List.mem_singleton] at in_
      exact in_ ▸ takes T mem table column here
    · rw [Function.update_of_ne table] at in_
      exact holds.typed T mem column here r in_
  · have here := holds.rules rule mem
    unfold Rule.Holds at here ⊢
    by_cases table : rule.table = t
    · have single := alone rule mem table
      rw [table, Function.update_self]
      cases kind : rule.kind with
      | primaryKey c =>
        rw [kind, Kind.heldAlone, List.contains_iff_mem] at single
        exact ⟨fun r in_ => List.mem_singleton.1 in_ ▸ values c single, List.pairwise_singleton ..⟩
      | index unique keys where_ => exact fun _ => List.pairwise_singleton ..
      | foreignKey | check => simp [kind, Kind.heldAlone] at single
    · rw [Function.update_of_ne table]
      cases kind : rule.kind with
      | primaryKey | index | check =>
        rw [kind] at here
        exact here
      | foreignKey c t' c' =>
        rw [kind] at here
        refine fun r in_ => (here r in_).imp_right ?_
        rintro ⟨r', in_', eq⟩
        refine ⟨r', ?_, eq⟩
        by_cases referred : t' = t
        · rw [referred, empty] at in_'
          cases in_'
        · rwa [Function.update_of_ne referred]

end Rules

end LedgerLoop.Library.Ddl
