import Medallion.Proofs.Compilation.Compile
import Medallion.Proofs.Names

/-!
# What validation decides

Validation has five checks, and the first one that fails decides.  `Decision` lists the
outcomes one by one, each with the condition under which it comes about and with the questions
that have been asked by then; it says nothing about the steps.  There is always an outcome
(`exists_decision`), and it is the one that `validate` has (`validate_of_decision`).  So
`validate` decides exactly as the list says (`validate_eq_iff_decision`).

* Nothing is asked before the headers and the source tables are known to be there.
* The resolver is asked for one source table after the other, in the order in which rows first
  name them, for each of them once, up to the first for which it has no schema
  (`Resolver.questions`).
* The invalid columns are those that rows read and the schema of their table does not have.
  They are listed table by table, for each table in the order in which its rows first read
  them, and each of them once (`ListsInvalid`).
* A specification that is fit is answered as it is, with one schema for each source table.

What a resolver itself asks, and which errors it has, is left open.  An error of the resolver
is passed on as it is, so its form alone does not tell the check that has failed.
-/

namespace Medallion

/-! ## What is asked, and what is read -/

/-- What is asked for some tables, one after the other: for each table the question to the
resolver, and what the resolver asks for its answer. -/
def Resolver.questions (resolver : Resolver) (domain : String) (tier : Tier)
    (tables : List String) : List Call :=
  tables.flatMap fun table => .resolve domain tier table :: (resolver domain tier table).calls

/-- Whether an entry of a cache is that of a table, with what the resolver answers. -/
def Resolver.Answers (resolver : Resolver) (domain : String) (tier : Tier) (table : String)
    (entry : String × SourceSchema) : Prop :=
  entry.1 = table ∧ (resolver domain tier table).answer = .ok entry.2

/-- Whether the resolver has a schema for a table, and a column is not in it. -/
def Resolver.Lacks (resolver : Resolver) (domain : String) (tier : Tier) (c : InvalidColumn) :
    Prop :=
  ∃ schema, (resolver domain tier c.table).answer = .ok schema ∧
    ∀ column ∈ schema.columns, column.name ≠ c.column

namespace Specification

/-- The source tables that rows name, row by row, as their names are cleansed. -/
def tablesRead (spec : Specification) : List String :=
  spec.rows.filterMap fun row => Name.cleanse? row.sourceTable

/-- The columns that rows read from a source table, row by row, as their names are cleansed. -/
def columnsRead (spec : Specification) (table : String) : List String :=
  (spec.rows.filter fun row => row.sourceTable = some table).filterMap fun row =>
    Name.cleanse? row.sourceColumn

/-- Whether a row reads a column from a source table. -/
def Reads (spec : Specification) (c : InvalidColumn) : Prop :=
  c.table ∈ spec.tablesRead ∧ c.column ∈ spec.columnsRead c.table

/-- Whether a column comes before another one: its table is named first, or the two have the
same table and it is read first. -/
def ReadsBefore (spec : Specification) (c c' : InvalidColumn) : Prop :=
  spec.tablesRead.idxOf c.table < spec.tablesRead.idxOf c'.table ∨
    c.table = c'.table ∧ (spec.columnsRead c.table).idxOf c.column <
      (spec.columnsRead c.table).idxOf c'.column

/-- Whether a tier has required headers and a specification has all of them. -/
def HasRequired (spec : Specification) (tier : Tier) (rules : Rules) : Prop :=
  ∃ required, rules.required tier = some required ∧ ∀ header ∈ required, header ∈ spec.headers

end Specification

/-- Whether a list has the columns that rows read and the schemas of a resolver lack, in the
order in which they are read and each of them once. -/
structure ListsInvalid (spec : Specification) (domain : String) (tier : Tier)
    (resolver : Resolver) (invalid : List InvalidColumn) : Prop where
  mem_iff : ∀ c, c ∈ invalid ↔ spec.Reads c ∧ resolver.Lacks domain tier c
  ordered : invalid.Pairwise spec.ReadsBefore

/-- The outcomes of validation. -/
inductive Decision (spec : Specification) (domain : String) (tier : Tier) (rules : Rules)
    (resolver : Resolver) : Consult Validated → Prop where
  /-- Nothing is said about the headers of the tier. -/
  | unconfiguredTier (hnone : rules.required tier = none) :
      Decision spec domain tier rules resolver ⟨[], .error (.unconfiguredTier tier)⟩
  | missingColumns {required : List String} (hrequired : rules.required tier = some required)
      (hmissing : ∃ header ∈ required, header ∉ spec.headers) :
      Decision spec domain tier rules resolver
        ⟨[], .error (.missingColumns (required.filter (· ∉ spec.headers)))⟩
  | noSourceTables (hheaders : spec.HasRequired tier rules) (hnone : spec.sourceTables = []) :
      Decision spec domain tier rules resolver ⟨[], .error (.noSourceTables tier)⟩
  /-- There is no schema for a source table, and there is one for each table in front of it. -/
  | unresolved {before after : List String} {table : String} {e : MapError}
      (hheaders : spec.HasRequired tier rules)
      (htables : spec.sourceTables = before ++ table :: after)
      (hbefore : ∀ t ∈ before, ∃ schema, (resolver domain tier t).answer = .ok schema)
      (hfails : (resolver domain tier table).answer = .error e) :
      Decision spec domain tier rules resolver
        ⟨resolver.questions domain tier (before ++ [table]), .error e⟩
  | invalidSourceColumns {invalid : List InvalidColumn}
      (hheaders : spec.HasRequired tier rules)
      (hresolved : ∀ t ∈ spec.sourceTables, ∃ schema, (resolver domain tier t).answer = .ok schema)
      (hinvalid : ListsInvalid spec domain tier resolver invalid)
      (hne : invalid ≠ []) :
      Decision spec domain tier rules resolver
        ⟨resolver.questions domain tier spec.sourceTables, .error (.invalidSourceColumns invalid)⟩
  /-- The specification is unchanged, and the cache has one entry for each source table, with
  what the resolver has answered. -/
  | valid {schemas : SchemaCache} (hheaders : spec.HasRequired tier rules)
      (hne : spec.sourceTables ≠ [])
      (hcache : List.Forall₂ (resolver.Answers domain tier) spec.sourceTables schemas)
      (hvalid : ∀ c, spec.Reads c → ¬ resolver.Lacks domain tier c) :
      Decision spec domain tier rules resolver
        ⟨resolver.questions domain tier spec.sourceTables, .ok ⟨spec, schemas⟩⟩

/-! ## The columns that are read -/

section Columns

variable {spec : Specification} {domain : String} {tier : Tier} {resolver : Resolver}
  {schemas : SchemaCache} {invalid invalid' : List InvalidColumn}

theorem Specification.inFirstOrder_sourceTables (spec : Specification) :
    InFirstOrder spec.tablesRead spec.sourceTables :=
  Name.inFirstOrder_cleanse_map

theorem Specification.inFirstOrder_referencedColumns (spec : Specification) (table : String) :
    InFirstOrder (spec.columnsRead table) (spec.referencedColumns table) := by
  have hrows : spec.rowsOfSource table =
      spec.rows.filter fun row => row.sourceTable = some table := by
    rw [rowsOfSource]
    simp only [beq_eq_decide]
  rw [referencedColumns, hrows]
  exact Name.inFirstOrder_cleanse_map

/-- No two columns come before each other. -/
instance (spec : Specification) : Std.Asymm spec.ReadsBefore where
  asymm c c' h h' := by
    rcases h with htable | ⟨heq, hcolumn⟩ <;> rcases h' with htable' | ⟨heq', hcolumn'⟩
    · omega
    · rw [heq'] at htable
      omega
    · rw [heq] at htable'
      omega
    · rw [← heq] at hcolumn'
      omega

/-- There is one such list at most. -/
theorem ListsInvalid.unique (h : ListsInvalid spec domain tier resolver invalid)
    (h' : ListsInvalid spec domain tier resolver invalid') : invalid = invalid' := by
  refine h.ordered.eq_of_mem_iff h'.ordered fun c => ?_
  rw [h.mem_iff, h'.mem_iff]

theorem SourceSchema.hasColumn_eq_false_iff {schema : SourceSchema} {name : String} :
    schema.hasColumn name = false ↔ ∀ column ∈ schema.columns, column.name ≠ name := by
  rw [hasColumn, column?, Option.isSome_eq_false_iff, Option.isNone_iff_eq_none, List.find?_eq_none]
  simp only [beq_iff_eq, ne_eq]

open Classical in
/-- A cache that the resolver has filled has the columns that the resolver has. -/
theorem invalidColumns_eq_flatMap
    (hcache : List.Forall₂ (resolver.Answers domain tier) spec.sourceTables schemas) :
    spec.invalidColumns schemas = spec.sourceTables.flatMap fun table =>
      ((spec.referencedColumns table).filter fun column =>
        resolver.Lacks domain tier ⟨table, column⟩).map (⟨table, ·⟩) := by
  have hresolved := resolveAll_eq_ok.mpr hcache
  refine List.flatMap_congr fun table htable => ?_
  obtain ⟨schema, hschema⟩ := exists_schema?_of_mem hresolved htable
  have hanswer := (schema?_eq_some hresolved hschema).2
  rw [hschema]
  refine congrArg _ (List.filter_congr fun column _ => ?_)
  have hlacks : resolver.Lacks domain tier ⟨table, column⟩ ↔ schema.hasColumn column = false := by
    simp [Resolver.Lacks, hanswer, SourceSchema.hasColumn_eq_false_iff]
  simp [hlacks]

theorem listsInvalid_invalidColumns
    (hcache : List.Forall₂ (resolver.Answers domain tier) spec.sourceTables schemas) :
    ListsInvalid spec domain tier resolver (spec.invalidColumns schemas) := by
  rw [invalidColumns_eq_flatMap hcache]
  constructor
  · intro c
    rw [Specification.Reads, ← spec.inFirstOrder_sourceTables.mem_iff,
      ← (spec.inFirstOrder_referencedColumns c.table).mem_iff, List.mem_flatMap]
    simp only [List.mem_map, List.mem_filter, decide_eq_true_eq]
    constructor
    · rintro ⟨table, htable, column, ⟨hcolumn, hlacks⟩, rfl⟩
      exact ⟨⟨htable, hcolumn⟩, hlacks⟩
    · rintro ⟨⟨htable, hcolumn⟩, hlacks⟩
      exact ⟨c.table, htable, c.column, ⟨hcolumn, hlacks⟩, rfl⟩
  · rw [List.pairwise_flatMap]
    constructor
    · intro table _
      rw [List.pairwise_map]
      refine ((spec.inFirstOrder_referencedColumns table).ordered.filter _).imp fun hlt => ?_
      exact .inr ⟨rfl, hlt⟩
    · refine spec.inFirstOrder_sourceTables.ordered.imp fun hlt c hc c' hc' => ?_
      obtain ⟨_, -, rfl⟩ := List.mem_map.mp hc
      obtain ⟨_, -, rfl⟩ := List.mem_map.mp hc'
      exact .inl hlt

end Columns

/-! ## Asking for the schemas -/

section Asking

variable {domain : String} {tier : Tier} {resolver : Resolver} {table : String}

theorem Resolver.questions_cons (table : String) (tables : List String) :
    resolver.questions domain tier (table :: tables) =
      resolver.questions domain tier [table] ++ resolver.questions domain tier tables := by
  rw [questions, questions, questions, List.flatMap_cons, List.flatMap_singleton]

theorem Resolver.ask_eq (table : String) :
    resolver.ask domain tier table =
      ⟨resolver.questions domain tier [table], (resolver domain tier table).answer⟩ := by
  rw [questions, List.flatMap_singleton]
  rfl

/-- With a schema for each table everything is asked. -/
theorem resolveAll_of_answers {tables : List String} {schemas : SchemaCache}
    (hcache : List.Forall₂ (resolver.Answers domain tier) tables schemas) :
    resolveAll resolver domain tier tables =
      ⟨resolver.questions domain tier tables, .ok schemas⟩ := by
  induction hcache with
  | nil => rfl
  | @cons table entry tables schemas hentry _ ih =>
    obtain ⟨name, schema⟩ := entry
    obtain ⟨rfl, hanswer⟩ := hentry
    have hnothing : (pure ((name, schema) :: schemas) : Consult SchemaCache) =
        ⟨[], .ok ((name, schema) :: schemas)⟩ := rfl
    rw [resolveAll, ih, Resolver.ask_eq, hanswer, Consult.ok_bind, Consult.ok_bind, hnothing,
      Resolver.questions_cons name tables, List.append_nil]

/-- Behind a table without a schema nothing is asked. -/
theorem resolveAll_of_failure {before after : List String} {e : MapError}
    (hbefore : ∀ t ∈ before, ∃ schema, (resolver domain tier t).answer = .ok schema)
    (hfails : (resolver domain tier table).answer = .error e) :
    resolveAll resolver domain tier (before ++ table :: after) =
      ⟨resolver.questions domain tier (before ++ [table]), .error e⟩ := by
  induction before with
  | nil =>
    rw [List.nil_append, List.nil_append, resolveAll, Resolver.ask_eq, hfails,
      Consult.error_bind]
  | cons first before ih =>
    obtain ⟨schema, hanswer⟩ := hbefore first List.mem_cons_self
    have hrest := ih fun t ht => hbefore t (List.mem_cons_of_mem first ht)
    rw [List.cons_append, resolveAll, Resolver.ask_eq, hanswer, hrest, Consult.ok_bind,
      Consult.error_bind, List.cons_append, Resolver.questions_cons first (before ++ [table])]

/-- Some tables have a schema each, or there is a first one that has none. -/
theorem resolved_or_failure (tables : List String) :
    (∃ schemas, List.Forall₂ (resolver.Answers domain tier) tables schemas) ∨
      ∃ before table after e, tables = before ++ table :: after ∧
        (∀ t ∈ before, ∃ schema, (resolver domain tier t).answer = .ok schema) ∧
        (resolver domain tier table).answer = .error e := by
  induction tables with
  | nil => exact .inl ⟨[], .nil⟩
  | cons first tables ih =>
    cases hanswer : (resolver domain tier first).answer with
    | error e => exact .inr ⟨[], first, tables, e, rfl, by simp, hanswer⟩
    | ok schema =>
      rcases ih with ⟨schemas, hcache⟩ | ⟨before, table, after, e, rfl, hbefore, hfails⟩
      · exact .inl ⟨(first, schema) :: schemas, .cons ⟨rfl, hanswer⟩ hcache⟩
      · refine .inr ⟨first :: before, table, after, e, rfl, ?_, hfails⟩
        rw [List.forall_mem_cons]
        exact ⟨⟨schema, hanswer⟩, hbefore⟩

theorem exists_cache {tables : List String}
    (hresolved : ∀ t ∈ tables, ∃ schema, (resolver domain tier t).answer = .ok schema) :
    ∃ schemas, List.Forall₂ (resolver.Answers domain tier) tables schemas := by
  refine (resolved_or_failure tables).resolve_right ?_
  rintro ⟨before, table, after, e, rfl, -, hfails⟩
  obtain ⟨schema, hanswer⟩ := hresolved table (by simp)
  rw [hfails] at hanswer
  cases hanswer

theorem answers_of_cache {tables : List String} {schemas : SchemaCache}
    (hcache : List.Forall₂ (resolver.Answers domain tier) tables schemas) :
    ∀ t ∈ tables, ∃ schema, (resolver domain tier t).answer = .ok schema := by
  intro t ht
  obtain ⟨entry, -, -, hanswer⟩ := exists_of_forall₂_left hcache ht
  exact ⟨entry.2, hanswer⟩

end Asking

/-! ## The decision -/

section Deciding

variable {spec : Specification} {domain : String} {tier : Tier} {rules : Rules}
  {resolver : Resolver} {outcome : Consult Validated}

theorem Specification.missingHeaders_eq (spec : Specification) (required : List String) :
    spec.missingHeaders required = required.filter (· ∉ spec.headers) := by
  refine List.filter_congr fun header _ => ?_
  simp [hasHeader]

theorem Specification.missingHeaders_eq_nil {required : List String} :
    spec.missingHeaders required = [] ↔ ∀ header ∈ required, header ∈ spec.headers := by
  rw [missingHeaders_eq, List.filter_eq_nil_iff]
  simp

theorem checkHeaders_of_hasRequired (hheaders : spec.HasRequired tier rules) :
    checkHeaders spec tier rules = .ok () := by
  obtain ⟨required, hrequired, hall⟩ := hheaders
  exact checkHeaders_eq_ok.mpr ⟨required, hrequired, Specification.missingHeaders_eq_nil.mpr hall⟩

/-- With all headers and a source table, the resolver is asked, and then the columns are
checked. -/
theorem validate_of_hasRequired (hheaders : spec.HasRequired tier rules)
    (hne : spec.sourceTables ≠ []) :
    validate spec domain tier rules resolver =
      resolveAll resolver domain tier spec.sourceTables >>= fun schemas =>
        Consult.ofExcept (checkColumns spec schemas) := by
  have htables : checkSourceTables spec tier = .ok spec.sourceTables :=
    checkSourceTables_eq_ok.mpr ⟨hne, rfl⟩
  unfold validate
  rw [checkHeaders_of_hasRequired hheaders, htables]
  simp only [Consult.ofExcept, Consult.ok_bind, List.nil_append]

/-- What is decided is what `validate` answers. -/
theorem validate_of_decision (hdecision : Decision spec domain tier rules resolver outcome) :
    validate spec domain tier rules resolver = outcome := by
  cases hdecision with
  | unconfiguredTier hnone =>
    unfold validate checkHeaders
    rw [hnone]
    rfl
  | @missingColumns required hrequired hmissing =>
    have hne : required.filter (· ∉ spec.headers) ≠ [] := by
      obtain ⟨header, hmem, habsent⟩ := hmissing
      exact List.ne_nil_of_mem (List.mem_filter.mpr ⟨hmem, decide_eq_true habsent⟩)
    unfold validate checkHeaders
    rw [hrequired]
    dsimp only
    rw [spec.missingHeaders_eq]
    split
    · contradiction
    · rfl
  | noSourceTables hheaders hnone =>
    unfold validate checkSourceTables
    rw [checkHeaders_of_hasRequired hheaders, hnone]
    rfl
  | unresolved hheaders htables hbefore hfails =>
    have hne : spec.sourceTables ≠ [] := by
      rw [htables]
      simp
    rw [validate_of_hasRequired hheaders hne, htables, resolveAll_of_failure hbefore hfails,
      Consult.error_bind]
  | @invalidSourceColumns invalid hheaders hresolved hinvalid hne =>
    obtain ⟨schemas, hcache⟩ := exists_cache hresolved
    have hsame : spec.invalidColumns schemas = invalid :=
      (listsInvalid_invalidColumns hcache).unique hinvalid
    have hsources : spec.sourceTables ≠ [] := by
      intro hnil
      rw [Specification.invalidColumns, hnil] at hsame
      exact hne hsame.symm
    have hcheck : checkColumns spec schemas = .error (.invalidSourceColumns invalid) := by
      rw [checkColumns, hsame]
      split
      · contradiction
      · rfl
    rw [validate_of_hasRequired hheaders hsources, resolveAll_of_answers hcache, Consult.ok_bind,
      hcheck, Consult.ofExcept, List.append_nil]
  | @valid schemas hheaders hne hcache hvalid =>
    have hnone : spec.invalidColumns schemas = [] := by
      rw [List.eq_nil_iff_forall_not_mem]
      intro c hc
      obtain ⟨hread, hlacks⟩ := ((listsInvalid_invalidColumns hcache).mem_iff c).mp hc
      exact hvalid c hread hlacks
    have hcheck : checkColumns spec schemas = .ok ⟨spec, schemas⟩ :=
      checkColumns_eq_ok.mpr ⟨hnone, rfl⟩
    rw [validate_of_hasRequired hheaders hne, resolveAll_of_answers hcache, Consult.ok_bind,
      hcheck, Consult.ofExcept, List.append_nil]

/-- In every case something is decided. -/
theorem exists_decision (spec : Specification) (domain : String) (tier : Tier) (rules : Rules)
    (resolver : Resolver) : ∃ outcome, Decision spec domain tier rules resolver outcome := by
  classical
  cases hrequired : rules.required tier with
  | none => exact ⟨_, .unconfiguredTier hrequired⟩
  | some required =>
    by_cases hmissing : ∃ header ∈ required, header ∉ spec.headers
    · exact ⟨_, .missingColumns hrequired hmissing⟩
    · push Not at hmissing
      have hheaders : spec.HasRequired tier rules := ⟨required, hrequired, hmissing⟩
      by_cases hnone : spec.sourceTables = []
      · exact ⟨_, .noSourceTables hheaders hnone⟩
      · rcases @resolved_or_failure domain tier resolver spec.sourceTables with
          ⟨schemas, hcache⟩ | ⟨before, table, after, e, htables, hbefore, hfails⟩
        · by_cases hvalid : ∀ c, spec.Reads c → ¬ resolver.Lacks domain tier c
          · exact ⟨_, .valid hheaders hnone hcache hvalid⟩
          · push Not at hvalid
            obtain ⟨c, hread, hlacks⟩ := hvalid
            have hlist := listsInvalid_invalidColumns hcache
            have hne : spec.invalidColumns schemas ≠ [] :=
              List.ne_nil_of_mem ((hlist.mem_iff c).mpr ⟨hread, hlacks⟩)
            exact ⟨_, .invalidSourceColumns hheaders (answers_of_cache hcache) hlist hne⟩
        · exact ⟨_, .unresolved hheaders htables hbefore hfails⟩

/-- The source tables are those that rows name, in the order in which they are first named, and
validation has the outcome that the list of decisions gives. -/
theorem validate_eq_iff_decision (spec : Specification) (domain : String) (tier : Tier)
    (rules : Rules) (resolver : Resolver) :
    InFirstOrder spec.tablesRead spec.sourceTables ∧
      ∀ outcome, validate spec domain tier rules resolver = outcome ↔
        Decision spec domain tier rules resolver outcome := by
  refine ⟨spec.inFirstOrder_sourceTables, fun outcome => ⟨?_, validate_of_decision⟩⟩
  rintro rfl
  obtain ⟨outcome, hdecision⟩ := exists_decision spec domain tier rules resolver
  rwa [validate_of_decision hdecision]

end Deciding

/-! ## Columns that schemas have and lack -/

namespace UnknownColumns

/-- Two tables in turn.  From `B` two columns are read, one of them twice in two spellings, and
from `A` two others. -/
def spec : Specification :=
  .ofTable ⟨Header.all,
    [[.text "B", .text "size", .text "T", .text "V"],
      [.text "A", .text "id", .text "T", .text "W"],
      [.text "B", .text "colour", .text "T", .text "X"],
      [.text "A", .text "price", .text "T", .text "Y"],
      [.text "B", .text " size\u200B", .text "U", .text "Z"]]⟩

/-- Both tables have the same columns. -/
def schema (columns : List String) (table : String) : SourceSchema :=
  ⟨"sales", table, [], columns.map (⟨·, "int"⟩)⟩

def resolver (columns : List String) : Resolver :=
  fun _ _ table => .ofExcept (.ok (schema columns table))

def calls : List Call := [.resolve "sales" .bronze "B", .resolve "sales" .bronze "A"]

/-- What is reported if the tables have the column `id` alone. -/
def reported : Consult Validated :=
  ⟨calls, .error (.invalidSourceColumns [⟨"B", "size"⟩, ⟨"B", "colour"⟩, ⟨"A", "price"⟩])⟩

/-- All columns that are read. -/
def columns : List String := ["id", "price", "size", "colour"]

/-- What is answered if the tables have all of them. -/
def answered : Consult Validated :=
  ⟨calls, .ok ⟨spec, [("B", schema columns "B"), ("A", schema columns "A")]⟩⟩

end UnknownColumns

open UnknownColumns in
/-- Three columns are reported in the order in which they are read; with all of them in the
schemas the specification is answered unchanged. -/
theorem validate_eq_iff_decision_unknownColumns :
    (validate spec "sales" .bronze .default (resolver ["id"]) = reported ∧
        Decision spec "sales" .bronze .default (resolver ["id"]) reported) ∧
      validate spec "sales" .bronze .default (resolver columns) = answered ∧
        Decision spec "sales" .bronze .default (resolver columns) answered := by
  have hreported : validate spec "sales" .bronze .default (resolver ["id"]) = reported := by
    with_unfolding_all rfl
  have hanswered : validate spec "sales" .bronze .default (resolver columns) = answered := by
    with_unfolding_all rfl
  have hdecides (columns : List String) (outcome : Consult Validated) :=
    (validate_eq_iff_decision spec "sales" .bronze .default (resolver columns)).2 outcome
  exact ⟨⟨hreported, (hdecides _ _).mp hreported⟩, hanswered, (hdecides _ _).mp hanswered⟩

end Medallion
