import Medallion.Proofs.Artifact.Generators
import Medallion.Proofs.Compilation.FileNames
import Medallion.Proofs.Compilation.Isolation

/-!
# What the linkages contain

The linkages of a job come about in one pass over its rows: a row that has both tables adds a
linkage, unless its pair of tables has been met before.  `Linkage.Pass` is what such a pass has
gathered, `Linkage.Pass.Describes` says what it is after some rows, and a step keeps that
(`Linkage.Pass.Describes.step`).

So there is one linkage for each pair of tables that stand in a row together, in the order of
the first such rows, and for each target table one for each of its source tables
(`Linkage.linkages_of_rows`).  Nothing is assumed about the rows.
-/

namespace Medallion

namespace Linkage

/-! ## One pass over the rows -/

/-- What a pass over some rows has gathered: the pairs of tables that have been met, and the
linkages. -/
structure Pass where
  seen : List (String × String)
  linkages : List Linkage

namespace Pass

/-- A pass that has met no row. -/
def start : Pass := ⟨[], []⟩

variable (link : String × String → Linkage)

/-- Goes on to a row. -/
def step (pass : Pass) (row : MappingRow) : Pass :=
  match row.sourceTable, row.targetTable with
  | some source, some target =>
    if (source, target) ∈ pass.seen then pass
    else ⟨(source, target) :: pass.seen, pass.linkages ++ [link (source, target)]⟩
  | _, _ => pass

/-- Whether a pass has gathered what stands in some rows. -/
structure Describes (rows : List MappingRow) (pass : Pass) : Prop where
  mem_seen : ∀ pair, pair ∈ pass.seen ↔ pair ∈ rows.filterMap pair?
  linkages : pass.linkages = (pairs rows).map link

variable {link} {rows : List MappingRow} {pass : Pass}

theorem Describes.step (h : Describes link rows pass) (row : MappingRow) :
    Describes link (rows ++ [row]) (pass.step link row) := by
  have hlacks (hpair : pair? row = none) : Describes link (rows ++ [row]) pass := by
    have hsame : (rows ++ [row]).filterMap pair? = rows.filterMap pair? := by
      simp [List.filterMap_append, hpair]
    refine ⟨?_, ?_⟩
    · rw [hsame]
      exact h.mem_seen
    · rw [pairs, hsame]
      exact h.linkages
  unfold Pass.step
  cases hsource : row.sourceTable with
  | none => exact hlacks (by simp [pair?, hsource])
  | some source =>
    cases htarget : row.targetTable with
    | none => exact hlacks (by simp [pair?, hsource, htarget])
    | some target =>
      have hmore : (rows ++ [row]).filterMap pair? =
          rows.filterMap pair? ++ [(source, target)] := by
        simp [List.filterMap_append, pair?, hsource, htarget]
      dsimp only
      by_cases hseen : (source, target) ∈ pass.seen
      · have hmet := (h.mem_seen _).mp hseen
        rw [if_pos hseen]
        refine ⟨fun pair => ?_, ?_⟩
        · rw [hmore, List.mem_append, List.mem_singleton, h.mem_seen]
          exact (or_iff_left_of_imp fun hpair => hpair ▸ hmet).symm
        · rw [pairs, hmore, eraseDups_concat_of_mem hmet]
          exact h.linkages
      · have hnew := mt (h.mem_seen _).mpr hseen
        rw [if_neg hseen]
        refine ⟨fun pair => ?_, ?_⟩
        · rw [hmore, List.mem_append, List.mem_singleton, List.mem_cons, h.mem_seen, or_comm]
        · rw [pairs, hmore, eraseDups_concat_of_not_mem hnew, List.map_append, ← pairs,
            ← h.linkages, List.map_singleton]

theorem describes_foldl (rows : List MappingRow) :
    Describes link rows (rows.foldl (Pass.step link) start) := by
  induction rows using List.reverseRecOn with
  | nil => exact ⟨fun pair => Iff.rfl, rfl⟩
  | append_singleton rows row ih =>
    rw [List.foldl_append]
    exact ih.step row

end Pass

/-! ## Linkages and rows -/

/-- The tables of a linkage. -/
def tables (l : Linkage) : String × String := (l.sourceTable, l.targetTable)

/-- The linkage of a pair of tables in a job that is fed by a tier. -/
def ofPair (job : Job) (tablePath : String) (feeder : Tier) (pair : String × String) : Linkage :=
  ⟨feeder, tablePath, pair.1, job.tier, tablePath, pair.2⟩

/-- The linkages of a job are those that a pass over its rows gathers. -/
theorem ofJob_eq_foldl {job : Job} {tablePath : String} {feeder : Tier}
    (hfeeder : job.rules.feeder job.tier = some feeder) :
    ofJob job tablePath =
      .ok (job.spec.rows.foldl (Pass.step (ofPair job tablePath feeder)) .start).linkages := by
  rw [(Pass.describes_foldl job.spec.rows).linkages]
  exact ofJob_eq_ok.mpr ⟨feeder, hfeeder, rfl⟩

theorem inFirstOrder_pairs (rows : List MappingRow) :
    InFirstOrder (rows.filterMap pair?) (pairs rows) :=
  inFirstOrder_eraseDups _

theorem count_pairs (rows : List MappingRow) (source target : String) :
    (pairs rows).count (source, target) =
      if ∃ row ∈ rows, row.sourceTable = some source ∧ row.targetTable = some target then 1
      else 0 := by
  split
  · rename_i hrow
    exact List.count_eq_one_of_mem (inFirstOrder_pairs rows).nodup (mem_pairs.mpr hrow)
  · rename_i hrow
    exact List.count_eq_zero_of_not_mem (mt mem_pairs.mp hrow)

/-- The pairs of the rows of a target table have the source tables of these rows. -/
theorem pairs_rowsOfTarget (spec : Specification) (target : String) :
    (pairs (spec.rowsOfTarget target)).map (·.1) =
      ((spec.rowsOfTarget target).filterMap (·.sourceTable)).eraseDups := by
  have hpairs : (spec.rowsOfTarget target).filterMap pair? =
      ((spec.rowsOfTarget target).filterMap (·.sourceTable)).map fun source => (source, target) := by
    rw [List.map_filterMap]
    apply List.filterMap_congr
    intro row hrow
    have htarget := (Specification.mem_rowsOfTarget.mp hrow).2
    unfold pair?
    rw [htarget]
    cases row.sourceTable <;> rfl
  rw [pairs, hpairs, eraseDups_map (fun _ _ h => (Prod.mk.inj h).1), List.map_map]
  exact List.map_id _

/-- A job that is fed by a tier has one linkage for each pair of tables that stand in a row
together, in the order of the first such rows.  It leads from the tier that feeds to the tier of
the job, with the same path on both sides.  So a target table is linked to its source tables,
each once, in the order of their first rows. -/
theorem linkages_of_rows (job : Job) (tablePath : String) {feeder : Tier}
    (hfeeder : job.rules.feeder job.tier = some feeder) :
    ∃ linkages, ofJob job tablePath = .ok linkages ∧
      linkages =
        (job.spec.rows.foldl (Pass.step (ofPair job tablePath feeder)) .start).linkages ∧
      InFirstOrder (job.spec.rows.filterMap pair?) (linkages.map tables) ∧
      (∀ source target, (linkages.map tables).count (source, target) =
        if ∃ row ∈ job.spec.rows, row.sourceTable = some source ∧ row.targetTable = some target
        then 1 else 0) ∧
      (∀ l ∈ linkages, l.sourceTier = feeder ∧ l.targetTier = job.tier ∧
        l.sourcePath = tablePath ∧ l.targetPath = tablePath) ∧
      ∀ target, InFirstOrder ((job.spec.rowsOfTarget target).filterMap (·.sourceTable))
        ((linkages.filter fun l => l.targetTable == target).map (·.sourceTable)) := by
  have hpass : Pass.Describes (ofPair job tablePath feeder) job.spec.rows _ :=
    Pass.describes_foldl job.spec.rows
  have htables : ((pairs job.spec.rows).map (ofPair job tablePath feeder)).map tables =
      pairs job.spec.rows := by
    rw [List.map_map]
    exact List.map_id _
  refine ⟨_, ofJob_eq_foldl hfeeder, rfl, ?_⟩
  rw [hpass.linkages, htables]
  refine ⟨inFirstOrder_pairs _, count_pairs _, ?_, fun target => ?_⟩
  · intro l hl
    obtain ⟨pair, -, rfl⟩ := List.mem_map.mp hl
    exact ⟨rfl, rfl, rfl, rfl⟩
  · have hsources : (((pairs job.spec.rows).map (ofPair job tablePath feeder)).filter
        fun l => l.targetTable == target).map (·.sourceTable) =
        (pairs (job.spec.rowsOfTarget target)).map (·.1) := by
      rw [List.filter_map, List.map_map, ← filter_pairs]
      rfl
    rw [hsources, pairs_rowsOfTarget]
    exact inFirstOrder_eraseDups _

end Linkage

namespace LinkedTables

/-- One source feeds both targets and one target has two sources; a pair stands twice, and two
rows lack a table. -/
def table : Table :=
  ⟨["Source Table Name", "Target Table Name"],
    [[.text "ORDERS", .text "Facts"], [.empty, .text "Dates"], [.text "ITEMS", .text "Facts"],
      [.text "ORDERS ", .text "Facts"], [.text "NOTES"], [.text "ORDERS", .text "Dates"]]⟩

def job : Job := ⟨"sales", .silver, .default, .ofTable table, []⟩

theorem pairs_eq : Linkage.pairs job.spec.rows =
    [("ORDERS", "Facts"), ("ITEMS", "Facts"), ("ORDERS", "Dates")] := by
  decide +kernel

theorem sources_eq : ((job.spec.rowsOfTarget "Facts").filterMap (·.sourceTable)).eraseDups =
    ["ORDERS", "ITEMS"] := by
  decide +kernel

end LinkedTables

open LinkedTables in
theorem linkages_of_rows_manyToMany :
    job.rules.feeder job.tier = some .bronze ∧
      ∃ linkages, Linkage.ofJob job "cura" = .ok linkages ∧
        linkages.map Linkage.tables =
          [("ORDERS", "Facts"), ("ITEMS", "Facts"), ("ORDERS", "Dates")] ∧
        (linkages.filter fun l => l.targetTable == "Facts").map (·.sourceTable) =
          ["ORDERS", "ITEMS"] ∧
        ∀ l ∈ linkages, l.sourceTier = .bronze ∧ l.targetTier = .silver ∧
          l.sourcePath = "cura" ∧ l.targetPath = "cura" := by
  have hfeeder : job.rules.feeder job.tier = some .bronze := rfl
  obtain ⟨linkages, hof, -, horder, -, hends, htarget⟩ :=
    Linkage.linkages_of_rows job "cura" hfeeder
  refine ⟨hfeeder, linkages, hof, ?_, ?_, hends⟩
  · rw [horder.unique (inFirstOrder_eraseDups _)]
    exact pairs_eq
  · rw [(htarget "Facts").unique (inFirstOrder_eraseDups _)]
    exact sources_eq

end Medallion
