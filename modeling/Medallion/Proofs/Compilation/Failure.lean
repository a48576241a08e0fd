import Medallion.Proofs.Compilation.Compile
import Medallion.Proofs.Store.Saving
import Mathlib.Data.Prod.Basic

/-!
# What a failed run leaves behind

A run that fails while it compiles has written nothing.  A run that fails while it writes
has saved the artifacts in front of the one that could not be saved, and these stay.  So a
failed run keeps the files below the root of the store if and only if all that it wrote
there had been there before (`failed_run_keeps_files_iff`).

A name with a slash in it is enough to break this: `run_leaves_file`.
-/

namespace Medallion

open CompiledArtifacts

/-- The files below a location are the same before and after: none is missing, none is new,
and none has other bytes. -/
def FileTree.KeepsFilesBelow (root : Location) (tree tree' : FileTree) : Prop :=
  ∀ at_, root.Below at_ → tree'.fileAt at_ = tree.fileAt at_

theorem FileTree.Changes.keepsFilesBelow_iff {places : Location → Prop}
    {writes : List (Path × Content)} {tree tree' : FileTree} {root : Location}
    (hchanges : FileTree.Changes places writes tree tree') :
    FileTree.KeepsFilesBelow root tree tree' ↔
      ∀ at_, root.Below at_ → ∀ content, tree.lastWrite writes at_ = some content →
        tree.fileAt at_ = some content := by
  unfold KeepsFilesBelow
  constructor
  · intro hkeeps at_ hbelow content hlast
    rw [← hkeeps at_ hbelow, hchanges.file, hlast, Option.some_or]
  · intro hsame at_ hbelow
    rw [hchanges.file]
    cases hlast : tree.lastWrite writes at_ with
    | none => rw [Option.none_or]
    | some content => rw [Option.some_or, hsame at_ hbelow content hlast]

section Runs

variable {c : Compiler} {store : Store} {spec : Specification} {domain : String} {tier : Tier}
  {tree tree' : FileTree} {a : CompiledArtifacts}

/-- A failed run has failed before it wrote anything, or at one of its artifacts.  In the
second case the artifacts in front of that one are saved, and the files below the root are
kept if and only if each of these has only put there what was there before. -/
theorem failed_run_keeps_files_iff {e : MapError}
    (hrun : c.run store spec domain tier tree = (.error e, tree')) :
    ((c.compile spec domain tier).answer = .error e ∧ tree' = tree) ∨
      ∃ a done name json rest mid,
        (c.compile spec domain tier).answer = .ok a ∧
        a.entries = done ++ (name, json) :: rest ∧
        saveAll store domain tier done tree = (.ok (done.map (·.1)), mid) ∧
        store.save domain tier name json mid = (.error e, tree') ∧
        (FileTree.KeepsFilesBelow (tree.place store.root) tree tree' ↔
          ∀ at_, (tree.place store.root).Below at_ → ∀ content,
            tree.lastWrite (store.writes domain tier done) at_ = some content →
              tree.fileAt at_ = some content) := by
  cases hcompile : (c.compile spec domain tier).answer with
  | error e' =>
    rw [run_of_compile_error hcompile] at hrun
    cases hrun
    exact .inl ⟨rfl, rfl⟩
  | ok a =>
    rw [run_of_compile hcompile] at hrun
    obtain ⟨done, name, json, rest, mid, hentries, hsaved, hdone, hfails⟩ :=
      saveAll_eq_error hrun
    have hchanges := saveAll_changes store domain tier a.entries tree
    rw [hrun, hsaved] at hchanges
    exact .inr ⟨a, done, name, json, rest, mid, rfl, hentries, hdone, hfails,
      hchanges.keepsFilesBelow_iff⟩

end Runs

/-! ## A run that leaves a file behind -/

namespace SlashInName

/-- The target table has a slash in its name, which file names cannot have. -/
def spec : Specification :=
  .ofTable ⟨Header.all, [[.text "A", .text "id", .text "U/V", .text "X"]]⟩

def store : Store := ⟨⟨"config"⟩⟩

def before : FileTree := .empty "work"

def after : Saved (List String) := TwoSources.compiler.run store spec "sales" .bronze before

def error : MapError :=
  .write ⟨"config/domains/sales/bronze/landing-zone_schema_U/V.json"⟩
    "no such file or directory"

theorem after_eq : after = (.error error, after.2) := by
  have hfails : after.1 = .error error := by decide +kernel
  exact Prod.fst_eq_iff.mp hfails

end SlashInName

theorem failed_run_keeps_files_iff_slashInName :
    ((TwoSources.compiler.compile SlashInName.spec "sales" .bronze).answer =
        .error SlashInName.error ∧ SlashInName.after.2 = SlashInName.before) ∨
      ∃ a done name json rest mid,
        (TwoSources.compiler.compile SlashInName.spec "sales" .bronze).answer = .ok a ∧
        a.entries = done ++ (name, json) :: rest ∧
        saveAll SlashInName.store "sales" .bronze done SlashInName.before =
          (.ok (done.map (·.1)), mid) ∧
        SlashInName.store.save "sales" .bronze name json mid =
          (.error SlashInName.error, SlashInName.after.2) ∧
        (FileTree.KeepsFilesBelow (SlashInName.before.place SlashInName.store.root)
            SlashInName.before SlashInName.after.2 ↔
          ∀ at_, (SlashInName.before.place SlashInName.store.root).Below at_ → ∀ content,
            SlashInName.before.lastWrite (SlashInName.store.writes "sales" .bronze done) at_ =
                some content →
              SlashInName.before.fileAt at_ = some content) :=
  failed_run_keeps_files_iff SlashInName.after_eq

/-- The run fails at its second file, and its first one stays. -/
theorem run_leaves_file :
    SlashInName.after = (.error SlashInName.error, SlashInName.after.2) ∧
      ¬ FileTree.KeepsFilesBelow (SlashInName.before.place SlashInName.store.root)
        SlashInName.before SlashInName.after.2 := by
  refine ⟨SlashInName.after_eq, fun hkeeps => ?_⟩
  have hplace : SlashInName.before.place SlashInName.store.root = ["work", "config"] := by
    decide +kernel
  rw [hplace] at hkeeps
  have hfile := hkeeps
    ["work", "config", "domains", "sales", "bronze", "bronze_target_tables_sales.json"]
    ⟨by decide, by decide⟩
  have hnone : SlashInName.before.fileAt
      ["work", "config", "domains", "sales", "bronze", "bronze_target_tables_sales.json"] =
        none := by
    decide +kernel
  have hsome : (SlashInName.after.2.fileAt
      ["work", "config", "domains", "sales", "bronze",
        "bronze_target_tables_sales.json"]).isSome = true := by
    decide +kernel
  rw [hfile, hnone] at hsome
  exact absurd hsome (by decide)

end Medallion
