import Medallion.Compilation
import Medallion.Proofs.File.Joining

/-!
# Names of artifact files

Every artifact file is named by a tier, the kind of the artifact, and the name of a domain
or a table.  That name is free text and may itself look like parts of a file name, yet all
three can be read off the file name (`fileName_inj`): no tier's name starts like another
one's, and the marks of the kinds already differ in the first letter behind the tier.

An echoed schema has the name of a schema of the tier that it comes from.  So a run, whose
tier is fed by another one, never gives one name to files of two kinds or for two tables
(`HasFileName.unique`).  Together with the paths of the store this is what keeps files apart
(`files_told_apart`).

The name is plain as long as the name of the domain or table has no slash and no null
character in it (`isPlain_fileName`): the tier in front of it keeps it from being one of the
names for directories.
-/

namespace Medallion

/-- The kinds of artifacts, as far as file names tell them apart. -/
inductive ArtifactKind where
  | targetTables
  | schema
  | linkage
  | mapping
  deriving DecidableEq, Repr

/-- What stands between the names of the tier and of the table. -/
def ArtifactKind.mark : ArtifactKind → String
  | targetTables => "_target_tables_"
  | schema => "_schema_"
  | linkage => "_pipeline_"
  | mapping => "_map_"

/-- The name of an artifact's file. -/
def ArtifactKind.fileName (kind : ArtifactKind) (tier : Tier) (name : String) : String :=
  tier.name ++ kind.mark ++ name ++ ".json"

namespace ArtifactKind

theorem targetTables_fileName (list : TargetTables) (domain : String) :
    list.fileName domain = targetTables.fileName list.tier domain := rfl

theorem schema_fileName (tier : Tier) (table : String) :
    schemaFileName tier table = schema.fileName tier table := rfl

theorem linkage_fileName (l : Linkage) :
    l.fileName = linkage.fileName l.targetTier l.targetTable := rfl

theorem mapping_fileName (set : MappingSet) :
    set.fileName = mapping.fileName set.target set.tableName := rfl

/-- A tier and what follows its name can be told from the text. -/
theorem tier_append_inj {t t' : Tier} {cs cs' : List Char}
    (h : t.name.toList ++ cs = t'.name.toList ++ cs') : t = t' ∧ cs = cs' := by
  have htier : t = t' := by
    cases t <;> cases t' <;> first | rfl | simp [Tier.name] at h
  subst htier
  exact ⟨rfl, List.append_cancel_left h⟩

/-- A kind and what follows its mark can be told from the text. -/
theorem mark_append_inj {k k' : ArtifactKind} {cs cs' : List Char}
    (h : k.mark.toList ++ cs = k'.mark.toList ++ cs') : k = k' ∧ cs = cs' := by
  have hkind : k = k' := by
    cases k <;> cases k' <;> first | rfl | simp [mark] at h
  subst hkind
  exact ⟨rfl, List.append_cancel_left h⟩

/-- The name of a file tells its tier, its kind and its table. -/
theorem fileName_inj {k k' : ArtifactKind} {t t' : Tier} {name name' : String} :
    k.fileName t name = k'.fileName t' name' ↔ k = k' ∧ t = t' ∧ name = name' := by
  constructor
  · intro h
    have hlist : t.name.toList ++ (k.mark.toList ++ name.toList) =
        t'.name.toList ++ (k'.mark.toList ++ name'.toList) := by
      have := congrArg String.toList h
      simpa [fileName, ← List.append_assoc] using this
    obtain ⟨htier, hrest⟩ := tier_append_inj hlist
    obtain ⟨hkind, hname⟩ := mark_append_inj hrest
    exact ⟨hkind, htier, String.toList_inj.mp hname⟩
  · rintro ⟨rfl, rfl, rfl⟩
    rfl

/-- Neither the tier, nor the mark, nor the extension has a slash or a null character. -/
theorem mem_fileName {c : Char} (hc : c = '/' ∨ c = '\x00') (k : ArtifactKind) (t : Tier)
    (name : String) : c ∈ (k.fileName t name).toList ↔ c ∈ name.toList := by
  have htier : c ∉ t.name.toList := by
    rcases hc with rfl | rfl <;> cases t <;> decide
  have hmark : c ∉ k.mark.toList := by
    rcases hc with rfl | rfl <;> cases k <;> decide
  have hextension : c ∉ ".json".toList := by
    rcases hc with rfl | rfl <;> decide
  rw [fileName, String.toList_append, String.toList_append, String.toList_append,
    List.mem_append, List.mem_append, List.mem_append]
  simp only [htier, hmark, hextension, false_or, or_false]

theorem isPlain_fileName (k : ArtifactKind) (t : Tier) {name : String}
    (hslash : '/' ∉ name.toList) (hnull : '\x00' ∉ name.toList) :
    Path.IsPlain (k.fileName t name) where
  ne_empty h := by cases t <;> simp [fileName, Tier.name, ← String.toList_inj] at h
  ne_here h := by cases t <;> simp [fileName, Tier.name, ← String.toList_inj] at h
  ne_up h := by cases t <;> simp [fileName, Tier.name, ← String.toList_inj] at h
  no_slash := by rwa [mem_fileName (.inl rfl)]
  no_null := by rwa [mem_fileName (.inr rfl)]

end ArtifactKind

/-! ## The files of a run -/

/-- The kinds of files that a run writes.  The schema of a source table that is echoed is told
from the schema of a target table. -/
inductive FileKind where
  | targetTables
  | sourceEcho
  | targetSchema
  | linkage
  | mapping
  deriving DecidableEq, Repr

namespace FileKind

/-- The kind of the artifact in a file. -/
def artifactKind : FileKind → ArtifactKind
  | targetTables => .targetTables
  | sourceEcho | targetSchema => .schema
  | linkage => .linkage
  | mapping => .mapping

/-- The tier that a file is named for. -/
def namedTier (tier feeder : Tier) : FileKind → Tier
  | sourceEcho => feeder
  | _ => tier

end FileKind

/-- Whether a file of a run, of some kind and with the name of a domain or a table, has a file
name.  All files have the tier of the run but for the echoes, which have the tier that feeds
it. -/
inductive HasFileName (tier feeder : Tier) : FileKind → String → String → Prop where
  | targetTables (list : TargetTables) (domain : String) (htier : list.tier = tier) :
      HasFileName tier feeder .targetTables domain (list.fileName domain)
  | sourceEcho (table : String) :
      HasFileName tier feeder .sourceEcho table (schemaFileName feeder table)
  | targetSchema (schema : TargetSchema) :
      HasFileName tier feeder .targetSchema schema.tableName (schema.fileName tier)
  | linkage (l : Linkage) (htier : l.targetTier = tier) :
      HasFileName tier feeder .linkage l.targetTable l.fileName
  | mapping (set : MappingSet) (htier : set.target = tier) :
      HasFileName tier feeder .mapping set.tableName set.fileName

namespace HasFileName

variable {tier feeder : Tier} {kind kind' : FileKind} {name name' file : String}

theorem eq_fileName (h : HasFileName tier feeder kind name file) :
    file = kind.artifactKind.fileName (kind.namedTier tier feeder) name := by
  cases h with
  | targetTables list domain htier =>
    subst htier
    exact ArtifactKind.targetTables_fileName list name
  | sourceEcho table => exact ArtifactKind.schema_fileName feeder name
  | targetSchema schema => exact ArtifactKind.schema_fileName tier schema.tableName
  | linkage l htier =>
    subst htier
    exact ArtifactKind.linkage_fileName l
  | mapping set htier =>
    subst htier
    exact ArtifactKind.mapping_fileName set

/-- The kind and the name can be told from the file name.  Only an echo and the schema of a
target table have the same kind of artifact, and they have different tiers. -/
theorem unique (hfeeder : feeder ≠ tier) (h : HasFileName tier feeder kind name file)
    (h' : HasFileName tier feeder kind' name' file) : kind = kind' ∧ name = name' := by
  have hsame := h.eq_fileName.symm.trans h'.eq_fileName
  rw [ArtifactKind.fileName_inj] at hsame
  obtain ⟨hkind, htier, hname⟩ := hsame
  refine ⟨?_, hname⟩
  cases kind <;> cases kind' <;>
    simp [FileKind.artifactKind, FileKind.namedTier, hfeeder, Ne.symm hfeeder] at hkind htier ⊢

end HasFileName

/-- The files of a run are told apart by their names, whatever the domain and the tables are
called: the same name means the same kind and the same table.  Below one root, domains, tiers
and files with names of one component are told apart by their paths, also by the steps alone. -/
theorem files_told_apart {tier feeder : Tier} (hfeeder : feeder ≠ tier) (store : Store) :
    (∀ kind kind' name name' file, HasFileName tier feeder kind name file →
        HasFileName tier feeder kind' name' file → kind = kind' ∧ name = name') ∧
      ∀ (domain domain' file file' : String) (t t' : Tier), Path.IsComponent domain →
        Path.IsComponent file → Path.IsComponent domain' → Path.IsComponent file' →
        (store.artifactPath domain t file = store.artifactPath domain' t' file' ↔
          domain = domain' ∧ t = t' ∧ file = file') ∧
        ((store.artifactPath domain t file).steps = (store.artifactPath domain' t' file').steps ↔
          domain = domain' ∧ t = t' ∧ file = file') := by
  constructor
  · intro kind kind' name name' file h h'
    exact h.unique hfeeder h'
  · intro domain domain' file file' t t' hdomain hfile hdomain' hfile'
    have hsteps : (store.artifactPath domain t file).steps =
        (store.artifactPath domain' t' file').steps ↔ domain = domain' ∧ t = t' ∧ file = file' :=
      Store.steps_artifactPath_inj hdomain hfile hdomain' hfile'
    refine ⟨?_, hsteps⟩
    constructor
    · intro hpath
      exact hsteps.mp (congrArg Path.steps hpath)
    · rintro ⟨rfl, rfl, rfl⟩
      rfl

/-! ## Names that mislead -/

namespace MisleadingNames

/-- The name of this table reads like the end of file names of two kinds. -/
def table : String := "T_schema_U_map_V.json"

def set : MappingSet := ⟨"sales", table, .landingZone, .bronze, []⟩

def keyedSet : MappingSet := ⟨"sales", table, .landingZone, .bronze, [⟨"X", .string, .empty⟩]⟩

def file : String := "bronze_map_T_schema_U_map_V.json.json"

def store : Store := ⟨⟨"out/"⟩⟩

theorem hasFileName : HasFileName .bronze .landingZone .mapping table file := .mapping set rfl

theorem hasFileName_keyed : HasFileName .bronze .landingZone .mapping table file :=
  .mapping keyedSet rfl

theorem isComponent_file : Path.IsComponent file :=
  ⟨by decide, by decide, by decide, by decide⟩

theorem isComponent_domain : Path.IsComponent "sales" :=
  ⟨by decide, by decide, by decide, by decide⟩

end MisleadingNames

/-- Two mapping sets of one table, and a domain with the name of a file. -/
theorem files_told_apart_misleadingNames :
    Tier.landingZone ≠ .bronze ∧
      (FileKind.mapping = .mapping ∧ MisleadingNames.table = MisleadingNames.table) ∧
      MisleadingNames.store.artifactPath "sales" .bronze MisleadingNames.file ≠
        MisleadingNames.store.artifactPath MisleadingNames.file .bronze "sales" := by
  have hfeeder : Tier.landingZone ≠ .bronze := by decide
  obtain ⟨hnames, hpaths⟩ := files_told_apart hfeeder MisleadingNames.store
  refine ⟨hfeeder, ?_, ?_⟩
  · exact hnames _ _ _ _ _ MisleadingNames.hasFileName MisleadingNames.hasFileName_keyed
  · intro hpath
    have hsame := (hpaths _ _ _ _ _ _ MisleadingNames.isComponent_domain
      MisleadingNames.isComponent_file MisleadingNames.isComponent_file
      MisleadingNames.isComponent_domain).1.mp hpath
    exact absurd hsame.1 (by decide)

end Medallion
