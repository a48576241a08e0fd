import Medallion.Proofs.Names
import Medallion.Rules
import Mathlib.Data.List.Forall2

/-!
# Spellings of type names

A type name may have blanks around it, letters in any case, and behind it a suffix that starts
with a parenthesis.  `TypeSpelling.Spells` says so on the characters of a text, and a key of a type
map is in the form that is looked up (`TypeSpelling.IsKey`).

Looking a text up undoes its spelling in three steps: the suffix goes (`takeWhile_suffix`), the
blanks go (`trimChars_recased`), and the case goes (`map_toLower_recased`).  So every spelling of
a key has the type of the key, and a text without a key in it is a string
(`Rules.mapType_of_spelling`).

Only keys of ASCII are spelled in any case here.  Lower-casing beyond ASCII can turn one
character into two, and depends on the characters around.
-/

namespace Medallion

open Text

/-! ## Letters of ASCII -/

section Ascii

variable {c : Char}

theorem of_ascii {P : Char → Prop} (h : ∀ n < 128, P (Char.ofNat n)) (hc : c.toNat < 128) :
    P c := by
  have hchar := h c.toNat hc
  rwa [Char.ofNat_toNat] at hchar

theorem toNat_toUpper_lt (hc : c.toNat < 128) : c.toUpper.toNat < 128 :=
  of_ascii (P := fun c => c.toUpper.toNat < 128) (by decide +kernel) hc

theorem toLower_toUpper (hc : c.toNat < 128) : c.toUpper.toLower = c.toLower :=
  of_ascii (P := fun c => c.toUpper.toLower = c.toLower) (by decide +kernel) hc

theorem toLower_of_not_isUpper (hc : c.toNat < 128) (hupper : c.isUpper = false) :
    c.toLower = c :=
  of_ascii (P := fun c => c.isUpper = false → c.toLower = c) (by decide +kernel) hc hupper

theorem isBlank_toLower (c : Char) : isBlank c.toLower = isBlank c := by
  by_cases hc : c.toNat < 128
  · exact of_ascii (P := fun c => isBlank c.toLower = isBlank c) (by decide +kernel) hc
  · have hsame : c.toLower = c := by
      unfold Char.toLower
      apply dif_neg
      rintro ⟨-, hle⟩
      have hle : c.toNat ≤ 'Z'.toNat := hle
      exact hc (Nat.lt_of_le_of_lt hle (by decide))
    rw [hsame]

theorem trimChars_map_toLower (cs : List Char) :
    trimChars (cs.map Char.toLower) = (trimChars cs).map Char.toLower := by
  have hblank : isBlank ∘ Char.toLower = isBlank := funext isBlank_toLower
  simp only [trimChars, List.dropWhile_map, hblank, ← List.map_reverse]

/-- In ASCII each character has its lower case on its own. -/
theorem lowerFrom_of_ascii {cs : List Char} (hcs : ∀ c ∈ cs, c.toNat < 128) (before : List Char) :
    lowerFrom before cs = cs.map Char.toLower := by
  induction cs generalizing before with
  | nil => rfl
  | cons c cs ih =>
    obtain ⟨hc, hcs⟩ := List.forall_mem_cons.mp hcs
    have hsigma : c ≠ 'Σ' := by
      rintro rfl
      revert hc
      decide
    have hdotted : c ≠ 'İ' := by
      rintro rfl
      revert hc
      decide
    rw [lowerFrom, ih hcs, lowerBetween, if_neg hsigma, if_neg hdotted, simpleLower, if_pos hc]
    rfl

end Ascii

/-! ## Spellings -/

namespace TypeSpelling

/-- Whether a name has the form of a key in a type map. -/
structure IsKey (key : String) : Prop where
  ascii : ∀ c ∈ key.toList, c.toNat < 128
  lower : ∀ c ∈ key.toList, c.isUpper = false
  trimmed : trim key = key
  noSuffix : '(' ∉ key.toList

/-- Whether some characters are others with any letters in upper case. -/
def Recased (cs cs' : List Char) : Prop :=
  List.Forall₂ (fun c c' => c' = c ∨ c' = c.toUpper) cs cs'

/-- Whether some characters may stand behind a type name: there are none, or the first one is a
parenthesis. -/
def IsSuffix (cs : List Char) : Prop := cs = [] ∨ ∃ rest, cs = '(' :: rest

/-- Whether a text is a spelling of a key. -/
def Spells (key text : String) : Prop :=
  ∃ front letters back suffix, text.toList = front ++ letters ++ back ++ suffix ∧
    (∀ c ∈ front, isBlank c = true) ∧ Recased key.toList letters ∧
    (∀ c ∈ back, isBlank c = true) ∧ IsSuffix suffix

/-- The name goes up to the first parenthesis. -/
theorem takeWhile_suffix {name suffix : List Char} (hname : '(' ∉ name)
    (hsuffix : IsSuffix suffix) : (name ++ suffix).takeWhile (· ≠ '(') = name := by
  have hnone : suffix.takeWhile (· ≠ '(') = [] := by
    rcases hsuffix with rfl | ⟨rest, rfl⟩
    · rfl
    · simp
  rw [List.takeWhile_append_of_pos, hnone, List.append_nil]
  intro c hc
  have hne : c ≠ '(' := by
    rintro rfl
    exact hname hc
  simpa using hne

theorem baseType_of_suffix {name suffix : List Char} {text : String}
    (htext : text.toList = name ++ suffix) (hname : '(' ∉ name) (hsuffix : IsSuffix suffix) :
    Rules.baseType text = Text.lower (trim (String.ofList name)) := by
  rw [Rules.baseType, htext, takeWhile_suffix hname hsuffix]

section Recased

variable {key : String} {letters : List Char}

theorem ascii_recased {cs cs' : List Char} (h : Recased cs cs') (hcs : ∀ c ∈ cs, c.toNat < 128) :
    ∀ c ∈ cs', c.toNat < 128 := by
  induction h with
  | nil => exact hcs
  | cons hcase _ ih =>
    obtain ⟨hc, hcs⟩ := List.forall_mem_cons.mp hcs
    refine List.forall_mem_cons.mpr ⟨?_, ih hcs⟩
    rcases hcase with rfl | rfl
    · exact hc
    · exact toNat_toUpper_lt hc

/-- Lower-casing turns a spelling back into the key. -/
theorem map_toLower_recased {cs cs' : List Char} (h : Recased cs cs')
    (hcs : ∀ c ∈ cs, c.toNat < 128) (hlower : ∀ c ∈ cs, c.isUpper = false) :
    cs'.map Char.toLower = cs := by
  induction h with
  | nil => rfl
  | cons hcase _ ih =>
    obtain ⟨hc, hcs⟩ := List.forall_mem_cons.mp hcs
    obtain ⟨hupper, hlower⟩ := List.forall_mem_cons.mp hlower
    rw [List.map_cons, ih hcs hlower]
    rcases hcase with rfl | rfl
    · rw [toLower_of_not_isUpper hc hupper]
    · rw [toLower_toUpper hc, toLower_of_not_isUpper hc hupper]

/-- A spelling has no blank at its ends, since its key has none. -/
theorem trimChars_recased (hkey : IsKey key) (hletters : Recased key.toList letters) :
    trimChars letters = letters := by
  have hlower := map_toLower_recased hletters hkey.ascii hkey.lower
  have htrimmed : (trimChars letters).map Char.toLower = letters.map Char.toLower := by
    rw [← trimChars_map_toLower, hlower, ← String.toList_ofList (l := trimChars key.toList)]
    exact congrArg String.toList hkey.trimmed
  apply (Name.trimChars_sublist letters).eq_of_length
  simpa using congrArg List.length htrimmed

theorem not_mem_recased (hkey : IsKey key) (hletters : Recased key.toList letters) :
    '(' ∉ letters := by
  intro hmem
  have hlower := List.mem_map_of_mem (f := Char.toLower) hmem
  rw [map_toLower_recased hletters hkey.ascii hkey.lower] at hlower
  exact hkey.noSuffix hlower

theorem baseType_of_spells {text : String} (hkey : IsKey key) (hspells : Spells key text) :
    Rules.baseType text = key := by
  obtain ⟨front, letters, back, suffix, htext, hfront, hletters, hback, hsuffix⟩ := hspells
  have hblank {cs : List Char} (hcs : ∀ c ∈ cs, isBlank c = true) : '(' ∉ cs := by
    intro hmem
    exact absurd (hcs _ hmem) (by decide)
  have hname : '(' ∉ front ++ letters ++ back := by
    simp only [List.mem_append, not_or]
    exact ⟨⟨hblank hfront, not_mem_recased hkey hletters⟩, hblank hback⟩
  rw [baseType_of_suffix htext hname hsuffix, trim, String.toList_ofList,
    trimChars_padded hfront hback, trimChars_recased hkey hletters, Text.lower,
    String.toList_ofList, lowerFrom_of_ascii (ascii_recased hletters hkey.ascii),
    map_toLower_recased hletters hkey.ascii hkey.lower, String.ofList_toList]

end Recased

/-- The type names that are known unless the settings say otherwise can be spelled in these
ways. -/
theorem isKey_of_default : ∀ entry ∈ Rules.defaultTypeMap, IsKey entry.1 := by
  have hkeys : ∀ entry ∈ Rules.defaultTypeMap,
      entry.1.toList.all (fun c => decide (c.toNat < 128) && !c.isUpper && c != '(') = true ∧
        trim entry.1 = entry.1 := by
    decide +kernel
  intro entry hentry
  obtain ⟨hletters, htrimmed⟩ := hkeys entry hentry
  simp only [List.all_eq_true, Bool.and_eq_true, decide_eq_true_eq, Bool.not_eq_true', bne_iff_ne]
    at hletters
  exact ⟨fun c hc => (hletters c hc).1.1, fun c hc => (hletters c hc).1.2, htrimmed,
    fun hc => (hletters _ hc).2 rfl⟩

end TypeSpelling

open TypeSpelling in
/-- Every spelling of a key has the type of the key.  A text is a string if what stands in front
of its first parenthesis, trimmed and in lower case, is no key. -/
theorem Rules.mapType_of_spelling (rules : Rules) :
    (∀ key type text, IsKey key → rules.typeMap.lookup key = some type → Spells key text →
        rules.mapType text = type) ∧
      ∀ name suffix : List Char, '(' ∉ name → IsSuffix suffix →
        (∀ type, (Text.lower (trim (String.ofList name)), type) ∉ rules.typeMap) →
          rules.mapType (String.ofList (name ++ suffix)) = .string := by
  constructor
  · intro key type text hkey htype hspells
    rw [mapType, baseType_of_spells hkey hspells, htype]
    rfl
  · intro name suffix hname hsuffix hunknown
    have hnone : rules.typeMap.lookup (Text.lower (trim (String.ofList name))) = none := by
      rw [List.lookup_eq_none_iff]
      rintro ⟨key, type⟩ hmem
      rw [bne_iff_ne]
      rintro rfl
      exact hunknown type hmem
    rw [mapType, baseType_of_suffix String.toList_ofList hname hsuffix, hnone]
    rfl

namespace PaddedNames

/-- The suffix is not closed, and a parenthesis is opened in it. -/
theorem spells : TypeSpelling.Spells "decimal" "\u2003DeciMAL\t (18,(2 " := by
  refine ⟨['\u2003'], "DeciMAL".toList, ['\t', ' '], "(18,(2 ".toList, by decide +kernel,
    List.all_eq_true.mp (by decide), ?_, List.all_eq_true.mp (by decide), .inr ⟨_, rfl⟩⟩
  exact .cons (.inr rfl) (.cons (.inl rfl) (.cons (.inl rfl) (.cons (.inl rfl)
    (.cons (.inr rfl) (.cons (.inr rfl) (.cons (.inr rfl) .nil))))))

theorem unknown : ∀ type, (Text.lower (trim " Geography"), type) ∉ Rules.defaultTypeMap := by
  intro type hmem
  have hkey : Text.lower (trim " Geography") ∈ Rules.defaultTypeMap.map (·.1) :=
    List.mem_map_of_mem hmem
  revert hkey
  decide +kernel

end PaddedNames

open PaddedNames TypeSpelling in
theorem mapType_of_spelling_padded :
    IsKey "decimal" ∧ Rules.default.typeMap.lookup "decimal" = some .double ∧
      Spells "decimal" "\u2003DeciMAL\t (18,(2 " ∧
      Rules.default.mapType "\u2003DeciMAL\t (18,(2 " = .double ∧
      (∀ type, (Text.lower (trim " Geography"), type) ∉ Rules.default.typeMap) ∧
      Rules.default.mapType " Geography(int)" = .string := by
  have hkey : IsKey "decimal" := isKey_of_default ("decimal", .double) (by decide)
  have hlookup : Rules.default.typeMap.lookup "decimal" = some .double := by decide +kernel
  obtain ⟨hknown, hstring⟩ := Rules.mapType_of_spelling .default
  refine ⟨hkey, hlookup, spells, hknown _ _ _ hkey hlookup spells, unknown, ?_⟩
  exact hstring " Geography".toList "(int)".toList (by decide) (.inr ⟨_, rfl⟩) unknown

end Medallion
