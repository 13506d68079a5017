import WarehouseMigration.Proofs.Sequence.Keyed
import WarehouseMigration.Transpile.Config

/-!
# Settings of a stored configuration

A configuration that an earlier version stored is brought up to date by `migrateSecond`, after `migrateFirst` if it is
of the first version.  A setting is found in the result if the one entry that it was stored in gets the setting's name
(`survives_upgrade`).  That is so for every setting except for two: the error log gets a new place, and the output
folder gets a name that no setting has.
-/

namespace WarehouseMigration.Transpile.Config

/-- The names that settings had in earlier versions, each with the present one. -/
def formerNames : List (String × String) := [("input_sql", "input_source"), ("source", "source_dialect")]

/-- A configuration as earlier versions stored it: it has a mode, and no setting under both of its names. -/
structure Stored (raw : List (String × Value)) : Prop where
  nodup : (raw.map Prod.fst).Nodup
  mode : raw.lookup "mode" ≠ none
  once : ∀ names ∈ formerNames, raw.lookup names.1 = none ∨ raw.lookup names.2 = none

/-- A key is a name of a setting, the present one or a former one. -/
def IsNameOf (key setting : String) : Prop := key = setting ∨ (key, setting) ∈ formerNames

/-- Whatever is stored for a setting is found under the setting's present name after the upgrade. -/
def Survives (raw upgraded : List (String × Value)) (setting : String) : Prop :=
  ∀ key value, IsNameOf key setting → raw.lookup key = some value → upgraded.lookup setting = some value

variable {raw : List (String × Value)} {key other setting : String}

/-! ### Names -/

private theorem setting_ne : ∀ setting ∈ settings, setting ≠ "version" ∧ setting ≠ "mode" := by
  decide

private theorem former_ne :
    ∀ names ∈ formerNames, names.1 ≠ "version" ∧ names.1 ≠ "mode" ∧ names.1 ≠ "error_file_path" := by
  decide

private theorem former_unique :
    ∀ names ∈ formerNames, ∀ others ∈ formerNames, names.2 = others.2 → names.1 = others.1 := by
  decide

private theorem renamed_former : ∀ names ∈ formerNames, renamed names.1 = names.2 := by
  decide

private theorem renames_settings : ∀ names ∈ renames,
    (names.1 ∈ settings → names.1 = "output_folder") ∧ (names.2 ∈ settings → names ∈ formerNames) := by
  decide

private theorem renamed_mem_or_eq (key : String) : (key, renamed key) ∈ renames ∨ renamed key = key := by
  cases hnew : renames.lookup key with
  | none => exact .inr (by rw [renamed, hnew, Option.getD_none])
  | some new =>
    have hmem : (key, new) ∈ renames := (Sequence.mem_iff_lookup (by decide)).2 hnew
    rw [renamed, hnew]
    exact .inl hmem

private theorem IsNameOf.ne_version (hsetting : setting ∈ settings) (h : IsNameOf key setting) : key ≠ "version" := by
  rcases h with rfl | h
  · exact (setting_ne key hsetting).1
  · exact (former_ne _ h).1

private theorem IsNameOf.ne_mode (hsetting : setting ∈ settings) (h : IsNameOf key setting) : key ≠ "mode" := by
  rcases h with rfl | h
  · exact (setting_ne key hsetting).2
  · exact (former_ne _ h).2.1

private theorem IsNameOf.ne_error (herror : setting ≠ "error_file_path") (h : IsNameOf key setting) :
    key ≠ "error_file_path" := by
  rcases h with rfl | h
  · exact herror
  · exact (former_ne _ h).2.2

private theorem Stored.name_unique (h : Stored raw) (hkey : IsNameOf key setting) (hother : IsNameOf other setting)
    (hfound : raw.lookup key ≠ none) (hfound' : raw.lookup other ≠ none) : key = other := by
  rcases hkey with rfl | hkey
  · rcases hother with rfl | hother
    · rfl
    · rcases h.once _ hother with hnone | hnone
      · exact absurd hnone hfound'
      · exact absurd hnone hfound
  · rcases hother with rfl | hother
    · rcases h.once _ hkey with hnone | hnone
      · exact absurd hnone hfound
      · exact absurd hnone hfound'
    · exact former_unique _ hkey _ hother rfl

private theorem renamed_eq_iff (hsetting : setting ∈ settings) (houtput : setting ≠ "output_folder") :
    renamed key = setting ↔ IsNameOf key setting := by
  constructor
  · rintro rfl
    rcases renamed_mem_or_eq key with hmem | heq
    · exact .inr ((renames_settings _ hmem).2 hsetting)
    · exact .inl heq.symm
  · rintro (rfl | hformer)
    · rcases renamed_mem_or_eq key with hmem | heq
      · exact absurd ((renames_settings _ hmem).1 hsetting) houtput
      · exact heq
    · exact renamed_former _ hformer

private theorem renamed_ne_output_folder (key : String) : renamed key ≠ "output_folder" := by
  intro h
  rcases renamed_mem_or_eq key with hmem | heq
  · have hvalues : ∀ names ∈ renames, names.2 ≠ "output_folder" := by decide
    exact hvalues _ hmem h
  · obtain rfl := heq.symm.trans h
    exact absurd h (by decide)

private theorem renamed_eq_output_path_iff (hkey : key ≠ "output_path") :
    renamed key = "output_path" ↔ key = "output_folder" := by
  constructor
  · intro h
    rcases renamed_mem_or_eq key with hmem | heq
    · have hvalues : ∀ names ∈ renames, names.2 = "output_path" → names.1 = "output_folder" := by decide
      exact hvalues _ hmem h
    · exact absurd (heq.symm.trans h) hkey
  · rintro rfl
    rfl

/-! ### The first step -/

private theorem lookup_migrateFirst (hkey : key ≠ "version") : (migrateFirst raw).lookup key = raw.lookup key := by
  rw [migrateFirst, Sequence.lookup_put, if_neg fun h => hkey (eq_of_beq h)]

theorem Stored.migrateFirst (h : Stored raw) : Stored (migrateFirst raw) where
  nodup := Sequence.nodup_put h.nodup
  mode := by
    rw [lookup_migrateFirst (by decide)]
    exact h.mode
  once names hnames := by
    have hpresent : ∀ names ∈ formerNames, names.2 ≠ "version" := by decide
    rw [lookup_migrateFirst (former_ne names hnames).1, lookup_migrateFirst (hpresent names hnames)]
    exact h.once names hnames

/-! ### The second step -/

private theorem lookup_refresh (herror : key ≠ "error_file_path") (hversion : key ≠ "version") (hmode : key ≠ "mode") :
    (refresh raw).lookup key = raw.lookup key := by
  have hkeep : (key != "mode") = true := bne_iff_ne.2 hmode
  rw [refresh, Sequence.lookup_put, if_neg fun h => herror (eq_of_beq h), Sequence.lookup_put,
    if_neg fun h => hversion (eq_of_beq h), Sequence.lookup_filter_key (· != "mode"), if_pos hkeep]

private theorem nodup_refresh (h : Stored raw) : ((refresh raw).map Prod.fst).Nodup :=
  Sequence.nodup_put (Sequence.nodup_put (h.nodup.sublist (List.filter_sublist.map Prod.fst)))

private theorem lookup_refresh_ne_none {e : String × Value} (he : e ∈ refresh raw) : (refresh raw).lookup e.1 ≠ none :=
  Option.isSome_iff_ne_none.1 (Sequence.isSome_lookup_iff.2 (List.mem_map_of_mem he))

private theorem migrateSecond_eq (h : Stored raw) : migrateSecond raw = .ok (upgrade raw) := by
  have hmode : ¬ (raw.lookup "mode").isNone = true := fun hnone => h.mode (Option.isNone_iff_eq_none.1 hnone)
  rw [migrateSecond, if_neg hmode]
  rfl

theorem survives_upgrade (h : Stored raw) (hsetting : setting ∈ settings) (herror : setting ≠ "error_file_path")
    (houtput : setting ≠ "output_folder") : Survives raw (upgrade raw) setting := by
  intro key value hkey hvalue
  have hrefresh : ∀ {other}, IsNameOf other setting → (refresh raw).lookup other = raw.lookup other := fun hother =>
    lookup_refresh (hother.ne_error herror) (hother.ne_version hsetting) (hother.ne_mode hsetting)
  have hfound : raw.lookup key ≠ none := by
    rw [hvalue]
    nofun
  have hsingle : ∀ e ∈ refresh raw, renamed e.1 = setting ↔ e.1 = key := by
    intro e he
    rw [renamed_eq_iff hsetting houtput]
    constructor
    · intro hname
      have hthere := lookup_refresh_ne_none he
      rw [hrefresh hname] at hthere
      exact h.name_unique hname hkey hthere hfound
    · rintro rfl
      exact hkey
  rw [upgrade, Sequence.lookup_lastOf_map_key (nodup_refresh h) hsingle, hrefresh hkey, hvalue]

private theorem lookup_upgrade_output_folder (raw : List (String × Value)) :
    (upgrade raw).lookup "output_folder" = none := by
  have hnone : (((refresh raw).map fun e => (renamed e.1, e.2)).filter fun e => "output_folder" == e.1) = [] := by
    rw [List.filter_eq_nil_iff]
    intro e he heq
    obtain ⟨former, -, rfl⟩ := List.mem_map.1 he
    exact renamed_ne_output_folder former.1 (eq_of_beq heq).symm
  rw [upgrade, Sequence.lookup_lastOf, hnone]
  rfl

private theorem lookup_upgrade_output_path (h : Stored raw) (hnone : raw.lookup "output_path" = none) :
    (upgrade raw).lookup "output_path" = raw.lookup "output_folder" := by
  have hsingle : ∀ e ∈ refresh raw, renamed e.1 = "output_path" ↔ e.1 = "output_folder" := by
    intro e he
    refine renamed_eq_output_path_iff fun hkey => lookup_refresh_ne_none he ?_
    rw [hkey, lookup_refresh (by decide) (by decide) (by decide), hnone]
  rw [upgrade, Sequence.lookup_lastOf_map_key (nodup_refresh h) hsingle,
    lookup_refresh (by decide) (by decide) (by decide)]

/-- The upgrade of a stored configuration keeps all settings but the place of the error log exactly if no output folder
was stored.  All others are kept in any case, and a stored output folder is found under another name only. -/
theorem upgrade_keeps_settings_iff (h : Stored raw) :
    ∀ start, start = raw ∨ start = migrateFirst raw → ∃ upgraded, migrateSecond start = .ok upgraded ∧
      ((∀ setting ∈ settings, setting ≠ "error_file_path" → Survives raw upgraded setting) ↔
        raw.lookup "output_folder" = none) ∧
      (∀ setting ∈ settings, setting ≠ "error_file_path" → setting ≠ "output_folder" →
        Survives raw upgraded setting) ∧
      upgraded.lookup "output_folder" = none ∧
      (raw.lookup "output_path" = none → upgraded.lookup "output_path" = raw.lookup "output_folder") := by
  intro start hstart
  have hstored : Stored start := by
    rcases hstart with rfl | rfl
    · exact h
    · exact h.migrateFirst
  have hlookup : ∀ key, key ≠ "version" → start.lookup key = raw.lookup key := by
    intro key hkey
    rcases hstart with rfl | rfl
    · rfl
    · exact lookup_migrateFirst hkey
  have hsurvives : ∀ setting ∈ settings, setting ≠ "error_file_path" → setting ≠ "output_folder" →
      Survives raw (upgrade start) setting := by
    intro setting hsetting herror houtput key value hkey hvalue
    refine survives_upgrade hstored hsetting herror houtput key value hkey ?_
    rw [hlookup key (hkey.ne_version hsetting), hvalue]
  refine ⟨upgrade start, migrateSecond_eq hstored, ⟨?_, ?_⟩, hsurvives, lookup_upgrade_output_folder start, ?_⟩
  · intro hall
    have hfolder := hall "output_folder" (by decide) (by decide) "output_folder"
    rw [lookup_upgrade_output_folder] at hfolder
    exact Option.eq_none_iff_forall_ne_some.2 fun value hvalue => nomatch hfolder value (.inl rfl) hvalue
  · intro hnone setting hsetting herror
    by_cases houtput : setting = "output_folder"
    · rintro key value (rfl | hformer) hvalue
      · rw [houtput, hnone] at hvalue
        exact nomatch hvalue
      · have hnever : ∀ names ∈ formerNames, names.2 ≠ "output_folder" := by decide
        exact absurd houtput (hnever _ hformer)
    · exact hsurvives setting hsetting herror houtput
  · intro hnone
    rw [← hlookup "output_folder" (by decide)]
    exact lookup_upgrade_output_path hstored (by rw [hlookup "output_path" (by decide), hnone])

def early : List (String × Value) :=
  [("mode", .text "folder"), ("source", .text "tsql"), ("input_sql", .text "queries"), ("catalog_name", .text "sales")]

theorem upgrade_keeps_settings_early :
    Stored early ∧ ∃ upgraded, migrateSecond early = .ok upgraded ∧
      ∀ setting ∈ settings, setting ≠ "error_file_path" → Survives early upgraded setting := by
  have h : Stored early := ⟨by decide, by decide, by decide⟩
  obtain ⟨upgraded, hrun, hkept, -⟩ := upgrade_keeps_settings_iff h early (.inl rfl)
  exact ⟨h, upgraded, hrun, hkept.2 rfl⟩

theorem upgrade_loses_output_folder :
    Stored (("output_folder", .text "out") :: early) ∧
      ¬ ∃ upgraded, migrateSecond (("output_folder", .text "out") :: early) = .ok upgraded ∧
        ∀ setting ∈ settings, setting ≠ "error_file_path" →
          Survives (("output_folder", .text "out") :: early) upgraded setting := by
  have h : Stored (("output_folder", .text "out") :: early) := ⟨by decide, by decide, by decide⟩
  refine ⟨h, ?_⟩
  rintro ⟨upgraded, hrun, hkept⟩
  rw [migrateSecond_eq h] at hrun
  cases hrun
  have hfound := hkept "output_folder" (by decide) (by decide) "output_folder" (.text "out") (.inl rfl) rfl
  rw [lookup_upgrade_output_folder] at hfound
  cases hfound

end WarehouseMigration.Transpile.Config
