import IconCompiler.CommandLine.Program
import IconCompiler.Proofs.Disk.Changes
import IconCompiler.Proofs.Results
import IconCompiler.Proofs.Toml.Document
import IconCompiler.Proofs.Toml.Statement
import Mathlib.Data.List.Forall2

/-! # Settings and their documents

    The document that is printed for settings gives back these settings
    (`parse?_render`): fields that are absent stay absent, and a project without
    targets keeps none. -/

namespace IconCompiler

open Toml

/-! ## Fields -/

/-- The values that pairs of texts stand for. -/
def textValues (pairs : List (String × String)) : List (String × Value) :=
  pairs.map fun pair => (pair.1, .string pair.2)

theorem Defaults.ofValue?_toPairs (defaults : Defaults) :
    ofValue? (.table (textValues defaults.toPairs)) = some defaults := by
  obtain ⟨root, extension, iconType, supportOutput⟩ := defaults
  cases supportOutput <;> rfl

theorem Target.ofValue?_toPairs (target : Target) :
    ofValue? (.table (textValues target.toPairs)) = some target := by
  obtain ⟨name, modulePath, pattern, output, manifest⟩ := target
  cases modulePath <;> cases pattern <;> cases manifest <;> rfl

/-- The keys of a printed table can stand for themselves, and they are distinct. -/
structure FitKeys (pairs : List (String × String)) : Prop where
  bare : ∀ pair ∈ pairs, IsBare pair.1
  nodup : (pairs.map Prod.fst).Nodup

theorem FitKeys.of_sublist {pairs : List (String × String)} {keys : List String}
    (h : List.Sublist (pairs.map Prod.fst) keys) (hbare : ∀ key ∈ keys, IsBare key)
    (hkeys : keys.Nodup) : FitKeys pairs where
  bare pair hpair := hbare pair.1 (h.subset (List.mem_map_of_mem hpair))
  nodup := hkeys.sublist h

theorem sublist_optionalPair (key : String) (text : Option String) :
    List.Sublist ((optionalPair key text).map Prod.fst) [key] := by
  cases text with
  | none => exact List.nil_sublist _
  | some text => exact List.Sublist.refl _

theorem Defaults.fitKeys (defaults : Defaults) : FitKeys defaults.toPairs := by
  refine .of_sublist ?_ (by decide)
    (by decide : ["root", "extension", "icon_type", "support_output"].Nodup)
  rw [toPairs, List.map_append]
  exact (List.Sublist.refl _).append (sublist_optionalPair ..)

theorem Target.fitKeys (target : Target) : FitKeys target.toPairs := by
  refine .of_sublist ?_ (by decide)
    (by decide : ["name", "namespace", "pattern", "output", "manifest"].Nodup)
  simp only [toPairs, List.map_append]
  exact ((((List.Sublist.refl _).append (sublist_optionalPair ..)).append
    (sublist_optionalPair ..)).append (List.Sublist.refl _)).append (sublist_optionalPair ..)

namespace Settings

/-! ## Statements -/

/-- What the document of settings says, part by part. -/
def said (settings : Settings) : List (List Statement) :=
  (if settings.targets.isEmpty then [[.pair ⟨[], "targets"⟩ (.array [])]] else [])
    ++ [.table ⟨[], "defaults"⟩ :: assignments (textValues settings.defaults.toPairs)]
    ++ settings.targets.map fun target =>
      .element ⟨[], "targets"⟩ :: assignments (textValues target.toPairs)

theorem reads_table {header : String} {statement : Statement} {pairs : List (String × String)}
    (hheader : Reads (header.toList ++ ['\n']) [statement]) (hpairs : FitKeys pairs) :
    Reads (printTable header pairs) (statement :: assignments (textValues pairs)) := by
  have hlines := Reads.printTable hheader hpairs.bare
  rw [assignments, textValues, List.map_map]
  exact hlines

theorem reads_parts (settings : Settings) :
    List.Forall₂ Reads settings.parts settings.said := by
  have hdefaults : Reads ("[defaults]".toList ++ ['\n']) [.table ⟨[], "defaults"⟩] :=
    Reads.table (by decide : IsBare "defaults")
  have htargets : Reads ("[[targets]]".toList ++ ['\n']) [.element ⟨[], "targets"⟩] :=
    Reads.element (by decide : IsBare "targets")
  rw [parts, said]
  refine List.rel_append (List.rel_append ?_ ?_) ?_
  · split
    · exact .cons (Reads.nothing (by decide : IsBare "targets")) .nil
    · exact .nil
  · exact .cons (reads_table hdefaults settings.defaults.fitKeys) .nil
  · rw [List.forall₂_map_left_iff, List.forall₂_map_right_iff, List.forall₂_same]
    exact fun target _ => reads_table htargets target.fitKeys

theorem readStatements?_parts (settings : Settings) (count : Nat) :
    readStatements? (['\n'].intercalate settings.parts ++ List.replicate count '\n')
      = some settings.said.flatten := by
  have hreads := (Reads.intercalate settings.reads_parts).append (Reads.newlines count) []
  rw [List.append_nil, List.append_nil] at hreads
  rw [hreads, readStatements?, dif_pos rfl, Option.map_some, List.append_nil]

/-! ## The table -/

/-- The value of targets. -/
def targetsValue (targets : List Target) : Value :=
  .array (targets.map fun target => .table (textValues target.toPairs))

theorem nodup_textValues {pairs : List (String × String)} (h : FitKeys pairs) :
    ((textValues pairs).map Prod.fst).Nodup := by
  rw [textValues, List.map_map]
  exact h.nodup

/-- Without targets the empty array in front gives none. -/
theorem tableOfStatements?_alone {pairs : List (String × String)} (h : FitKeys pairs) :
    tableOfStatements? (.pair ⟨[], "targets"⟩ (.array [])
        :: .table ⟨[], "defaults"⟩ :: assignments (textValues pairs))
      = some (.table [("targets", .array []), ("defaults", .table (textValues pairs))]) := by
  have hfront : Draft.add? {} (.pair ⟨[], "targets"⟩ (.array []))
      = some ⟨[("targets", .value (.array []))], []⟩ := rfl
  have hlookup : [("targets", Item.value (.array []))].lookup "defaults" = none := rfl
  refine (tableOfStatements?_eq (foldlM_add?_cons hfront
    (foldlM_add?_table hlookup (nodup_textValues h)))).trans ?_
  show some (Value.table [("targets", .array []),
    ("defaults", .table (Item.toValues (items (textValues pairs))))]) = _
  rw [toValues_items]

/-- With targets the document has a table for each of them. -/
theorem tableOfStatements?_several {pairs : List (String × String)} (h : FitKeys pairs)
    {tables : List (List (String × Value))} (hne : tables ≠ [])
    (htables : ∀ table ∈ tables, (table.map Prod.fst).Nodup) :
    tableOfStatements? (.table ⟨[], "defaults"⟩ :: assignments (textValues pairs)
        ++ tables.flatMap fun table => .element ⟨[], "targets"⟩ :: assignments table)
      = some (.table [("defaults", .table (textValues pairs)),
        ("targets", .array (tables.map .table))]) := by
  have hempty : ([] : Entries).lookup "defaults" = none := rfl
  have hlookup : ([("defaults", Item.table .declared (items (textValues pairs)))]).lookup "targets"
      = none := rfl
  obtain ⟨last, hlast⟩ := foldlM_add?_elements hlookup ["defaults"] [] htables
  have hlisted : (tables.map items).reverse ++ [] ≠ [] := by simpa using hne
  refine (tableOfStatements?_eq (foldlM_add?_append
    (foldlM_add?_table hempty (nodup_textValues h)) hlast)).trans ?_
  rw [under, if_neg hlisted]
  show some (Value.table [("defaults", .table (Item.toValues (items (textValues pairs)))),
    ("targets", .array (Item.toTables ((tables.map items).reverse ++ [])).reverse)]) = _
  rw [toValues_items, List.append_nil, ← List.map_reverse, toTables_items, List.map_reverse,
    List.reverse_reverse]

/-- Read as a table, the document has the defaults and the targets as they are. -/
theorem tableOfStatements?_said (settings : Settings) :
    ∃ entries, tableOfStatements? settings.said.flatten = some (.table entries)
      ∧ entries.lookup "defaults" = some (.table (textValues settings.defaults.toPairs))
      ∧ entries.lookup "targets" = some (targetsValue settings.targets) := by
  have hdefaults := settings.defaults.fitKeys
  by_cases hnone : settings.targets = []
  · have hsaid : settings.said.flatten = .pair ⟨[], "targets"⟩ (.array [])
        :: .table ⟨[], "defaults"⟩ :: assignments (textValues settings.defaults.toPairs) := by
      simp [said, hnone]
    rw [hsaid, hnone]
    exact ⟨_, tableOfStatements?_alone hdefaults, rfl, rfl⟩
  · have hsaid : settings.said.flatten
        = .table ⟨[], "defaults"⟩ :: assignments (textValues settings.defaults.toPairs)
          ++ (settings.targets.map fun target => textValues target.toPairs).flatMap
            fun table => .element ⟨[], "targets"⟩ :: assignments table := by
      simp [said, hnone, List.flatMap_def, Function.comp_def]
    have htables : ∀ table ∈ settings.targets.map fun target => textValues target.toPairs,
        (table.map Prod.fst).Nodup := by
      intro table htable
      obtain ⟨target, -, rfl⟩ := List.mem_map.mp htable
      exact nodup_textValues target.fitKeys
    rw [hsaid]
    refine ⟨_, tableOfStatements?_several hdefaults (by simpa using hnone) htables, rfl, ?_⟩
    rw [List.map_map]
    rfl

/-! ## Documents -/

theorem ofValue?_table {settings : Settings} {entries : List (String × Value)}
    (hdefaults : entries.lookup "defaults" = some (.table (textValues settings.defaults.toPairs)))
    (htargets : entries.lookup "targets" = some (targetsValue settings.targets)) :
    ofValue? (.table entries) = some settings := by
  have hlisted : targetsOfValue? (targetsValue settings.targets) = some settings.targets :=
    mapM_map_eq_some Target.ofValue?_toPairs settings.targets
  have hfields : Value.fields? ["defaults", "targets"] (.table entries)
      = some [some (.table (textValues settings.defaults.toPairs)),
        some (targetsValue settings.targets)] := by
    rw [Value.fields?, List.map_cons, List.map_cons, hdefaults, htargets]
    rfl
  rw [ofValue?, hfields]
  simp only [Option.bind_eq_bind, Option.bind_some, Option.map_some, Option.getD_some,
    Defaults.ofValue?_toPairs, hlisted]
  rfl

theorem exists_parts_eq_cons (settings : Settings) :
    ∃ c tail, ['\n'].intercalate settings.parts = c :: tail ∧ isByteOrderMark c = false := by
  rw [parts]
  cases settings.targets with
  | nil => exact ⟨'t', _, rfl, rfl⟩
  | cons target rest => exact ⟨'[', _, rfl, rfl⟩

/-- The document of settings gives the same settings, also with empty lines behind it. -/
theorem parse?_render (settings : Settings) (count : Nat) :
    parse? (settings.render ++ String.ofList (List.replicate count '\n')) = some settings := by
  obtain ⟨entries, htable, hdefaults, htargets⟩ := settings.tableOfStatements?_said
  obtain ⟨c, tail, hcons, hmark⟩ := settings.exists_parts_eq_cons
  have hread := settings.readStatements?_parts count
  have htext : (settings.render ++ String.ofList (List.replicate count '\n')).toList
      = c :: (tail ++ List.replicate count '\n') := by
    rw [String.toList_append, render, String.toList_ofList, String.toList_ofList, hcons,
      List.cons_append]
  rw [hcons, List.cons_append] at hread
  have hparsed : Toml.parse? (settings.render ++ String.ofList (List.replicate count '\n'))
      = some (.table entries) := by
    rw [Toml.parse?, htext]
    dsimp only
    rw [hmark, if_neg Bool.false_ne_true, hread]
    exact htable
  rw [parse?, hparsed]
  exact ofValue?_table hdefaults htargets

/-! ## Files -/

theorem loadFile_eq_ok {workspace : Workspace} {path text : String} {settings : Settings}
    (hread : workspace.readText path = .ok text) (hparse : parse? text = some settings) :
    loadFile workspace path = .ok settings := by
  rw [loadFile, hread]
  dsimp only
  rw [hparse]

theorem write_of_create {workspace final : Workspace} {directory path : String}
    (h : create workspace directory = (.ok path, final)) :
    ∃ next : Workspace, workspace.makeDirectories directory = (.ok (), next)
      ∧ next.write path starter.render.toUTF8 = .ok final := by
  rw [create] at h
  split at h
  · cases (Prod.mk.inj h).1
  split at h
  · cases (Prod.mk.inj h).1
  · next next hmake =>
      split at h
      · cases (Prod.mk.inj h).1
      · next hwrite =>
          obtain ⟨hpath, rfl⟩ := Prod.mk.inj h
          exact ⟨next, hmake, Except.ok.inj hpath ▸ hwrite⟩

/-- Whatever the settings are, their document gives them back, and so does a file
    that holds it or what the program prints when it is to show them.  A project
    that was just created has the settings of its document. -/
theorem render_loads_back (settings : Settings) :
    parse? settings.render = some settings
      ∧ (∀ (workspace : Workspace) (path : String),
        workspace.readText path = .ok settings.render → loadFile workspace path = .ok settings)
      ∧ (∀ (workspace : Workspace) (file : Option String),
        CommandLine.resolveSettings workspace file = .ok settings →
          ∃ text, CommandLine.run workspace ⟨.showSettings, file⟩ = (.printed text, workspace)
            ∧ ∀ (other : Workspace) (path : String), other.readText path = .ok text →
              loadFile other path = .ok settings)
      ∧ ∀ (workspace final : Workspace) (directory path : String),
        create workspace directory = (.ok path, final) →
          ∃ next : Workspace, next.write path starter.render.toUTF8 = .ok final
            ∧ (workspace.IsPlain → loadFile final path = .ok starter) := by
  have hparse (own : Settings) : parse? own.render = some own := by
    have hnone := own.parse?_render 0
    rwa [List.replicate_zero, String.ofList_nil, String.append_empty] at hnone
  refine ⟨hparse settings, fun workspace path hread => loadFile_eq_ok hread (hparse settings),
    ?_, ?_⟩
  · intro workspace file hsettings
    refine ⟨settings.render ++ "\n", ?_, ?_⟩
    · show CommandLine.withSettings workspace file _ = _
      rw [CommandLine.withSettings, hsettings]
    · intro other path hread
      exact loadFile_eq_ok hread (settings.parse?_render 1)
  · intro workspace final directory path hcreate
    obtain ⟨next, hmake, hwrite⟩ := write_of_create hcreate
    refine ⟨next, hwrite, fun h => ?_⟩
    have hplain := (Workspace.grows_of_makeDirectories h hmake).plain
    exact loadFile_eq_ok (Workspace.readText_of_write hplain hwrite) (hparse starter)

/-- Settings without targets, whose root has quotes of both kinds, a backslash and
    line breaks, are shown as a text that gives them back; so does their document
    in a file, and a new project has the settings it starts with. -/
theorem render_loads_back_quoted :
    ∃ (settings : Settings) (workspace : Workspace) (text : String) (final : Workspace),
      settings = { defaults := { root := "\"'\\\n\r\"\"\"", supportOutput := some "" } }
        ∧ workspace = .ofDisk (Disk.put .empty ["iconforge.toml"] (.file settings.render.toUTF8)) []
        ∧ loadFile workspace "iconforge.toml" = .ok settings
        ∧ CommandLine.run workspace ⟨.showSettings, some "iconforge.toml"⟩
          = (.printed text, workspace)
        ∧ loadFile (.ofDisk (Disk.put .empty ["shown.toml"] (.file text.toUTF8)) []) "shown.toml"
          = .ok settings
        ∧ create (.ofDisk .empty []) "." = (.ok "./iconforge.toml", final)
        ∧ loadFile final "./iconforge.toml" = .ok starter := by
  obtain ⟨settings, hsettings⟩ : ∃ settings : Settings, settings
    = { defaults := { root := "\"'\\\n\r\"\"\"", supportOutput := some "" } } := ⟨_, rfl⟩
  obtain ⟨workspace, hworkspace⟩ : ∃ workspace : Workspace, workspace
    = .ofDisk (Disk.put .empty ["iconforge.toml"] (.file settings.render.toUTF8)) [] := ⟨_, rfl⟩
  obtain ⟨-, hload, hshow, hcreate⟩ := render_loads_back settings
  have hread : workspace.readText "iconforge.toml" = .ok settings.render := by
    rw [hworkspace]
    exact Workspace.readText_of_read rfl
  have hloaded := hload workspace "iconforge.toml" hread
  obtain ⟨text, hrun, hshown⟩ := hshow workspace (some "iconforge.toml") hloaded
  have hfresh : (create (.ofDisk .empty []) ".").1 = .ok "./iconforge.toml" := by decide +kernel
  obtain ⟨final, hfinal⟩ : ∃ final,
    create (.ofDisk .empty []) "." = (.ok "./iconforge.toml", final) := ⟨_, Prod.ext hfresh rfl⟩
  obtain ⟨-, -, hcreated⟩ := hcreate _ _ _ _ hfinal
  exact ⟨settings, workspace, text, final, hsettings, hworkspace, hloaded, hrun,
    hshown _ "shown.toml" (Workspace.readText_of_read rfl), hfinal,
    hcreated ⟨Disk.isPlain_empty, rfl⟩⟩

end Settings

end IconCompiler
