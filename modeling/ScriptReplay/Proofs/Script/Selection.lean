import ScriptReplay.Proofs.Path.Lookup
import ScriptReplay.Proofs.Replay.Directory

/-!
# The scripts of a directory

A glob finds paths in an order that the file system chooses. The files among them are loaded in the
order of their names.

* `sortByName_congr`, `loadFound_congr`: where the names differ, the order in which the paths were
  found makes no difference.
* `mem_files_default_iff`: the default glob finds the files of the directory whose names end in
  `.sql`, each once.
* `loadAll_selected`: what is loaded, in which order, and which failure is reported.
-/

namespace ScriptReplay.Script

variable {tree : FileTree} {config : Config} {directory glob : String} {pattern : Glob}
  {found files other : List Path} {path : Path} {script : Script}

/-! ## The order of names -/

section Order

theorem perm_sortByName (paths : List Path) : (sortByName paths).Perm paths :=
  List.mergeSort_perm _ _

theorem pairwise_sortByName (paths : List Path) :
    (sortByName paths).Pairwise fun a b => a.name ≤ b.name := by
  have hsorted : (sortByName paths).Pairwise fun a b => (!decide (b.name < a.name)) = true := by
    refine List.pairwise_mergeSort (fun a b c hab hbc => ?_) (fun a b => ?_) paths
    · simp only [Bool.not_eq_true', decide_eq_false_iff_not, String.not_lt] at hab hbc ⊢
      exact String.le_trans hab hbc
    · simp only [Bool.or_eq_true, Bool.not_eq_true', decide_eq_false_iff_not, String.not_lt]
      exact String.le_total _ _
  refine hsorted.imp fun h => ?_
  simpa only [Bool.not_eq_true', decide_eq_false_iff_not, String.not_lt] using h

/-- Paths with different names have one order only. -/
theorem sortByName_congr (h : other.Perm files) (hnames : (files.map Path.name).Nodup) :
    sortByName other = sortByName files := by
  have hperm : (sortByName other).Perm (sortByName files) :=
    ((perm_sortByName other).trans h).trans (perm_sortByName files).symm
  refine hperm.eq_of_pairwise ?_ (pairwise_sortByName other) (pairwise_sortByName files)
  intro a b ha hb hab hba
  have hmem : a ∈ files := (perm_sortByName files).mem_iff.1 (hperm.mem_iff.1 ha)
  have hmem' : b ∈ files := (perm_sortByName files).mem_iff.1 hb
  exact List.inj_on_of_nodup_map hnames hmem hmem' (String.le_antisymm hab hba)

end Order

/-! ## Loading what was found -/

section Found

variable [Encoding.Codecs]

/-- The scripts in the files among the paths that were found, in the order of their names. -/
def loadFound (tree : FileTree) (config : Config) (found : List Path) :
    Except Fault (List Script) := do
  (sortByName (← found.filterM (isFile tree))).mapM fun path => ofFile tree config path.toString

/-- A path leads to a script that can be loaded. -/
def Loads (tree : FileTree) (config : Config) (path : Path) : Prop :=
  ∃ script, ofFile tree config path.toString = .ok script

theorem loadFound_eq (hfiles : found.filterM (isFile tree) = .ok files) :
    loadFound tree config found =
      (sortByName files).mapM fun path => ofFile tree config path.toString := by
  unfold loadFound
  rw [hfiles]
  rfl

theorem loadAll_eq_loadFound
    (hdirectory : tree.entry? (Path.ofString directory) = .ok (some .directory))
    (hglob : Glob.ofString? glob = .ok pattern)
    (hfound : pattern.select tree (Path.ofString directory) = .ok found)
    (hfiles : found.filterM (isFile tree) = .ok files) :
    loadAll tree config directory glob = loadFound tree config found := by
  rw [loadAll_of_select (select_eq_ok hdirectory hglob hfound hfiles), loadFound_eq hfiles]

theorem loadFound_congr (hfiles : found.filterM (isFile tree) = .ok files)
    (hnames : (files.map Path.name).Nodup) (h : other.Perm found) :
    loadFound tree config other = loadFound tree config found := by
  obtain ⟨hanswers, rfl⟩ := filterM_eq_ok_iff.1 hfiles
  have hothers : other.filterM (isFile tree) =
      .ok (other.filter fun path => affirms (isFile tree path)) :=
    filterM_eq_ok_iff.2 ⟨fun path hpath => hanswers path (h.mem_iff.1 hpath), rfl⟩
  rw [loadFound_eq hfiles, loadFound_eq hothers, sortByName_congr (h.filter _) hnames]

theorem name_of_ofFile (hpath : path.Proper)
    (h : ofFile tree config path.toString = .ok script) : script.name = path.name := by
  rw [name, path_of_ofFile h, Path.ofString_toString hpath]

theorem exists_loaded (h : ∀ path ∈ files, Loads tree config path) :
    ∃ loaded : Path → Script, ∀ path ∈ files,
      ofFile tree config path.toString = .ok (loaded path) := by
  have hscript : Nonempty Script := ⟨⟨"", .generic, [], ""⟩⟩
  choose! loaded hloaded using h
  exact ⟨loaded, hloaded⟩

end Found

/-! ## The default glob -/

section Default

/-- The letters that the names of the scripts in a directory end with. -/
def extension : List Char := ".sql".toList

theorem ofString?_defaultGlob :
    Glob.ofString? defaultGlob =
      .ok ⟨[.wildcard (.anyText :: extension.map .literal)], false⟩ := by
  rfl

theorem affirms_isFile_iff :
    affirms (isFile tree path) = true ↔
      ∃ content, tree.entry? path = .ok (some (.file content)) := by
  unfold isFile
  constructor
  · intro h
    split at h
    · next content hentry => exact ⟨content, hentry⟩
    · cases h
    · cases h
  · rintro ⟨content, hentry⟩
    rw [hentry]
    rfl

/-- The default glob finds the entries of the directory whose names end in `.sql`. -/
theorem found_eq_of_default (hglob : Glob.ofString? defaultGlob = .ok pattern)
    (hfound : pattern.select tree (Path.ofString directory) = .ok found) :
    found = ((tree.names (Path.ofString directory)).filter fun name =>
        extension.isSuffixOf name.toList).map (Path.ofString directory).child ∧
      ∀ next ∈ found, ∃ entry, tree.entry? next = .ok entry := by
  obtain rfl : _ = pattern := Except.ok.inj (ofString?_defaultGlob.symm.trans hglob)
  exact Glob.eq_of_selectFrom_star hfound

variable (hdirectory : tree.entry? (Path.ofString directory) = .ok (some .directory))
  (hglob : Glob.ofString? defaultGlob = .ok pattern)
  (hfound : pattern.select tree (Path.ofString directory) = .ok found)
include hdirectory hglob hfound

theorem mem_files_default_iff (hfiles : found.filterM (isFile tree) = .ok files) :
    path ∈ files ↔ ∃ name, tree.HoldsFile (Path.ofString directory) name ∧
      extension <:+ name.toList ∧ path = (Path.ofString directory).child name := by
  obtain ⟨hfound, hentries⟩ := found_eq_of_default hglob hfound
  obtain ⟨hnul, place, hfind⟩ := FileTree.find_of_entry? hdirectory
  obtain ⟨-, rfl⟩ := filterM_eq_ok_iff.1 hfiles
  rw [List.mem_filter, affirms_isFile_iff]
  constructor
  · rintro ⟨hmem, content, hcontent⟩
    rw [hfound] at hmem
    obtain ⟨name, hname, rfl⟩ := List.mem_map.1 hmem
    obtain ⟨hname, hextension⟩ := List.mem_filter.1 hname
    have hentry := FileTree.entry?_child hfind hnul
      (FileTree.isEntryName_of_mem_names hname) hcontent
    exact ⟨name, ⟨place, content, hfind, hentry.symm⟩, List.isSuffixOf_iff_suffix.1 hextension, rfl⟩
  · rintro ⟨name, ⟨place', content, hfind', hentry⟩, hextension, rfl⟩
    have hname := FileTree.mem_names_of_entryAt hfind' hentry
    have hmem : (Path.ofString directory).child name ∈ found := by
      rw [hfound]
      exact List.mem_map_of_mem
        (List.mem_filter.2 ⟨hname, List.isSuffixOf_iff_suffix.2 hextension⟩)
    obtain ⟨entry, hanswer⟩ := hentries _ hmem
    have heq := FileTree.entry?_child hfind' hnul
      (FileTree.isEntryName_of_mem_names hname) hanswer
    rw [heq, hentry] at hanswer
    exact ⟨hmem, content, hanswer⟩

theorem nodup_names_default (hfiles : found.filterM (isFile tree) = .ok files) :
    (files.map Path.name).Nodup := by
  obtain ⟨hfound, -⟩ := found_eq_of_default hglob hfound
  obtain ⟨-, place, hfind⟩ := FileTree.find_of_entry? hdirectory
  obtain ⟨-, rfl⟩ := filterM_eq_ok_iff.1 hfiles
  have hchild : Path.name ∘ (Path.ofString directory).child = id :=
    funext fun name => Path.name_child _ name
  have hnames : (found.map Path.name).Nodup := by
    rw [hfound, List.map_map, hchild, List.map_id]
    exact (FileTree.nodup_names hfind).filter _
  exact hnames.sublist (List.filter_sublist.map _)

end Default

/-! ## The scripts of a directory -/

section Loaded

variable [Encoding.Codecs]

variable {loaded : Path → Script} (hproper : ∀ path ∈ files, path.Proper)
  (hloaded : ∀ path ∈ files, ofFile tree config path.toString = .ok (loaded path))
include hloaded

theorem mapM_sortByName :
    ((sortByName files).mapM fun path => ofFile tree config path.toString) =
      .ok ((sortByName files).map loaded) :=
  mapM_eq_ok_map fun path hpath => hloaded path ((perm_sortByName files).mem_iff.1 hpath)

include hproper

theorem name_loaded {path : Path} (hpath : path ∈ files) : (loaded path).name = path.name :=
  name_of_ofFile (hproper path hpath) (hloaded path hpath)

theorem map_name_loaded : (files.map loaded).map Script.name = files.map Path.name := by
  rw [List.map_map]
  exact List.map_congr_left fun path hpath => name_loaded hproper hloaded hpath

theorem pairwise_name_le :
    ((sortByName files).map loaded).Pairwise fun a b => a.name ≤ b.name := by
  rw [List.pairwise_map]
  refine (pairwise_sortByName files).imp_of_mem fun {a b} ha hb h => ?_
  have hmem := fun path => (perm_sortByName files).mem_iff (a := path)
  rwa [name_loaded hproper hloaded ((hmem a).1 ha), name_loaded hproper hloaded ((hmem b).1 hb)]

/-- Different names that are in order are in strict order. -/
theorem pairwise_name_lt (hnames : (files.map Path.name).Nodup) :
    ((sortByName files).map loaded).Pairwise fun a b => a.name < b.name := by
  have hnames' : (((sortByName files).map loaded).map Script.name).Nodup := by
    have hperm : (((sortByName files).map loaded).map Script.name).Perm (files.map Path.name) := by
      rw [← map_name_loaded hproper hloaded]
      exact ((perm_sortByName files).map loaded).map Script.name
    exact hperm.nodup_iff.2 hnames
  refine ((pairwise_name_le hproper hloaded).and (List.pairwise_map.1 hnames')).imp ?_
  rintro a b ⟨hle, hne⟩
  exact Decidable.of_not_not fun h => hne (String.le_antisymm hle (String.not_lt.1 h))

end Loaded

/-- If every file that the glob finds can be loaded, the scripts are those of these files, in the
order of their names. The default glob finds each file of the directory whose name ends in `.sql`
and nothing else, so no two names are the same. Where no two are, it makes no difference in which
order the paths were found. If some file cannot be loaded, the first such file in the order of the
names decides. -/
theorem loadAll_selected [Encoding.Codecs] (config : Config)
    (hdirectory : tree.entry? (Path.ofString directory) = .ok (some .directory))
    (hglob : Glob.ofString? glob = .ok pattern)
    (hfound : pattern.select tree (Path.ofString directory) = .ok found)
    (hfiles : found.filterM (isFile tree) = .ok files) :
    ((∀ path ∈ files, Loads tree config path) →
      ∃ scripts loaded, loadAll tree config directory glob = .ok scripts ∧
        (files.mapM fun path => ofFile tree config path.toString) = .ok loaded ∧
        scripts.Perm loaded ∧ scripts.Pairwise (fun a b => a.name ≤ b.name) ∧
        (glob = defaultGlob → scripts.Pairwise (fun a b => a.name < b.name) ∧
          ∀ script, script ∈ scripts ↔ ∃ name, tree.HoldsFile (Path.ofString directory) name ∧
            extension <:+ name.toList ∧ script.name = name ∧
            ofFile tree config ((Path.ofString directory).child name).toString = .ok script)) ∧
      (glob = defaultGlob ∨ (files.map Path.name).Nodup → ∀ other, other.Perm found →
        loadFound tree config other = loadAll tree config directory glob) ∧
      (∀ path ∈ files, ¬ Loads tree config path →
        ∃ earlier first later fault, sortByName files = earlier ++ first :: later ∧
          (∀ path ∈ earlier, Loads tree config path) ∧
          ofFile tree config first.toString = .error fault ∧
          loadAll tree config directory glob = .error fault) := by
  have hsorted := loadAll_of_select (select_eq_ok hdirectory hglob hfound hfiles) config
  have hproper : ∀ path ∈ files, path.Proper := by
    obtain ⟨-, rfl⟩ := filterM_eq_ok_iff.1 hfiles
    intro path hpath
    exact Glob.proper_of_select hglob (Path.proper_ofString directory) hfound path
      (List.mem_filter.1 hpath).1
  have hdefault : glob = defaultGlob → (files.map Path.name).Nodup := by
    rintro rfl
    exact nodup_names_default hdirectory hglob hfound hfiles
  refine ⟨?_, ?_, ?_⟩
  · intro hload
    obtain ⟨loaded, hloaded⟩ := exists_loaded hload
    refine ⟨(sortByName files).map loaded, files.map loaded, ?_, mapM_eq_ok_map hloaded,
      (perm_sortByName files).map loaded, pairwise_name_le hproper hloaded, ?_⟩
    · rw [hsorted, mapM_sortByName hloaded]
    · intro hglobEq
      refine ⟨pairwise_name_lt hproper hloaded (hdefault hglobEq), fun script => ?_⟩
      subst hglobEq
      rw [List.mem_map]
      constructor
      · rintro ⟨path, hpath, rfl⟩
        have hmem := (perm_sortByName files).mem_iff.1 hpath
        obtain ⟨name, hname, hextension, rfl⟩ :=
          (mem_files_default_iff hdirectory hglob hfound hfiles).1 hmem
        refine ⟨name, hname, hextension, ?_, hloaded _ hmem⟩
        rw [name_loaded hproper hloaded hmem, Path.name_child]
      · rintro ⟨name, hname, hextension, -, hscript⟩
        have hmem := (mem_files_default_iff hdirectory hglob hfound hfiles).2
          ⟨name, hname, hextension, rfl⟩
        exact ⟨_, (perm_sortByName files).mem_iff.2 hmem,
          Except.ok.inj ((hloaded _ hmem).symm.trans hscript)⟩
  · intro hnames other hother
    rw [loadAll_eq_loadFound hdirectory hglob hfound hfiles]
    exact loadFound_congr hfiles (hnames.elim hdefault id) hother
  · intro path hpath hfails
    have hmem : path ∈ sortByName files := (perm_sortByName files).mem_iff.2 hpath
    have hnone : ∀ script, ofFile tree config path.toString ≠ .ok script := by
      intro script h
      exact hfails ⟨script, h⟩
    obtain ⟨earlier, first, later, fault, hlist, hearlier, hfirst, hfault⟩ :=
      mapM_eq_first_error (f := fun path : Path => ofFile tree config path.toString) hmem hnone
    exact ⟨earlier, first, later, fault, hlist, hearlier, hfirst, hsorted.trans hfault⟩

/-- A directory with two scripts, one of them hidden, a directory that is named like a script, and a
file whose name ends in capitals and that is no text. -/
def mixedDirectory : FileTree :=
  { entries := [(["b.sql"], .file [66, 59]), (["d.sql"], .directory), (["c.SQL"], .file [255]),
      ([".sql"], .file [65, 59])] }

/-- The hidden script is the first. The paths may be found in another order than that of the
entries. -/
theorem loadAll_selected_mixedDirectory :
    ∃ scripts, loadAll mixedDirectory {} "." defaultGlob = .ok scripts ∧
      scripts.Pairwise (fun a b => a.name < b.name) ∧
      (∀ script, script ∈ scripts ↔ ∃ name, mixedDirectory.HoldsFile (Path.ofString ".") name ∧
        extension <:+ name.toList ∧ script.name = name ∧
        ofFile mixedDirectory {} ((Path.ofString ".").child name).toString = .ok script) ∧
      loadFound mixedDirectory {} (["d.sql", ".sql", "b.sql"].map (Path.ofString ".").child) =
        .ok scripts := by
  let base := Path.ofString "."
  have hdirectory : mixedDirectory.entry? base = .ok (some .directory) := rfl
  have hfound : Glob.select ⟨[.wildcard (.anyText :: extension.map .literal)], false⟩
      mixedDirectory base = .ok (["b.sql", "d.sql", ".sql"].map base.child) := rfl
  have hfiles : (["b.sql", "d.sql", ".sql"].map base.child).filterM (isFile mixedDirectory) =
      .ok (["b.sql", ".sql"].map base.child) := rfl
  have hsome : ∀ path ∈ ["b.sql", ".sql"].map base.child,
      (ofFile mixedDirectory {} path.toString).toOption.isSome = true := by
    decide +kernel
  have hloads : ∀ path ∈ ["b.sql", ".sql"].map base.child, Loads mixedDirectory {} path := by
    intro path hpath
    have h := hsome path hpath
    cases hscript : ofFile mixedDirectory {} path.toString with
    | error fault =>
      rw [hscript] at h
      cases h
    | ok script => exact ⟨script, hscript⟩
  obtain ⟨hscripts, hordered, -⟩ :=
    loadAll_selected {} hdirectory ofString?_defaultGlob hfound hfiles
  obtain ⟨scripts, -, hscripts, -, -, -, hdefault⟩ := hscripts hloads
  obtain ⟨hnames, hmem⟩ := hdefault rfl
  refine ⟨scripts, hscripts, hnames, hmem, ?_⟩
  rw [hordered (.inl rfl) _ (by decide), hscripts]

end ScriptReplay.Script
