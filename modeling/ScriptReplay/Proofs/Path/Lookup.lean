import Mathlib.Data.List.Infix
import Mathlib.Data.List.Nodup
import ScriptReplay.Path.Glob
import ScriptReplay.Proofs.Result
import ScriptReplay.Proofs.Text.Pieces

/-!
# Looking up paths

* `Path.ofString_toString`: the text of a path names the path.
* `FileTree.entry?_child`: where the system answers for an entry of a directory, the answer is what
  the tree holds under the name.
* `Glob.proper_of_select`: a glob selects paths that their texts name.
* `Glob.eq_of_selectFrom_star`: a star with letters behind it selects the names that end with these.
-/

namespace ScriptReplay

/-! ## The text of a path -/

namespace Path

/-- The parts of a path are all names. -/
def Proper (path : Path) : Prop :=
  ∀ name ∈ path.parts, IsName name

theorem splitSlashes_eq_splitOn (s : List Char) : splitSlashes s = s.splitOn '/' := by
  induction s with
  | nil => rfl
  | cons c s ih =>
    rw [splitSlashes, List.splitOn_cons_eq_if_modifyHead, ih]
    by_cases hc : c = '/'
    · rw [if_pos hc, if_pos (beq_iff_eq.2 hc)]
    · rw [if_neg hc, if_neg (fun h => hc (beq_iff_eq.1 h))]
      cases h : s.splitOn '/' with
      | nil => exact absurd h (List.splitOn_ne_nil _ _)
      | cons part parts => rfl

/-- The names between slashes. -/
def namesIn (s : List Char) : List String :=
  ((splitSlashes s).filter fun part => !(part.isEmpty || part == ['.'])).map String.ofList

theorem ofString_eq (text : String) :
    ofString text = ⟨rootOf text.toList, namesIn text.toList⟩ := rfl

theorem namesIn_slash (s : List Char) : namesIn ('/' :: s) = namesIn s := by
  unfold namesIn
  rw [splitSlashes, if_pos rfl]
  rfl

theorem isName_of_mem_namesIn {s : List Char} {name : String} (h : name ∈ namesIn s) :
    IsName name := by
  obtain ⟨part, hpart, rfl⟩ := List.mem_map.1 h
  obtain ⟨hsplit, hkept⟩ := List.mem_filter.1 hpart
  rw [splitSlashes_eq_splitOn] at hsplit
  have hslash := Text.not_mem_of_mem_splitOn hsplit
  refine ⟨?_, ?_, ?_⟩
  · intro hempty
    have hnil : part = [] := by rw [← String.toList_ofList (l := part), hempty, String.toList_empty]
    simp [hnil] at hkept
  · intro hdot
    have hpart : part = ['.'] := by rw [← String.toList_ofList (l := part), hdot]; rfl
    simp [hpart] at hkept
  · rwa [String.toList_ofList]

theorem proper_ofString (text : String) : (ofString text).Proper :=
  fun _ => isName_of_mem_namesIn

theorem name_child (path : Path) (name : String) : (path.child name).name = name := by
  rw [Path.name, Path.child, List.getLast?_concat, Option.getD_some]

theorem Proper.child {path : Path} (h : path.Proper) {name : String} (hname : IsName name) :
    (path.child name).Proper :=
  List.forall_mem_append.2 ⟨h, List.forall_mem_singleton.2 hname⟩

/-- Names joined by slashes. -/
def joined (names : List String) : List Char :=
  ['/'].intercalate (names.map String.toList)

theorem namesIn_joined {names : List String} (h : ∀ name ∈ names, IsName name) :
    namesIn (joined names) = names := by
  cases names with
  | nil => rfl
  | cons name rest =>
    have hslash : ∀ part ∈ (name :: rest).map String.toList, '/' ∉ part :=
      List.forall_mem_map.2 fun name hname => (h name hname).2.2
    have hkept : ∀ part ∈ (name :: rest).map String.toList,
        (!(part.isEmpty || part == ['.'])) = true := by
      refine List.forall_mem_map.2 fun name hname => ?_
      obtain ⟨hempty, hdot, -⟩ := h name hname
      have hdot' : name.toList ≠ ['.'] := fun hlist => hdot (String.toList_inj.1 hlist)
      simp [hempty, hdot']
    unfold namesIn joined
    rw [splitSlashes_eq_splitOn, List.splitOn_intercalate '/' hslash (List.cons_ne_nil _ _),
      List.filter_eq_self.2 hkept, List.map_map]
    exact List.map_id'' (fun name => String.ofList_toList) _

/-- Joined names do not begin with a slash. -/
theorem joined_cases {names : List String} (h : ∀ name ∈ names, IsName name) :
    (names = [] ∧ joined names = []) ∨ ∃ c more, joined names = c :: more ∧ c ≠ '/' := by
  cases names with
  | nil => exact .inl ⟨rfl, rfl⟩
  | cons name rest =>
    obtain ⟨hempty, -, hslash⟩ := h name List.mem_cons_self
    obtain ⟨c, more, hname⟩ := List.exists_cons_of_ne_nil (mt String.toList_eq_nil_iff.1 hempty)
    have hc : c ≠ '/' := fun hc => hslash (hname ▸ hc ▸ List.mem_cons_self)
    refine .inr ⟨c, ?_⟩
    cases rest with
    | nil => exact ⟨more, by simp [joined, hname], hc⟩
    | cons next rest =>
      refine ⟨more ++ ['/'] ++ ['/'].intercalate ((next :: rest).map String.toList), ?_, hc⟩
      rw [joined, List.map_cons, List.map_cons, List.intercalate_cons_cons, hname]
      rfl

theorem toList_toString {path : Path} (h : joined path.parts ≠ []) :
    path.toString.toList = path.root.text.toList ++ joined path.parts := by
  have htext : (path.root.text ++ "/".intercalate path.parts).toList =
      path.root.text.toList ++ joined path.parts := by
    rw [String.toList_append, String.toList_intercalate]
    rfl
  have hne : (path.root.text ++ "/".intercalate path.parts).isEmpty = false := by
    rw [← Bool.not_eq_true, String.isEmpty_iff, ← String.toList_eq_nil_iff, htext]
    exact List.append_ne_nil_of_right_ne_nil _ h
  rw [toString, hne]
  exact htext

theorem rootOf_text_append (root : Root) {c : Char} (hc : c ≠ '/') (more : List Char) :
    rootOf (root.text.toList ++ c :: more) = root := by
  cases root <;> simp [Root.text, rootOf, hc]

theorem namesIn_text_append (root : Root) (s : List Char) :
    namesIn (root.text.toList ++ s) = namesIn s := by
  cases root with
  | relative => rfl
  | slash => exact namesIn_slash s
  | doubleSlash => exact (namesIn_slash _).trans (namesIn_slash s)

/-- The text of a path names the path. -/
theorem ofString_toString {path : Path} (h : path.Proper) : ofString path.toString = path := by
  obtain ⟨root, parts⟩ := path
  rcases joined_cases h with ⟨rfl, -⟩ | ⟨c, more, hjoined, hc⟩
  · cases root <;> rfl
  · have hne : joined parts ≠ [] := hjoined ▸ List.cons_ne_nil c more
    rw [ofString_eq, toList_toString hne, namesIn_text_append, namesIn_joined h, hjoined,
      rootOf_text_append root hc]

end Path

/-! ## Entries -/

namespace FileTree

variable {tree : FileTree} {path : Path} {place : List String} {name : String} {kind : Entry}

section Walk

theorem walk_append {names more : List String} {start : List String} {entry : Entry}
    (h : tree.walk start entry names = .ok (place, kind)) :
    tree.walk start entry (names ++ more) = tree.walk place kind more := by
  fun_induction tree.walk start entry names with
  | case1 start entry =>
    cases h
    rfl
  | case2 => cases h
  | case3 start name rest hdots ih =>
    rw [List.cons_append, walk, if_pos hdots]
    exact ih h
  | case4 => cases h
  | case5 => cases h
  | case6 start name rest hdots hlong entry hentry ih =>
    rw [List.cons_append, walk, if_neg hdots, if_neg hlong, hentry]
    exact ih h

theorem walk_of_find (h : tree.find path = .ok (place, kind)) :
    tree.walk (tree.startOf path) .directory path.parts = .ok (place, kind) := by
  unfold find at h
  split at h
  · cases h
  · split at h
    · next found hwalk =>
      cases h
      exact hwalk
    · cases h

theorem holdsNul_child (h : holdsNul path = false) (hname : '\x00' ∉ name.toList) :
    holdsNul (path.child name) = false := by
  unfold holdsNul Path.child at *
  rw [List.any_append, h]
  simpa using hname

theorem find_of_entry? (h : tree.entry? path = .ok (some kind)) :
    holdsNul path = false ∧ ∃ place, tree.find path = .ok (place, kind) := by
  unfold entry? at h
  split at h
  · cases h
  · next hnul =>
    refine ⟨Bool.not_eq_true _ ▸ hnul, ?_⟩
    split at h
    · next place entry hfind =>
      cases h
      exact ⟨place, hfind⟩
    · split at h
      · cases h
      · cases h

/-- The system answers for an entry of a directory with what the tree holds under its name, unless
the name or the path is too long for an answer. -/
theorem entry?_child (hfind : tree.find path = .ok (place, .directory))
    (hnul : holdsNul path = false) (hname : IsEntryName name) {found : Option Entry}
    (h : tree.entry? (path.child name) = .ok found) : found = tree.entryAt (place ++ [name]) := by
  obtain ⟨-, hdots, hfree⟩ := hname
  have hwalk : tree.walk (tree.startOf (path.child name)) .directory (path.child name).parts =
      tree.walk place .directory [name] := walk_append (walk_of_find hfind)
  have hdots' : ¬ (name == "..") = true := fun heq => hdots (beq_iff_eq.1 heq)
  unfold entry? at h
  rw [holdsNul_child hnul hfree] at h
  unfold find at h
  rw [hwalk, walk, if_neg hdots'] at h
  by_cases hlimit : pathLimit ≤ (path.child name).toString.utf8ByteSize
  · simp [hlimit] at h
  by_cases hlong : longestName < name.utf8ByteSize
  · simp [hlimit, hlong] at h
  cases hentry : tree.entryAt (place ++ [name]) with
  | none =>
    simp [hlimit, hlong, hentry] at h
    exact h.symm
  | some entry =>
    simp [hlimit, hlong, hentry, walk] at h
    exact h.symm

end Walk

section Names

/-- The last name of an entry that is directly in a place. -/
def nameIn (place entry : List String) : Option String :=
  if place.isPrefixOf entry && entry.length == place.length + 1 then entry.getLast? else none

theorem nameIn_eq_some_iff {entry : List String} :
    nameIn place entry = some name ↔ entry = place ++ [name] := by
  unfold nameIn
  constructor
  · intro h
    split at h
    · next hplace =>
      obtain ⟨hbegins, hlength⟩ := Bool.and_eq_true_iff.1 hplace
      obtain ⟨last, rfl⟩ := List.isPrefixOf_iff_prefix.1 hbegins
      rw [List.length_append, beq_iff_eq] at hlength
      obtain ⟨only, rfl⟩ := List.length_eq_one_iff.1 (Nat.add_left_cancel hlength)
      rw [List.getLast?_concat] at h
      rw [Option.some.inj h]
    · cases h
  · rintro rfl
    simp

theorem names_eq (hfind : tree.find path = .ok (place, .directory)) :
    tree.names path = (tree.entries.map Prod.fst).filterMap (nameIn place) := by
  unfold names
  rw [hfind, List.filterMap_map]
  rfl

theorem mem_names_iff (hfind : tree.find path = .ok (place, .directory)) :
    name ∈ tree.names path ↔ place ++ [name] ∈ tree.entries.map Prod.fst := by
  rw [names_eq hfind, List.mem_filterMap]
  simp only [nameIn_eq_some_iff, exists_eq_right]

theorem nodup_names (hfind : tree.find path = .ok (place, .directory)) :
    (tree.names path).Nodup := by
  rw [names_eq hfind]
  refine List.Nodup.filterMap (fun entry other name hentry hother => ?_) tree.nodup
  rw [nameIn_eq_some_iff.1 hentry, nameIn_eq_some_iff.1 hother]

theorem isEntryName_of_mem_names (hname : name ∈ tree.names path) : IsEntryName name := by
  cases hfind : tree.find path with
  | error error =>
    rw [names, hfind] at hname
    cases hname
  | ok found =>
    obtain ⟨place, kind | _⟩ := found
    · rw [names, hfind] at hname
      cases hname
    · obtain ⟨entry, hentry, hlast⟩ := List.mem_map.1 ((mem_names_iff hfind).1 hname)
      refine tree.entry_names entry hentry name ?_
      rw [hlast]
      exact List.mem_append_right _ List.mem_cons_self

theorem isEntryName_of_mem_directoriesBelow {below : List String}
    (hbelow : below ∈ tree.directoriesBelow path) : ∀ name ∈ below, IsEntryName name := by
  unfold directoriesBelow at hbelow
  split at hbelow
  · next place hfind =>
    obtain ⟨⟨entry, kind⟩, hentry, hsome⟩ := List.mem_filterMap.1 hbelow
    dsimp only at hsome
    split at hsome
    · cases hsome
      exact fun name hname => tree.entry_names _ hentry name (List.mem_of_mem_drop hname)
    · cases hsome
  · cases hbelow

theorem mem_names_of_entryAt (hfind : tree.find path = .ok (place, .directory))
    (h : tree.entryAt (place ++ [name]) = some kind) : name ∈ tree.names path := by
  rw [mem_names_iff hfind]
  have hlookup : tree.entries.lookup (place ++ [name]) = some kind := by
    rw [entryAt, if_neg] at h
    · exact h
    · simp
  obtain ⟨earlier, later, hentries, -⟩ := List.lookup_eq_some_iff.1 hlookup
  rw [hentries]
  exact List.mem_map_of_mem (List.mem_append_right earlier List.mem_cons_self)

end Names

/-- A directory holds a file under a name. -/
def HoldsFile (tree : FileTree) (directory : Path) (name : String) : Prop :=
  ∃ place content, tree.find directory = .ok (place, .directory) ∧
    tree.entryAt (place ++ [name]) = some (.file content)

end FileTree

/-! ## Globs -/

namespace Glob

variable {tree : FileTree} {path : Path}

theorem afterAnyText_iff {rest : List Char → Bool} {s : List Char} :
    afterAnyText rest s = true ↔ ∃ tail, tail <:+ s ∧ rest tail = true := by
  induction s with
  | nil => simp [afterAnyText]
  | cons c s ih => simp [afterAnyText, ih, List.suffix_cons_iff, or_and_right, exists_or]

theorem matchesName_literals {letters s : List Char} :
    matchesName (letters.map .literal) s = true ↔ s = letters := by
  induction letters generalizing s with
  | nil => simp [matchesName]
  | cons c letters ih =>
    cases s with
    | nil => simp [matchesName]
    | cons d s =>
      rw [List.map_cons, matchesName, Bool.and_eq_true_iff, beq_iff_eq, ih, List.cons.injEq]
      exact and_congr_left' eq_comm

/-- A star with letters behind it stands for the names that end with these. -/
theorem matchesName_star {letters s : List Char} :
    matchesName (.anyText :: letters.map .literal) s = true ↔ letters <:+ s := by
  rw [matchesName, afterAnyText_iff]
  constructor
  · rintro ⟨tail, htail, hmatch⟩
    exact matchesName_literals.1 hmatch ▸ htail
  · intro h
    exact ⟨letters, h, matchesName_literals.2 rfl⟩

theorem gather_eq_ok_iff {select : Path → Except SystemError (List Path)}
    {paths found : List Path} :
    gather select paths = .ok found ↔
      ∃ each, paths.mapM select = .ok each ∧ found = each.flatten := by
  unfold gather
  rw [bind_eq_ok]
  constructor
  · rintro ⟨each, heach, h⟩
    cases h
    exact ⟨each, heach, rfl⟩
  · rintro ⟨each, heach, rfl⟩
    exact ⟨each, heach, rfl⟩

theorem gather_singletons (paths : List Path) :
    gather (fun path => .ok [path]) paths = .ok paths :=
  gather_eq_ok_iff.2 ⟨paths.map fun path => [path], mapM_eq_ok_map fun _ _ => rfl,
    (List.flatMap_singleton' paths).symm⟩

theorem proper_of_mem_gather {select : Path → Except SystemError (List Path)}
    {paths found : List Path} (h : gather select paths = .ok found)
    (hpaths : ∀ path ∈ paths, path.Proper)
    (hselect : ∀ start below, start.Proper → select start = .ok below →
      ∀ path ∈ below, path.Proper) :
    ∀ path ∈ found, path.Proper := by
  obtain ⟨each, heach, rfl⟩ := gather_eq_ok_iff.1 h
  intro path hmem
  obtain ⟨below, hbelow, hpath⟩ := List.mem_flatten.1 hmem
  obtain ⟨start, hstart, hfound⟩ := exists_mem_of_mapM heach hbelow
  exact hselect start below (hpaths start hstart) hfound path hpath

/-- A component that is a name can be the name of an entry. -/
def Component.Proper : Component → Prop
  | .name text => Path.IsName text
  | .wildcard _ => True
  | .everywhere => True

theorem proper_of_selectFrom {directoriesOnly : Bool}
    {components : List Component} (hcomponents : ∀ component ∈ components, component.Proper)
    (hpath : path.Proper) {found : List Path}
    (h : selectFrom tree directoriesOnly components path = .ok found) :
    ∀ path ∈ found, path.Proper := by
  induction components generalizing path found with
  | nil =>
    cases h
    exact List.forall_mem_singleton.2 hpath
  | cons component components ih =>
    obtain ⟨hcomponent, hmore⟩ := List.forall_mem_cons.1 hcomponents
    have hrest : ∀ start below, start.Proper →
        selectFrom tree directoriesOnly components start = .ok below →
          ∀ path ∈ below, path.Proper := fun start below hstart hbelow => ih hmore hstart hbelow
    cases component with
    | name text =>
      obtain ⟨entry, hentry, h⟩ := bind_eq_ok.1 h
      have hnext := hrest _ found (hpath.child hcomponent)
      split at h
      · cases h
        exact nofun
      · exact hnext h
      · split at h
        · cases h
          exact nofun
        · exact hnext h
    | wildcard parts =>
      obtain ⟨kept, hkept, h⟩ := bind_eq_ok.1 h
      obtain ⟨-, rfl⟩ := filterM_eq_ok_iff.1 hkept
      refine proper_of_mem_gather h (fun next hnext => ?_) hrest
      obtain ⟨name, hname, rfl⟩ := List.mem_map.1 (List.mem_filter.1 hnext).1
      exact hpath.child (FileTree.isEntryName_of_mem_names (List.mem_filter.1 hname).1).1
    | everywhere =>
      obtain ⟨places, hplaces, h⟩ := bind_eq_ok.1 h
      cases h
      intro path hmem
      refine proper_of_mem_gather hplaces ?_ hrest path (List.mem_eraseDups.1 hmem)
      refine List.forall_mem_cons.2 ⟨hpath, List.forall_mem_map.2 fun names hnames => ?_⟩
      have hbelow := FileTree.isEntryName_of_mem_directoriesBelow hnames
      exact List.forall_mem_append.2 ⟨hpath, fun name hname => (hbelow name hname).1⟩

theorem proper_of_componentOf {name : String} (hname : Path.IsName name) {component : Component}
    (h : componentOf name = .ok component) : component.Proper := by
  unfold componentOf at h
  dsimp only at h
  split at h
  · cases h
    trivial
  · split at h
    · cases h
    · split at h
      · cases h
        trivial
      · cases h
        exact hname

theorem proper_of_ofString? {text : String} {glob : Glob} (h : ofString? text = .ok glob) :
    ∀ component ∈ glob.components, component.Proper := by
  unfold ofString? at h
  split at h
  · cases h
  · dsimp only at h
    split at h
    · cases h
    · split at h
      · cases h
      · cases h
      · next components hcomponents =>
        cases h
        intro component hmem
        obtain ⟨name, hname, hcomponent⟩ := exists_mem_of_mapM hcomponents hmem
        exact proper_of_componentOf (Path.proper_ofString text name hname) hcomponent

/-- A glob selects paths that their texts name. -/
theorem proper_of_select {text : String} {glob : Glob}
    (hglob : ofString? text = .ok glob) (hpath : path.Proper) {found : List Path}
    (h : glob.select tree path = .ok found) : ∀ path ∈ found, path.Proper :=
  proper_of_selectFrom (proper_of_ofString? hglob) hpath h

/-- A star with letters behind it selects the entries whose names end with these, where the system
answers for each of them. -/
theorem eq_of_selectFrom_star {letters : List Char} {found : List Path}
    (h : selectFrom tree false [.wildcard (.anyText :: letters.map .literal)] path = .ok found) :
    found = ((tree.names path).filter fun name => letters.isSuffixOf name.toList).map path.child ∧
      ∀ next ∈ found, ∃ entry, tree.entry? next = .ok entry := by
  have hmatch : ∀ name : String,
      matchesName (.anyText :: letters.map .literal) name.toList = letters.isSuffixOf name.toList :=
    fun name => Bool.eq_iff_iff.2 (matchesName_star.trans List.isSuffixOf_iff_suffix.symm)
  obtain ⟨kept, hkept, h⟩ := bind_eq_ok.1 h
  simp only [hmatch] at hkept
  obtain ⟨hanswers, rfl⟩ := filterM_eq_ok_iff.1 hkept
  have hentries : ∀ next ∈ ((tree.names path).filter fun name =>
      letters.isSuffixOf name.toList).map path.child, ∃ entry, tree.entry? next = .ok entry := by
    intro next hnext
    obtain ⟨answer, hanswer⟩ := hanswers next hnext
    obtain ⟨entry, hentry, -⟩ := bind_eq_ok.1 hanswer
    exact ⟨entry, hentry⟩
  -- Nothing is turned down: at the last component a file is as good as a directory.
  rw [List.filter_eq_self.2 fun next hnext => ?_] at h
  · obtain rfl : _ = found := Except.ok.inj ((gather_singletons _).symm.trans h)
    exact ⟨rfl, hentries⟩
  · obtain ⟨entry, hentry⟩ := hentries next hnext
    rw [hentry]
    cases entry with
    | none => rfl
    | some kind => cases kind <;> rfl

end Glob

end ScriptReplay
