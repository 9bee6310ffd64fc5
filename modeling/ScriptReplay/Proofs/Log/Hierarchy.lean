import Mathlib.Data.List.Infix
import ScriptReplay.Log.Registry

/-!
# Loggers that stand below the base logger

The name of a logger may tell where it stands, whatever loggers there are. One whose name goes on
with a single dot behind the base logger's stands below that (`Regular`): the search for its parent
comes to the base logger at the latest, and to nothing on the way but loggers like itself. One whose
name goes on without a dot does not (`Stray`). Behind two dots it depends on the loggers that are
there, for the search passes over the second of them.

* `Hierarchy.Ordered`: a parent has one of the names that are searched, and where none was found the
  base logger's is not among them. Adding a logger keeps this (`Ordered.add`), also where it becomes
  the parent of others (`mem_parents_add`).
* `isBelowBase_of_regular`, `isBelowBase_of_stray`: where the two kinds of loggers stand.
* `isBelowBase_of_dots`: behind two dots no logger always stands below the base logger.
-/

namespace ScriptReplay.Log

variable {logger name : String}

/-! ## Names before a dot -/

theorem exists_of_mem_namesBefore {chars : List Char} (h : name ∈ namesBefore chars) :
    ∃ behind before, chars = behind ++ '.' :: before ∧ name.toList = before.reverse := by
  fun_induction namesBefore chars with
  | case1 => cases h
  | case2 c rest ih =>
    rcases List.mem_cons.1 h with rfl | h
    · exact ⟨[], c :: rest, rfl, String.toList_ofList⟩
    · obtain ⟨behind, before, rfl, hname⟩ := ih h
      exact ⟨'.' :: c :: behind, before, rfl, hname⟩
  | case3 c rest hdot ih =>
    obtain ⟨behind, before, rfl, hname⟩ := ih h
    exact ⟨c :: behind, before, rfl, hname⟩

/-- What stands behind a name that is searched begins with a dot. -/
theorem exists_of_mem_parentNames (h : name ∈ parentNames logger) :
    ∃ rest, logger.toList = name.toList ++ '.' :: rest := by
  obtain ⟨behind, before, hchars, hname⟩ := exists_of_mem_namesBefore h
  refine ⟨behind.reverse, ?_⟩
  have hlogger := congrArg List.reverse hchars
  rw [List.reverse_reverse, List.reverse_append, List.reverse_cons, ← hname] at hlogger
  rw [hlogger, List.append_assoc]
  rfl

theorem length_lt_of_mem_parentNames (h : name ∈ parentNames logger) :
    name.length < logger.length := by
  obtain ⟨rest, hlogger⟩ := exists_of_mem_parentNames h
  rw [← String.length_toList, ← String.length_toList, hlogger, List.length_append]
  simp

theorem namesBefore_dot (c : Char) (rest : List Char) :
    namesBefore ('.' :: c :: rest) =
      String.ofList (c :: rest).reverse :: namesBefore rest := rfl

theorem namesBefore_of_ne {c : Char} (h : c ≠ '.') (rest : List Char) :
    namesBefore (c :: rest) = namesBefore rest := by
  cases rest <;> simp [namesBefore, h]

/-- The base logger's name has no dots, so a name that is searched does not end in it. -/
theorem begins_of_mem_parentNames (hbegins : baseName.toList <+: logger.toList)
    (h : name ∈ parentNames logger) : baseName.toList <+: name.toList := by
  obtain ⟨rest, hlogger⟩ := exists_of_mem_parentNames h
  have hname : name.toList <+: logger.toList := ⟨'.' :: rest, hlogger.symm⟩
  rcases List.prefix_or_prefix_of_prefix hbegins hname with hbase | ⟨more, hmore⟩
  · exact hbase
  · cases more with
    | nil => rw [← hmore, List.append_nil]
    | cons c more =>
      obtain ⟨behind, hbehind⟩ := hbegins
      rw [← hmore, List.append_assoc, hlogger, List.append_cancel_left_eq] at hbehind
      have hc : c = '.' := (List.cons.inj hbehind).1
      have hdot : '.' ∈ baseName.toList := by
        rw [← hmore, hc]
        exact List.mem_append_right _ List.mem_cons_self
      exact absurd hdot (by decide)

/-! ## Regular names and stray ones -/

/-- The base logger's name, or one that goes on behind it with a dot and not with two. -/
def Regular (name : String) : Prop :=
  name = baseName ∨
    (baseName ++ ".").toList <+: name.toList ∧ ¬ (baseName ++ "..").toList <+: name.toList

instance : DecidablePred Regular :=
  fun _ => inferInstanceAs (Decidable (_ ∨ _ ∧ ¬ _))

/-- A name that begins like the base logger's, but neither is it nor goes on with a dot. -/
def Stray (name : String) : Prop :=
  baseName.toList <+: name.toList ∧ name ≠ baseName ∧ ¬ (baseName ++ ".").toList <+: name.toList

instance : DecidablePred Stray :=
  fun _ => inferInstanceAs (Decidable (_ ∧ _ ∧ ¬ _))

theorem toList_dot : (baseName ++ ".").toList = baseName.toList ++ ['.'] := by
  rw [String.toList_append]
  rfl

theorem toList_dots : (baseName ++ "..").toList = baseName.toList ++ ['.', '.'] := by
  rw [String.toList_append]
  rfl

theorem Regular.begins (h : Regular logger) : baseName.toList <+: logger.toList := by
  rcases h with rfl | ⟨hdot, -⟩
  · exact List.prefix_rfl
  · rw [toList_dot] at hdot
    exact (List.prefix_append _ _).trans hdot

/-- The search for the parent of a logger that is below the base logger by its name. -/
theorem begins_dot_of_mem_parentNames (hbegins : baseName.toList <+: logger.toList)
    (h : name ∈ parentNames logger) (hne : name ≠ baseName) :
    (baseName ++ ".").toList <+: name.toList ↔ (baseName ++ ".").toList <+: logger.toList := by
  obtain ⟨more, hname⟩ := begins_of_mem_parentNames hbegins h
  obtain ⟨rest, hlogger⟩ := exists_of_mem_parentNames h
  rw [toList_dot, hlogger, ← hname, List.append_assoc, List.prefix_append_right_inj,
    List.prefix_append_right_inj]
  cases more with
  | nil =>
    rw [List.append_nil] at hname
    exact absurd (String.toList_injective hname.symm) hne
  | cons c more => simp [List.cons_prefix_cons]

theorem parentNames_base : parentNames baseName = [] := by
  decide

/-- The search comes to regular loggers only, -/
theorem Regular.of_mem_parentNames (h : Regular logger) (hname : name ∈ parentNames logger) :
    Regular name := by
  have hbegins := h.begins
  rcases h with rfl | ⟨hdot, hdots⟩
  · rw [parentNames_base] at hname
    cases hname
  by_cases hne : name = baseName
  · exact .inl hne
  · obtain ⟨rest, hlogger⟩ := exists_of_mem_parentNames hname
    refine .inr ⟨(begins_dot_of_mem_parentNames hbegins hname hne).2 hdot, fun hmore => hdots ?_⟩
    exact hmore.trans ⟨'.' :: rest, hlogger.symm⟩

theorem base_mem_namesBefore {behind : List Char} (h : behind.getLast? ≠ some '.') :
    baseName ∈ namesBefore (behind ++ '.' :: baseName.toList.reverse) := by
  fun_induction namesBefore behind with
  | case1 => decide
  | case2 c rest ih =>
    refine List.mem_cons_of_mem _ (ih ?_)
    cases rest with
    | nil => simp
    | cons next rest => simpa using h
  | case3 c rest hdot ih =>
    have hne : c ≠ '.' := by
      rintro rfl
      cases rest with
      | nil => exact h rfl
      | cons next rest => exact hdot next rest rfl rfl
    rw [List.cons_append, namesBefore_of_ne hne]
    refine ih ?_
    cases rest with
    | nil => simp
    | cons next rest => simpa using h

/-- and, for one that is not the base logger, to the base logger in the end. -/
theorem Regular.base_mem_parentNames (h : Regular logger) (hne : logger ≠ baseName) :
    baseName ∈ parentNames logger := by
  obtain ⟨⟨more, hlogger⟩, hdots⟩ := h.resolve_left hne
  have hmore : more.reverse.getLast? ≠ some '.' := by
    rw [List.getLast?_reverse]
    intro hhead
    obtain ⟨rest, rfl⟩ := List.head?_eq_some_iff.1 hhead
    refine hdots ⟨rest, ?_⟩
    rw [← hlogger, toList_dot, toList_dots, List.append_assoc, List.append_assoc]
    rfl
  have hmem := base_mem_namesBefore hmore
  unfold parentNames
  rw [← hlogger, toList_dot, List.reverse_append, List.reverse_append]
  exact hmem

theorem Stray.of_mem_parentNames (h : Stray logger) (hname : name ∈ parentNames logger) :
    Stray name := by
  obtain ⟨hbegins, -, hnoDot⟩ := h
  have hbase : baseName.toList <+: name.toList := begins_of_mem_parentNames hbegins hname
  have hne : name ≠ baseName := by
    rintro rfl
    obtain ⟨rest, hlogger⟩ := exists_of_mem_parentNames hname
    exact hnoDot ⟨rest, by rw [hlogger, toList_dot, List.append_assoc]; rfl⟩
  exact ⟨hbase, hne, mt (begins_dot_of_mem_parentNames hbegins hname hne).1 hnoDot⟩

/-- Behind two dots the search finds the logger that ends in them before it comes to the base
logger, where there are these two loggers and no other. -/
theorem find?_namesBefore_dots {holds : String → Bool}
    (hholds : ∀ name, holds name = true ↔ name = baseName ∨ name = baseName ++ "..")
    (behind : List Char) {found : String}
    (h : (namesBefore (behind ++ (baseName ++ "..").toList.reverse)).find? holds = some found) :
    found = baseName ++ ".." := by
  fun_induction namesBefore behind with
  | case1 =>
    have hnames : namesBefore (baseName ++ "..").toList.reverse = [baseName ++ "."] := by decide
    rw [List.nil_append, hnames, List.find?_singleton] at h
    split at h
    · next hdot => exact absurd ((hholds _).1 hdot) (by decide)
    · cases h
  | case2 c rest ih =>
    rw [List.cons_append, List.cons_append, namesBefore_dot, List.find?_cons] at h
    split at h
    · next hheld =>
      -- the name is longer than both
      have hlength := ((hholds _).1 hheld).imp (congrArg String.length) (congrArg String.length)
      have hbase : baseName.length = 9 := by decide
      have hdots : (baseName ++ "..").length = 11 := by decide
      rw [String.length_ofList, List.length_reverse, List.length_cons, List.length_append,
        List.length_reverse, String.length_toList, hbase, hdots] at hlength
      omega
    · exact ih h
  | case3 c rest hdot ih =>
    by_cases hne : c = '.'
    · subst hne
      cases rest with
      | nil =>
        have hnames : namesBefore ('.' :: (baseName ++ "..").toList.reverse) =
            [baseName ++ "..", baseName] := by decide
        rw [List.singleton_append, hnames, List.find?_cons, (hholds _).2 (.inr rfl)] at h
        exact (Option.some.inj h).symm
      | cons next rest => exact absurd rfl (hdot next rest rfl)
    · rw [List.cons_append, namesBefore_of_ne hne] at h
      exact ih h

/-! ## The loggers that are there -/

namespace Hierarchy

variable {hierarchy : Hierarchy}

/-- A parent has one of the names that are searched for it. Where none was found the base logger's is
not among them, for that logger is always there. What a search passed are names that are searched. -/
structure Ordered (hierarchy : Hierarchy) : Prop where
  parents : ∀ child parent, (child, some parent) ∈ hierarchy.parents → parent ∈ parentNames child
  rooted : ∀ child, (child, none) ∈ hierarchy.parents → baseName ∉ parentNames child
  passed : ∀ added child, (added, child) ∈ hierarchy.passed → added ∈ parentNames child

theorem holds_base (hierarchy : Hierarchy) : hierarchy.holds baseName = true := rfl

theorem base_not_mem_of_find? (h : (parentNames logger).find? hierarchy.holds = none) :
    baseName ∉ parentNames logger :=
  fun hmem => List.find?_eq_none.1 h baseName hmem hierarchy.holds_base

/-- Where a logger is added each one has the parent that it had, or that one, if it passed its name.
The parent of the new logger is what the search for it finds. -/
theorem mem_parents_add {added child : String} {parent : Option String}
    (h : (child, parent) ∈ (hierarchy.add added).parents) :
    (child, parent) ∈ hierarchy.parents ∨
      (added, child) ∈ hierarchy.passed ∧ parent = some added ∨
      child = added ∧ parent = (parentNames added).find? hierarchy.holds := by
  unfold add at h
  split at h
  · exact .inl h
  rcases List.mem_cons.1 h with hnew | hold
  · exact .inr (.inr (Prod.mk.inj hnew))
  obtain ⟨⟨old, before⟩, hmem, heq⟩ := List.mem_map.1 hold
  obtain ⟨rfl, rfl⟩ := Prod.mk.inj heq
  unfold adopted
  split
  · next hpassed =>
    rw [Bool.and_eq_true, List.contains_iff_mem] at hpassed
    exact .inr (.inl ⟨hpassed.1, rfl⟩)
  · exact .inl hmem

theorem mem_passed_add {added child name : String}
    (h : (name, child) ∈ (hierarchy.add added).passed) :
    (name, child) ∈ hierarchy.passed ∨ child = added ∧ name ∈ parentNames added := by
  unfold add at h
  split at h
  · exact .inl h
  rcases List.mem_append.1 h with hnew | hold
  · obtain ⟨passed, hmem, heq⟩ := List.mem_map.1 hnew
    obtain ⟨rfl, rfl⟩ := Prod.mk.inj heq
    exact .inr ⟨rfl, List.takeWhile_subset _ hmem⟩
  · exact .inl (List.mem_filter.1 hold).1

theorem Ordered.add (h : hierarchy.Ordered) (added : String) : (hierarchy.add added).Ordered where
  parents child parent hmem := by
    rcases mem_parents_add hmem with hold | ⟨hpassed, hparent⟩ | ⟨rfl, hfound⟩
    · exact h.parents child parent hold
    · exact Option.some.inj hparent ▸ h.passed added child hpassed
    · exact List.mem_of_find?_eq_some hfound.symm
  rooted child hmem := by
    rcases mem_parents_add hmem with hold | ⟨-, hparent⟩ | ⟨rfl, hfound⟩
    · exact h.rooted child hold
    · cases hparent
    · exact base_not_mem_of_find? hfound.symm
  passed name child hmem := by
    rcases mem_passed_add hmem with hold | ⟨rfl, hname⟩
    · exact h.passed name child hold
    · exact hname

theorem ordered_of (loggers : List String) : (of loggers).Ordered := by
  have hempty : Ordered {} := ⟨nofun, nofun, nofun⟩
  unfold of
  generalize ({} : Hierarchy) = hierarchy at hempty
  induction loggers generalizing hierarchy with
  | nil => exact hempty
  | cons logger rest ih => exact ih _ (hempty.add logger)

theorem parent?_cases (hierarchy : Hierarchy) (logger : String) :
    (logger, hierarchy.parent? logger) ∈ hierarchy.parents ∨
      hierarchy.parent? logger = (parentNames logger).find? hierarchy.holds := by
  unfold parent?
  cases hlookup : hierarchy.parents.lookup logger with
  | none => exact .inr rfl
  | some found =>
    obtain ⟨before, behind, heq, -⟩ := List.lookup_eq_some_iff.1 hlookup
    left
    rw [Option.getD_some, heq]
    simp

theorem Ordered.parent?_mem (h : hierarchy.Ordered) {parent : String}
    (hparent : hierarchy.parent? logger = some parent) : parent ∈ parentNames logger := by
  rcases hierarchy.parent?_cases logger with hmem | hfound
  · exact h.parents logger parent (hparent ▸ hmem)
  · exact List.mem_of_find?_eq_some (hfound.symm.trans hparent)

theorem Ordered.base_not_mem (h : hierarchy.Ordered) (hparent : hierarchy.parent? logger = none) :
    baseName ∉ parentNames logger := by
  rcases hierarchy.parent?_cases logger with hmem | hfound
  · exact h.rooted logger (hparent ▸ hmem)
  · exact base_not_mem_of_find? (hfound.symm.trans hparent)

/-! ## Steps up -/

/-- Loggers from which no step up leads to others do not stand below the base logger if that is none
of them. -/
theorem leadsToBase_eq_false (Among : String → Prop) (hbase : ¬ Among baseName)
    (hstep : ∀ logger parent, Among logger → hierarchy.parent? logger = some parent → Among parent)
    (steps : Nat) (h : Among logger) : hierarchy.leadsToBase steps logger = false := by
  have hne : (logger == baseName) = false := by
    rw [beq_eq_false_iff_ne]
    rintro rfl
    exact hbase h
  induction steps generalizing logger with
  | zero => exact hne
  | succ steps ih =>
    rw [leadsToBase, hne, Bool.false_or]
    cases hparent : hierarchy.parent? logger with
    | none => rfl
    | some parent =>
      have hamong := hstep logger parent h hparent
      refine ih hamong ?_
      rw [beq_eq_false_iff_ne]
      rintro rfl
      exact hbase hamong

theorem leadsToBase_of_regular (h : hierarchy.Ordered) {steps : Nat} (hlogger : Regular logger)
    (hsteps : logger.length ≤ steps) : hierarchy.leadsToBase steps logger = true := by
  induction steps generalizing logger with
  | zero =>
    have hlength := hlogger.begins.length_le
    have hbase : baseName.toList.length = 9 := by decide
    rw [hbase, String.length_toList] at hlength
    omega
  | succ steps ih =>
    rw [leadsToBase, Bool.or_eq_true, beq_iff_eq, or_iff_not_imp_left]
    intro hne
    cases hparent : hierarchy.parent? logger with
    | none => exact absurd (hlogger.base_mem_parentNames hne) (h.base_not_mem hparent)
    | some parent =>
      have hmem := h.parent?_mem hparent
      have hshorter := length_lt_of_mem_parentNames hmem
      exact ih (hlogger.of_mem_parentNames hmem) (by omega)

theorem isBelowBase_of_regular (h : hierarchy.Ordered) (hlogger : Regular logger) :
    hierarchy.isBelowBase logger = true :=
  leadsToBase_of_regular h hlogger (Nat.le_refl _)

theorem isBelowBase_of_stray (h : hierarchy.Ordered) (hlogger : Stray logger) :
    hierarchy.isBelowBase logger = false :=
  leadsToBase_eq_false Stray (fun hbase => hbase.2.1 rfl)
    (fun _ _ hstray hparent => hstray.of_mem_parentNames (h.parent?_mem hparent)) _ hlogger

/-! ## Behind two dots -/

/-- The loggers that are there where the one that ends in two dots was asked for. Its parent is the
root, for the search passes over the second dot, and there is no logger that ends in the first. -/
theorem of_dots : of [baseName ++ ".."] =
    { parents := [(baseName ++ "..", none)], passed := [(baseName ++ ".", baseName ++ "..")] } := by
  decide

theorem holds_of_dots (name : String) :
    (of [baseName ++ ".."]).holds name = true ↔ name = baseName ∨ name = baseName ++ ".." := by
  rw [of_dots, holds, Bool.or_eq_true, beq_iff_eq, List.lookup_cons, List.lookup_nil]
  refine or_congr_right ?_
  cases h : name == baseName ++ ".." with
  | false => simpa using h
  | true => simpa using h

section AddOfDots

variable (hdots : (baseName ++ "..").toList <+: logger.toList) (hne : logger ≠ baseName ++ "..")

include hdots hne

theorem holds_of_dots_eq_false : (of [baseName ++ ".."]).holds logger = false := by
  rw [← Bool.not_eq_true, holds_of_dots]
  rintro (rfl | heq)
  · exact absurd hdots (by decide)
  · exact hne heq

/-- A logger behind two dots is added in front. Its name is none that a search passed before. -/
theorem parents_add_of_dots :
    ((of [baseName ++ ".."]).add logger).parents =
      [(logger, (parentNames logger).find? (of [baseName ++ ".."]).holds),
        (baseName ++ "..", none)] := by
  have hadopted : (of [baseName ++ ".."]).adopted logger (baseName ++ "..") none = none := by
    refine if_neg fun hpassed => ?_
    rw [of_dots, Bool.and_eq_true, List.contains_iff_mem, List.mem_singleton] at hpassed
    obtain ⟨rfl, -⟩ := Prod.mk.inj hpassed.1
    exact absurd hdots (by decide)
  have hentries : (of [baseName ++ ".."]).parents = [(baseName ++ "..", none)] := by rw [of_dots]
  unfold add
  rw [holds_of_dots_eq_false hdots hne, if_neg Bool.false_ne_true]
  dsimp only
  rw [hentries, List.map_singleton, hadopted]

end AddOfDots

/-- A logger behind two dots does not stand below the base logger where the one that ends in them
was asked for first. -/
theorem isBelowBase_of_dots (hdots : (baseName ++ "..").toList <+: logger.toList) :
    ((of [baseName ++ ".."]).add logger).isBelowBase logger = false := by
  by_cases hne : logger = baseName ++ ".."
  · subst hne
    decide
  have hparents := parents_add_of_dots hdots hne
  refine leadsToBase_eq_false (fun name => name = logger ∨ name = baseName ++ "..") ?_ ?_ _
    (.inl rfl)
  · rintro (rfl | h)
    · exact absurd hdots (by decide)
    · exact absurd h (by decide)
  · rintro child parent (rfl | rfl) hparent
    · rw [parent?, hparents, List.lookup_cons_self, Option.getD_some] at hparent
      obtain ⟨more, hmore⟩ := hdots
      unfold parentNames at hparent
      rw [← hmore, List.reverse_append] at hparent
      exact .inr (find?_namesBefore_dots holds_of_dots _ hparent)
    · have hother : (baseName ++ ".." == logger) = false := beq_eq_false_iff_ne.2 (Ne.symm hne)
      rw [parent?, hparents, List.lookup_cons, hother, List.lookup_cons_self,
        Option.getD_some] at hparent
      cases hparent

end Hierarchy

end ScriptReplay.Log
