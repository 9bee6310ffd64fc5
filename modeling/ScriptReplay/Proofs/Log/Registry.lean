import Mathlib.Data.List.Nodup
import ScriptReplay.Proofs.Log.Hierarchy

/-!
# The state of logging over a run

What holds of logging after any uses of it, one after another: set up with any names, some of which
name no level, loggers asked for again and again, correlation ids changed, events logged. Nothing is
set up at the start, but any loggers may be there.

* `Settled`: the base logger is as it was last set up, and until then as it was at the start. One
  use keeps this (`Settled.next`), so a run does (`settled_after`).
* `nodup_stamped_after`: no logger stamps its events twice.
* `RecallsAt.next`: what a logger remembers stays what it would decide, unless it decides again and
  stands elsewhere. So a logger that has not moved since a level was set up last remembers what it
  would decide now (`recalls_after_of_unmoved`).
* `recalls_iff_write`: an event of the base logger, or of one below it, is written once or not at
  all. Which of the two is up to the level that was set up last, or to the level of warnings where
  that level is none, exactly if the logger remembers nothing else.

`logging_after` puts these together.
-/

namespace ScriptReplay.Log

/-! ## Levels -/

theorem nonneg_of_mem_levels : ∀ named ∈ levels, (0 : Level) ≤ named.2 := by
  decide

theorem Level.nonneg_of_ofName {name : String} {level : Level} (h : ofName name = .ok level) :
    0 ≤ level := by
  unfold ofName at h
  dsimp only at h
  split at h
  · next found hfound =>
    cases h
    obtain ⟨before, behind, heq, -⟩ := List.lookup_eq_some_iff.1 hfound
    exact nonneg_of_mem_levels (String.ofList (Text.upper name.toList), level) (by rw [heq]; simp)
  · cases h

namespace Registry

/-! ## Setting up -/

section SetUp

variable {name style : String} (registry : Registry)

theorem change_setUp_of_ok {level : Level} (h : Level.ofName name = .ok level) :
    registry.change (setUp name style) =
      (.ok (), { registry with
        level, handlers := [.ofName style], propagates := false, decisions := [] }) := by
  unfold change setUp
  rw [h]
  rfl

/-- A name that names no level changes nothing, since it is looked up before anything is changed. -/
theorem change_setUp_of_error {error : LevelError} (h : Level.ofName name = .error error) :
    registry.change (setUp name style) = (.error error, registry) := by
  unfold change setUp
  rw [h]
  rfl

end SetUp

/-! ## Asking for loggers -/

theorem getLogger_eq (registry : Registry) (name : Option String) :
    registry.getLogger name = (loggerName name, { registry with
      hierarchy := registry.hierarchy.add (loggerName name)
      stamped :=
        if name.isNone || registry.stamped.contains (loggerName name) then registry.stamped
        else registry.stamped ++ [loggerName name] }) := by
  unfold getLogger
  dsimp only
  split <;> rfl

theorem stamped_getLogger (registry : Registry) (name : Option String) :
    (registry.getLogger name).2.stamped = registry.stamped ∨
      loggerName name ∉ registry.stamped ∧
        (registry.getLogger name).2.stamped = registry.stamped ++ [loggerName name] := by
  rw [getLogger_eq]
  dsimp only
  split
  · exact .inl rfl
  · next hnew =>
    simp only [Bool.or_eq_true, not_or, List.contains_iff_mem] at hnew
    exact .inr ⟨hnew.2, rfl⟩

/-- A logger that was asked for by name stamps its events. -/
theorem mem_stamped_getLogger (registry : Registry) (name : String) :
    loggerName (some name) ∈ (registry.getLogger (some name)).2.stamped := by
  rw [getLogger_eq]
  dsimp only
  split
  · next hknown => simpa using hknown
  · simp

/-! ## What loggers remember -/

/-- What a logger decides that stands below the base logger, where that has the given level, or that
stands elsewhere. -/
def decidesAt (set : Level) (below : Bool) (level : Level) : Bool :=
  0 < level && (if below && set != 0 then set else .warning) ≤ level

/-- Of where a logger stands nothing counts but whether it is below the base logger. -/
theorem decides_eq (registry : Registry) (logger : String) (level : Level) :
    registry.decides logger level =
      decidesAt registry.level (registry.hierarchy.isBelowBase logger) level := rfl

/-- What a logger remembers of events of a level is what it would decide now if it stood below the
base logger, or elsewhere, as `below` says. -/
def RecallsAt (registry : Registry) (logger : String) (level : Level) (below : Bool) : Prop :=
  ∀ passes, registry.decisions.lookup (logger, level) = some passes →
    passes = decidesAt registry.level below level

/-- What a logger remembers of events of a level is what it would decide now, if it remembers
anything. -/
def Recalls (registry : Registry) (logger : String) (level : Level) : Prop :=
  registry.RecallsAt logger level (registry.hierarchy.isBelowBase logger)

section Remembered

variable {registry : Registry} {logger : String} {level : Level} {below : Bool}

theorem recalls_iff :
    registry.Recalls logger level ↔
      registry.lets logger level = registry.decides logger level := by
  unfold Recalls RecallsAt lets
  cases registry.decisions.lookup (logger, level) with
  | none => exact iff_of_true nofun rfl
  | some passes =>
    rw [Option.getD_some, decides_eq]
    simp

theorem recallsAt_of_forgotten (h : registry.decisions = []) :
    registry.RecallsAt logger level below := by
  intro passes hlookup
  rw [h] at hlookup
  cases hlookup

/-- What a logger decides is what it remembers from then on. -/
theorem RecallsAt.decide (h : registry.RecallsAt logger level below) {added : String}
    {reached : Level} (hstands : added = logger → reached = level →
      registry.hierarchy.isBelowBase logger = below) :
    (registry.decide added reached).RecallsAt logger level below := by
  intro passes hlookup
  unfold Registry.decide at hlookup ⊢
  rw [List.lookup_cons] at hlookup
  split at hlookup
  · next hsame =>
    obtain ⟨rfl, rfl⟩ := Prod.mk.inj (beq_iff_eq.1 hsame)
    obtain rfl := hstands rfl rfl
    rw [← Option.some.inj hlookup, recalls_iff.1 h, decides_eq]
  · exact h passes hlookup

/-- Asking for a logger changes nothing that another one remembers. -/
theorem RecallsAt.getLogger (h : registry.RecallsAt logger level below) (name : Option String) :
    (registry.getLogger name).2.RecallsAt logger level below := by
  rw [getLogger_eq]
  exact h

end Remembered

end Registry

/-! ## Uses of logging -/

/-- One use of logging, or the passing of time. -/
inductive Use
  | setUp (level style : String)
  | getLogger (name : Option String)
  | setCorrelation (id : Option String)
  | log (name : Option String) (event : Event)
  | wait (time : Time)

namespace Use

/-- The level and the style that a use sets up, if its name names a level. -/
def setting? : Use → Option (Level × Style)
  | .setUp level style => (Level.ofName level).toOption.map fun level => (level, .ofName style)
  | _ => none

/-- Whether a use asks for the logger of a name. -/
def AsksFor (use : Use) (name : String) : Prop :=
  use = .getLogger (some name) ∨ ∃ event, use = .log (some name) event

/-- The level and the style that were set up last. -/
def lastSetting? (uses : List Use) : Option (Level × Style) :=
  (uses.filterMap setting?).getLast?

end Use

namespace Registry

/-! ## The base logger -/

/-- The base logger is as a setting asks for, or as it was at the start where there is none. -/
def Settled (registry : Registry) (setting : Option (Level × Style)) : Prop :=
  registry.level = (setting.map Prod.fst).getD 0 ∧
    registry.handlers = (setting.map Prod.snd).toList ∧ registry.propagates = setting.isNone

/-- Asking for a logger does not touch the base logger's level and handlers. -/
theorem Settled.getLogger {registry : Registry} {setting : Option (Level × Style)}
    (h : registry.Settled setting) (name : Option String) :
    (registry.getLogger name).2.Settled setting := by
  rw [getLogger_eq]
  exact h

/-- The state of logging after one use. -/
def next (registry : Registry) : Use → Registry
  | .setUp level style => (registry.change (setUp level style)).2
  | .getLogger name => (registry.getLogger name).2
  | .setCorrelation id => { registry with correlation := id }
  | .log name event => (registry.getLogger name).2.decide (loggerName name) event.level
  | .wait time => { registry with time }

/-- That is the state that logging an event leaves behind. -/
theorem next_log [Zone] (registry : Registry) (name : Option String) (event : Event) :
    registry.next (.log name event) = (registry.log name event).2 := rfl

/-- The state of logging after uses one after another. -/
def after (registry : Registry) (uses : List Use) : Registry :=
  uses.foldl next registry

theorem after_append (registry : Registry) (uses more : List Use) :
    registry.after (uses ++ more) = (registry.after uses).after more :=
  List.foldl_append

/-- A use leaves the base logger as it was, unless it sets logging up. -/
theorem Settled.next {registry : Registry} {setting : Option (Level × Style)}
    (h : registry.Settled setting) (use : Use) :
    (registry.next use).Settled (use.setting?.or setting) := by
  cases use with
  | setUp name style =>
    cases hname : Level.ofName name with
    | error error =>
      rw [Registry.next, change_setUp_of_error registry hname]
      simpa [Use.setting?, hname, Except.toOption] using h
    | ok level =>
      rw [Registry.next, change_setUp_of_ok registry hname]
      simp [Use.setting?, hname, Except.toOption, Settled]
  | getLogger name => exact h.getLogger name
  | setCorrelation id => exact h
  | log name event => exact h.getLogger name
  | wait time => exact h

theorem settled_after {registry : Registry} {setting : Option (Level × Style)}
    (h : registry.Settled setting) (uses : List Use) :
    (registry.after uses).Settled ((Use.lastSetting? uses).or setting) := by
  induction uses generalizing registry setting with
  | nil => exact h
  | cons use rest ih =>
    have hrest : (registry.after (use :: rest)).Settled _ := ih (h.next use)
    unfold Use.lastSetting? at hrest ⊢
    rw [List.filterMap_cons]
    cases huse : use.setting? with
    | none =>
      rw [huse, Option.none_or] at hrest
      exact hrest
    | some found =>
      rw [huse] at hrest
      cases hlast : (rest.filterMap Use.setting?).getLast? <;>
        simpa [List.getLast?_cons, hlast] using hrest

/-! ## Stamps -/

/-- Of the stamps a use changes none, and adds at most one of a logger without. -/
theorem stamped_next (registry : Registry) (use : Use) :
    (registry.next use).stamped = registry.stamped ∨
      ∃ logger, logger ∉ registry.stamped ∧
        (registry.next use).stamped = registry.stamped ++ [logger] := by
  cases use with
  | setUp name style =>
    left
    cases hname : Level.ofName name with
    | error error => rw [next, change_setUp_of_error registry hname]
    | ok level => rw [next, change_setUp_of_ok registry hname]
  | getLogger name => exact (stamped_getLogger registry name).imp_right fun h => ⟨_, h⟩
  | setCorrelation id => exact .inl rfl
  | log name event => exact (stamped_getLogger registry name).imp_right fun h => ⟨_, h⟩
  | wait time => exact .inl rfl

theorem nodup_stamped_next {registry : Registry} (h : registry.stamped.Nodup) (use : Use) :
    (registry.next use).stamped.Nodup := by
  rcases stamped_next registry use with hsame | ⟨logger, hnew, hmore⟩
  · rwa [hsame]
  · rw [hmore, List.nodup_append]
    refine ⟨h, by simp, fun other hother last hlast heq => hnew ?_⟩
    rwa [← List.mem_singleton.1 hlast, ← heq]

theorem nodup_stamped_after {registry : Registry} (h : registry.stamped.Nodup)
    (uses : List Use) : (registry.after uses).stamped.Nodup := by
  induction uses generalizing registry with
  | nil => exact h
  | cons use rest ih => exact ih (nodup_stamped_next h use)

/-- Stamps stay. -/
theorem stamped_subset_after (registry : Registry) (uses : List Use) :
    registry.stamped ⊆ (registry.after uses).stamped := by
  induction uses generalizing registry with
  | nil => exact List.Subset.refl _
  | cons use rest ih =>
    refine List.Subset.trans ?_ (ih (registry.next use))
    rcases stamped_next registry use with hsame | ⟨logger, -, hmore⟩
    · rw [hsame]
      exact List.Subset.refl _
    · rw [hmore]
      exact List.subset_append_left _ _

theorem mem_stamped_after {uses : List Use} {name : String} {use : Use} (hmem : use ∈ uses)
    (hasks : use.AsksFor name) (registry : Registry) :
    loggerName (some name) ∈ (registry.after uses).stamped := by
  obtain ⟨before, behind, rfl⟩ := List.append_of_mem hmem
  rw [after_append]
  refine stamped_subset_after ((registry.after before).next use) behind ?_
  rcases hasks with rfl | ⟨event, rfl⟩
  · exact mem_stamped_getLogger (registry.after before) name
  · exact mem_stamped_getLogger (registry.after before) name

/-! ## Loggers that have not moved -/

/-- A use adds one logger or none. -/
theorem ordered_next {registry : Registry} (h : registry.hierarchy.Ordered) (use : Use) :
    (registry.next use).hierarchy.Ordered := by
  cases use with
  | setUp name style =>
    cases hname : Level.ofName name with
    | error error =>
      rw [next, change_setUp_of_error registry hname]
      exact h
    | ok level =>
      rw [next, change_setUp_of_ok registry hname]
      exact h
  | getLogger name =>
    rw [next, getLogger_eq]
    exact h.add _
  | setCorrelation id => exact h
  | log name event =>
    rw [next, getLogger_eq]
    exact h.add _
  | wait time => exact h

theorem ordered_after {registry : Registry} (h : registry.hierarchy.Ordered) (uses : List Use) :
    (registry.after uses).hierarchy.Ordered := by
  induction uses generalizing registry with
  | nil => exact h
  | cons use rest ih => exact ih (ordered_next h use)

/-- Since a level was set up last, a logger always stood below the base logger when it decided
whether events of a level pass, or always elsewhere, as `below` says. -/
def Stood (start : Registry) (uses : List Use) (logger : String) (level : Level) (below : Bool) :
    Prop :=
  ∀ before name event behind, uses = before ++ .log name event :: behind →
    loggerName name = logger → event.level = level → Use.lastSetting? behind = none →
    ((start.after before).getLogger name).2.hierarchy.isBelowBase logger = below

/-- A logger stands where it always stood when it decided whether events of a level pass, since a
level was set up last. -/
def Unmoved (start : Registry) (uses : List Use) (logger : String) (level : Level) : Prop :=
  start.Stood uses logger level ((start.after uses).hierarchy.isBelowBase logger)

section Unmoved

variable {start : Registry} {uses : List Use} {logger : String} {level : Level} {below : Bool}

/-- A decision keeps what is remembered right if the logger stands there. What is remembered is
forgotten where a level is set up, and a failure to set one up changes nothing. -/
theorem RecallsAt.next {registry : Registry} (h : registry.RecallsAt logger level below) (use : Use)
    (hstands : ∀ name event, use = .log name event → loggerName name = logger →
      event.level = level → (registry.getLogger name).2.hierarchy.isBelowBase logger = below) :
    (registry.next use).RecallsAt logger level below := by
  cases use with
  | setUp name style =>
    cases hname : Level.ofName name with
    | error error =>
      rw [Registry.next, change_setUp_of_error registry hname]
      exact h
    | ok found =>
      rw [Registry.next, change_setUp_of_ok registry hname]
      exact recallsAt_of_forgotten rfl
  | getLogger name => exact h.getLogger name
  | setCorrelation id => exact h
  | log name event => exact (h.getLogger name).decide (hstands name event rfl)
  | wait time => exact h

theorem decisions_next_of_setting {registry : Registry} {use : Use} {setting : Level × Style}
    (h : use.setting? = some setting) : (registry.next use).decisions = [] := by
  cases use with
  | setUp name style =>
    cases hname : Level.ofName name with
    | error error => simp [Use.setting?, hname, Except.toOption] at h
    | ok level => rw [next, change_setUp_of_ok registry hname]
  | _ => cases h

/-- Where a logger stood before a use that sets no level up counts behind it as well. -/
theorem Stood.of_append {use : Use} (h : start.Stood (uses ++ [use]) logger level below)
    (hsetting : use.setting? = none) : start.Stood uses logger level below := by
  intro before name event behind huses hlogger hlevel hlast
  refine h before name event (behind ++ [use]) (by simp [huses]) hlogger hlevel ?_
  rw [Use.lastSetting?, List.getLast?_eq_none_iff] at hlast ⊢
  rw [List.filterMap_append, hlast, List.filterMap_cons_none hsetting, List.filterMap_nil,
    List.append_nil]

/-- By induction from the last use on: either it sets a level up, and nothing is remembered, or
what counts for the uses before it counts for all of them. -/
theorem recallsAt_after_of_stood (hforgotten : start.decisions = [])
    (h : start.Stood uses logger level below) :
    (start.after uses).RecallsAt logger level below := by
  induction uses using List.reverseRecOn with
  | nil => exact recallsAt_of_forgotten hforgotten
  | append_singleton uses use ih =>
    have hafter : start.after (uses ++ [use]) = (start.after uses).next use := after_append ..
    rw [hafter]
    cases hsetting : use.setting? with
    | some setting => exact recallsAt_of_forgotten (decisions_next_of_setting hsetting)
    | none =>
      refine (ih (h.of_append hsetting)).next use fun name event huse hlogger hlevel => ?_
      exact h uses name event [] (by rw [huse]) hlogger hlevel rfl

/-- So a logger that has not moved remembers what it would decide now. -/
theorem recalls_after_of_unmoved (hforgotten : start.decisions = [])
    (h : start.Unmoved uses logger level) : (start.after uses).Recalls logger level :=
  recallsAt_after_of_stood hforgotten h

end Unmoved

/-- Any loggers may be there at the start. -/
theorem ordered_after_clean (names : List String) (uses : List Use) :
    ((clean names).after uses).hierarchy.Ordered :=
  ordered_after (Hierarchy.ordered_of _) uses

/-- Loggers whose names tell where they stand do not move. -/
theorem unmoved_clean {logger : String} (hlogger : Regular logger ∨ Stray logger)
    (names : List String) (uses : List Use) (level : Level) :
    (clean names).Unmoved uses logger level := by
  intro before name event behind _ _ _ _
  have hordered : (((clean names).after before).getLogger name).2.hierarchy.Ordered := by
    rw [getLogger_eq]
    exact (ordered_after_clean names before).add _
  rcases hlogger with hregular | hstray
  · rw [Hierarchy.isBelowBase_of_regular hordered hregular,
      Hierarchy.isBelowBase_of_regular (ordered_after_clean names uses) hregular]
  · rw [Hierarchy.isBelowBase_of_stray hordered hstray,
      Hierarchy.isBelowBase_of_stray (ordered_after_clean names uses) hstray]

end Registry

/-! ## Writing -/

/-- An event can be written: its time has a date, its message can be put together, and what was
added to it are fields. -/
structure Event.Writable [Zone] (event : Event) : Prop where
  dated : ∃ moment, momentOf event.time = .ok moment
  worded : ∃ message, event.message = .ok message
  extended : ∃ fields, fieldsOf (event.extra.getD (.obj [])) = .ok fields

namespace Registry

section Write

variable {registry : Registry} {event : Event}

theorem exists_writeIn [Zone] (registry : Registry) (h : event.Writable) (style : Style) :
    ∃ text, registry.writeIn event style = .ok text := by
  obtain ⟨moment, hmoment⟩ := h.dated
  obtain ⟨message, hmessage⟩ := h.worded
  obtain ⟨fields, hfields⟩ := h.extended
  obtain ⟨timestamp, htimestamp⟩ : ∃ timestamp, event.timestamp none = .ok timestamp :=
    ⟨_, by simp only [Event.timestamp, Log.timestamp, hmoment]; rfl⟩
  cases style with
  | plain =>
    unfold writeIn Event.plain
    rw [hmessage, htimestamp]
    exact ⟨_, rfl⟩
  | structured =>
    unfold writeIn Event.structured Event.fields
    rw [hmessage, htimestamp, hfields]
    cases event.exceptionText with
    | none => exact ⟨_, rfl⟩
    | some text => exact ⟨_, rfl⟩

theorem stamp_logger (registry : Registry) (event : Event) :
    (registry.stamp event).logger = event.logger := by
  unfold stamp
  dsimp only
  split <;> rfl

theorem handlersFor_of_isBelowBase {logger : String}
    (h : registry.hierarchy.isBelowBase logger = true) :
    registry.handlersFor logger = registry.handlers :=
  if_pos h

/-- The base logger and those below it decide by the level, or by that of warnings where the level
is none. -/
theorem decides_iff (hlevel : 0 ≤ registry.level) {logger : String}
    (hbase : registry.hierarchy.isBelowBase logger = true) (level : Level) :
    registry.decides logger level = true ↔
      (if registry.level = 0 then .warning else registry.level) ≤ level := by
  have hthreshold : registry.threshold logger =
      if registry.level = 0 then .warning else registry.level := by
    by_cases hnone : registry.level = 0 <;> simp [threshold, hbase, hnone]
  have hpositive : 0 < (if registry.level = 0 then Level.warning else registry.level) := by
    split
    · decide
    · next hnone => exact Int.lt_iff_le_and_ne.2 ⟨hlevel, Ne.symm hnone⟩
  rw [decides, hthreshold, Bool.and_eq_true, decide_eq_true_iff, decide_eq_true_iff]
  exact ⟨And.right, fun h => ⟨Int.lt_of_lt_of_le hpositive h, h⟩⟩

/-- What the base logger and those below it write once logging is set up: a line for the one
handler, if the logger lets the event pass. -/
theorem write_of_settled [Zone] {setting : Level × Style} {text : String}
    (hsettled : registry.Settled (some setting))
    (hbase : registry.hierarchy.isBelowBase event.logger = true)
    (htext : registry.writeIn (registry.stamp event) setting.2 = .ok text) :
    registry.write event =
      if registry.lets event.logger event.level = true then text ++ "\n" else "" := by
  have hseen : registry.handlersFor (registry.stamp event).logger = [setting.2] := by
    rw [stamp_logger, handlersFor_of_isBelowBase hbase, hsettled.2.1]
    rfl
  unfold write
  dsimp only
  rw [hseen]
  simp [htext, lineOf]

/-- This is up to the level exactly if the logger remembers nothing else. -/
theorem recalls_iff_write [Zone] {level : Level} {style : Style} {text : String}
    (hsettled : registry.Settled (some (level, style))) (hlevel : 0 ≤ level)
    (hbase : registry.hierarchy.isBelowBase event.logger = true)
    (htext : registry.writeIn (registry.stamp event) style = .ok text) :
    registry.Recalls event.logger event.level ↔
      registry.write event =
        if (if level = 0 then .warning else level) ≤ event.level then text ++ "\n" else "" := by
  obtain rfl : registry.level = level := hsettled.1
  have hline : text ++ "\n" ≠ "" := by
    intro hempty
    simpa using congrArg String.toList hempty
  rw [recalls_iff, write_of_settled hsettled hbase htext]
  simp only [← decides_iff hlevel hbase event.level]
  cases registry.lets event.logger event.level <;>
    cases registry.decides event.logger event.level <;> simp [hline, hline.symm]

end Write

end Registry

theorem Use.nonneg_of_lastSetting? {uses : List Use} {level : Level} {style : Style}
    (h : lastSetting? uses = some (level, style)) : 0 ≤ level := by
  obtain ⟨use, -, huse⟩ := List.mem_filterMap.1 (List.mem_of_getLast? h)
  cases use with
  | setUp name style =>
    cases hname : Level.ofName name with
    | error error => simp [setting?, hname, Except.toOption] at huse
    | ok found =>
      simp only [setting?, hname, Except.toOption, Option.map_some, Option.some.injEq,
        Prod.mk.injEq] at huse
      exact huse.1 ▸ Level.nonneg_of_ofName hname
  | _ => cases huse

theorem Registry.settled_after_clean (names : List String) (uses : List Use) :
    ((clean names).after uses).Settled (Use.lastSetting? uses) := by
  simpa using settled_after (show (clean names).Settled none from ⟨rfl, rfl, rfl⟩) uses

/-- What holds after any uses of logging, whatever loggers were there before: the base logger has
the level and the one handler that were set up last; setting up with a name that names no level
changes nothing; a logger that was asked for by name, however often, stamps its events once; and an
event of the base logger or of one below it is written once if it reaches the level that was set up
last, and else not at all, exactly if the logger does not remember that it decided otherwise. Where
that level is none, the level of warnings takes its place. A logger remembers nothing else than what
it would decide if it stands where it always stood when it decided since a level was set up last,
and a regular logger always stands below the base logger. -/
theorem logging_after [Zone] (names : List String) (uses : List Use) :
    let registry := (Registry.clean names).after uses
    (∀ level style, Use.lastSetting? uses = some (level, style) →
      registry.level = level ∧ registry.handlers = [style] ∧ registry.propagates = false) ∧
    (∀ name style error, (registry.change (Registry.setUp name style)).1 = .error error →
      (registry.change (Registry.setUp name style)).2 = registry) ∧
    (∀ name, (∃ use ∈ uses, use.AsksFor name) →
      registry.stampCount (loggerName (some name)) = 1) ∧
    (∀ level style event, Use.lastSetting? uses = some (level, style) →
      registry.hierarchy.isBelowBase event.logger = true → (registry.stamp event).Writable →
      ∃ text, registry.writeIn (registry.stamp event) style = .ok text ∧
        (registry.Recalls event.logger event.level ↔
          registry.write event =
            if (if level = 0 then .warning else level) ≤ event.level then text ++ "\n" else "")) ∧
    (∀ logger level, (Registry.clean names).Unmoved uses logger level →
      registry.Recalls logger level) ∧
    ∀ logger, Regular logger → registry.hierarchy.isBelowBase logger = true ∧
      ∀ level, (Registry.clean names).Unmoved uses logger level := by
  intro registry
  have hsettled : registry.Settled (Use.lastSetting? uses) :=
    Registry.settled_after_clean names uses
  refine ⟨fun level style hlast => ?_, fun name style error herror => ?_,
    fun name ⟨use, hmem, hasks⟩ => ?_, fun level style event hlast hbase hwritable => ?_,
    fun logger level hunmoved => Registry.recalls_after_of_unmoved rfl hunmoved,
    fun logger hregular => ?_⟩
  · rw [hlast] at hsettled
    exact hsettled
  · cases hname : Level.ofName name with
    | error error => rw [Registry.change_setUp_of_error registry hname]
    | ok level =>
      rw [Registry.change_setUp_of_ok registry hname] at herror
      cases herror
  · exact List.count_eq_one_of_mem (Registry.nodup_stamped_after List.nodup_nil uses)
      (Registry.mem_stamped_after hmem hasks _)
  · rw [hlast] at hsettled
    obtain ⟨text, htext⟩ := registry.exists_writeIn hwritable style
    exact ⟨text, htext, Registry.recalls_iff_write hsettled (Use.nonneg_of_lastSetting? hlast)
      hbase htext⟩
  · exact ⟨Hierarchy.isBelowBase_of_regular (Registry.ordered_after_clean names uses) hregular,
      Registry.unmoved_clean (.inl hregular) names uses⟩

/-- Logging that is set up twice, and between and behind it with a name of no level: the second
level and style are in force, and a logger asked for twice writes an event of that level. -/
theorem logging_after_settingUp_again :
    let registry := (Registry.clean ["."]).after
      [.setUp "info" "structured", .getLogger (some "loader"), .setUp "loud" "simple",
        .setCorrelation (some "night"), .setUp "Debug" "simple", .getLogger (some "loader"),
        .setUp "loud" "structured"]
    let event : Event := { logger := "sqlscript.loader", level := .debug, text := "read" }
    registry.handlers = [.plain] ∧
      (registry.change (Registry.setUp "verbose" "structured")).2 = registry ∧
      registry.stampCount "sqlscript.loader" = 1 ∧
      ∃ text, registry.writeIn (registry.stamp event) .plain = .ok text ∧
        registry.write event = text ++ "\n" := by
  intro registry event
  obtain ⟨hset, hkept, hstamps, hwrites, hunmoved, hregular⟩ := logging_after ["."]
    [.setUp "info" "structured", .getLogger (some "loader"), .setUp "loud" "simple",
      .setCorrelation (some "night"), .setUp "Debug" "simple", .getLogger (some "loader"),
      .setUp "loud" "structured"]
  have htime : (registry.stamp event).time = {} := rfl
  have hwritable : (registry.stamp event).Writable :=
    ⟨⟨.ofSeconds 0, by rw [htime]; rfl⟩, ⟨_, rfl⟩, ⟨_, rfl⟩⟩
  obtain ⟨hbase, hstands⟩ := hregular "sqlscript.loader" (by decide)
  obtain ⟨text, htext, hwritten⟩ := hwrites .debug .plain event rfl hbase hwritable
  exact ⟨(hset .debug .plain rfl).2.1, hkept "verbose" "structured" (.unknown "VERBOSE") rfl,
    hstamps "loader" ⟨_, List.mem_cons_of_mem _ List.mem_cons_self, .inl rfl⟩,
    text, htext, hwritten.1 (hunmoved _ _ (hstands .debug))⟩

/-- A level that was set up once does not go on to decide what is written: where none is set up
behind it, an event that reaches that is not written unless it is a warning. Nor does the level that
is set up decide it alone: a logger that came to stand below the base logger may remember that it
let nothing pass but warnings. -/
theorem not_forall_written_of_level_le :
    (¬ ∀ (uses : List Use) (level : Level) (style : Style) (event : Event),
      let registry := (Registry.clean []).after uses
      (∃ setting ∈ uses.filterMap Use.setting?, setting.1 ≠ 0) →
      Use.lastSetting? uses = some (level, style) →
      registry.hierarchy.isBelowBase event.logger = true →
      (registry.stamp event).Writable → level ≤ event.level →
      ∃ text, registry.write event = text ++ "\n") ∧
    ¬ ∀ (uses : List Use) (level : Level) (style : Style) (event : Event),
      let registry := (Registry.clean []).after uses
      Use.lastSetting? uses = some (level, style) → level ≠ 0 →
      registry.hierarchy.isBelowBase event.logger = true →
      (registry.stamp event).Writable → level ≤ event.level →
      ∃ text, registry.write event = text ++ "\n" := by
  constructor
  · intro h
    obtain ⟨text, htext⟩ := h [.setUp "INFO" "simple", .setUp "NOTSET" "simple"] 0 .plain
      { logger := "sqlscript", level := .info, text := "m" }
      ⟨(.info, .plain), by decide, by decide⟩ rfl rfl ⟨⟨.ofSeconds 0, rfl⟩, ⟨_, rfl⟩, ⟨_, rfl⟩⟩
      (by decide)
    have hnothing : ((Registry.clean []).after
        [.setUp "INFO" "simple", .setUp "NOTSET" "simple"]).write
        { logger := "sqlscript", level := .info, text := "m" } = "" := rfl
    rw [hnothing] at htext
    simpa using congrArg String.toList htext
  · intro h
    let event : Event := { logger := "sqlscript..x", level := .info, text := "m" }
    let uses : List Use := [.setUp "INFO" "simple", .log (some ".x") event, .getLogger (some "")]
    have hbase : ((Registry.clean []).after uses).hierarchy.isBelowBase "sqlscript..x" = true := by
      decide +kernel
    have htime : (((Registry.clean []).after uses).stamp event).time = {} := by decide +kernel
    obtain ⟨text, htext⟩ := h uses .info .plain event rfl (by decide) hbase
      ⟨⟨.ofSeconds 0, by rw [htime]; rfl⟩, ⟨_, rfl⟩, ⟨_, rfl⟩⟩ (by decide)
    have hnothing : ((Registry.clean []).after uses).write event = "" := by decide +kernel
    rw [hnothing] at htext
    simpa using congrArg String.toList htext

end ScriptReplay.Log
