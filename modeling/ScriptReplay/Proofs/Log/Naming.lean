import ScriptReplay.Proofs.Log.Registry

/-!
# Loggers by name

The logger that is asked for by a name has the base logger's name or one that goes on with a dot
behind it, unless the name begins like the base logger's and then goes on without a dot (`Stray`):
such a name is taken as it is. What a stray logger logs reaches no handler, however logging is set
up. What a regular one logs always does. A logger whose name goes on with two dots behind the base
logger's may stand below it or not, so what it logs may be lost as well (`logging_by_name`).
-/

namespace ScriptReplay.Log

/-! ## The names of loggers -/

theorem loggerName_eq_self {name : String} (h : baseName.toList <+: name.toList) :
    loggerName (some name) = name :=
  if_pos (List.isPrefixOf_iff_prefix.2 h)

theorem loggerName_eq_partName {name : String} (h : ¬ baseName.toList <+: name.toList) :
    loggerName (some name) = partName name :=
  if_neg (mt List.isPrefixOf_iff_prefix.1 h)

theorem toList_partName (part : String) :
    (partName part).toList = (baseName ++ ".").toList ++ part.toList :=
  String.toList_append ..

theorem begins_loggerName (name : String) :
    baseName.toList <+: (loggerName (some name)).toList := by
  by_cases hbegins : baseName.toList <+: name.toList
  · rwa [loggerName_eq_self hbegins]
  · rw [loggerName_eq_partName hbegins, toList_partName, toList_dot, List.append_assoc]
    exact List.prefix_append _ _

theorem stray_loggerName_iff (name : String) : Stray (loggerName (some name)) ↔ Stray name := by
  by_cases hbegins : baseName.toList <+: name.toList
  · rw [loggerName_eq_self hbegins]
  · rw [loggerName_eq_partName hbegins]
    refine iff_of_false ?_ fun hstray => hbegins hstray.1
    rintro ⟨-, -, hnoDot⟩
    exact hnoDot ⟨name.toList, (toList_partName name).symm⟩

/-- All names but the stray ones are put below the base logger. -/
theorem exists_partName_iff (name : String) :
    (loggerName (some name) = baseName ∨ ∃ part, loggerName (some name) = partName part) ↔
      ¬ Stray name := by
  rw [← stray_loggerName_iff]
  have hbegins := begins_loggerName name
  generalize loggerName (some name) = logger at hbegins
  constructor
  · rintro (rfl | ⟨part, rfl⟩) ⟨-, hne, hnoDot⟩
    · exact hne rfl
    · exact hnoDot ⟨part.toList, (toList_partName part).symm⟩
  · intro hstray
    by_cases hbase : logger = baseName
    · exact .inl hbase
    · obtain ⟨rest, hrest⟩ := not_not.1 fun hnoDot => hstray ⟨hbegins, hbase, hnoDot⟩
      refine .inr ⟨String.ofList rest, String.toList_injective ?_⟩
      rw [toList_partName, String.toList_ofList, hrest]

/-- A logger that can be asked for and is neither regular nor stray goes on with two dots. -/
theorem begins_dots_of_not_regular {name : String} (hregular : ¬ Regular (loggerName (some name)))
    (hstray : ¬ Stray name) : (baseName ++ "..").toList <+: (loggerName (some name)).toList := by
  rw [← stray_loggerName_iff] at hstray
  have hbegins := begins_loggerName name
  unfold Regular Stray at *
  tauto

namespace Registry

variable {registry : Registry} {event : Event} {logger : String}

/-- A stamp gives an event the time, and may give it the correlation id in force. -/
theorem stamp_eq (registry : Registry) (event : Event) :
    registry.stamp event = { event with
      time := registry.time
      correlation :=
        if registry.stamped.contains event.logger then registry.correlation
        else event.correlation } := by
  unfold stamp
  dsimp only
  split <;> rfl

/-! ## What loggers elsewhere write -/

theorem handlersFor_of_not_isBelowBase (helse : registry.hierarchy.isBelowBase logger = false) :
    registry.handlersFor logger = [] := by
  rw [handlersFor, helse]
  rfl

/-- Loggers elsewhere decide by the level of warnings, whatever level is set up. -/
theorem decides_iff_of_not_isBelowBase (helse : registry.hierarchy.isBelowBase logger = false)
    (level : Level) : registry.decides logger level = true ↔ .warning ≤ level := by
  have hthreshold : registry.threshold logger = .warning := by
    rw [threshold, helse]
    rfl
  rw [decides, hthreshold, Bool.and_eq_true, decide_eq_true_iff, decide_eq_true_iff]
  exact ⟨And.right, fun h => ⟨Int.lt_of_lt_of_le (by decide) h, h⟩⟩

/-- No handler sees what a logger elsewhere logs. Of a warning or what is graver the bare message is
written, and of the rest nothing. -/
theorem write_of_not_isBelowBase [Zone]
    (helse : registry.hierarchy.isBelowBase event.logger = false)
    (hrecalls : registry.Recalls event.logger event.level) :
    registry.write event = if .warning ≤ event.level then lineOf event.bare else "" := by
  have hlets : registry.lets event.logger event.level = true ↔ Level.warning ≤ event.level := by
    rw [recalls_iff.1 hrecalls]
    exact decides_iff_of_not_isBelowBase helse event.level
  unfold write
  dsimp only
  by_cases hreached : Level.warning ≤ event.level
  · rw [if_pos (hlets.2 hreached), stamp_logger, handlersFor_of_not_isBelowBase helse, stamp_eq]
    rfl
  · rw [if_neg (mt hlets.1 hreached), if_neg hreached]

end Registry

/-! ## Logging by name -/

/-- However logging is set up with a level other than none, an event that reaches the level and is
logged by the name is seen by the one handler and written in its style, once. -/
def AlwaysWritten (name : String) : Prop :=
  ∀ [Zone] (names : List String) (uses : List Use) (level : Level) (style : Style) (event : Event),
    Use.lastSetting? uses = some (level, style) → level ≠ 0 → level ≤ event.level →
    let before := (Registry.clean names).after uses
    let registry := (before.getLogger (some name)).2
    let made := registry.stamp { event with logger := loggerName (some name) }
    made.Writable →
      registry.handlersFor made.logger = [style] ∧
        ∃ text, registry.writeIn made style = .ok text ∧
          (before.log (some name) event).1 = text ++ "\n"

/-- However logging is set up, no handler sees an event that is logged by the name. If it is a
warning or graver its bare message is written, and else nothing. -/
def NeverWritten (name : String) : Prop :=
  ∀ [Zone] (names : List String) (uses : List Use) (event : Event),
    let before := (Registry.clean names).after uses
    let registry := (before.getLogger (some name)).2
    registry.handlersFor (loggerName (some name)) = [] ∧
      (before.log (some name) event).1 =
        if .warning ≤ event.level then Registry.lineOf event.bare else ""

section Asked

variable {logger : String} (names : List String) (uses : List Use) (name : Option String)

/-- Asking for a logger is one use more. -/
theorem Registry.getLogger_after (registry : Registry) :
    ((registry.after uses).getLogger name).2 = registry.after (uses ++ [.getLogger name]) := by
  rw [after_append]
  rfl

theorem Registry.ordered_getLogger_after :
    (((clean names).after uses).getLogger name).2.hierarchy.Ordered := by
  rw [getLogger_after]
  exact ordered_after_clean names _

theorem Registry.recalls_getLogger_after (hlogger : Regular logger ∨ Stray logger) (level : Level) :
    (((clean names).after uses).getLogger name).2.Recalls logger level := by
  rw [getLogger_after]
  exact recalls_after_of_unmoved rfl (unmoved_clean hlogger names _ level)

end Asked

theorem alwaysWritten_of_regular {name : String} (h : Regular (loggerName (some name))) :
    AlwaysWritten name := by
  intro zone names uses level style event hlast hlevel hreached before registry made hwritable
  have hordered : registry.hierarchy.Ordered := Registry.ordered_getLogger_after names uses _
  have hbase := Hierarchy.isBelowBase_of_regular hordered h
  have hsettled : registry.Settled (some (level, style)) := by
    rw [← hlast]
    exact (Registry.settled_after_clean names uses).getLogger (some name)
  have hhandlers : registry.handlers = [style] := hsettled.2.1
  have hrecalls : registry.Recalls (loggerName (some name)) event.level :=
    Registry.recalls_getLogger_after names uses _ (.inl h) _
  obtain ⟨text, htext⟩ := registry.exists_writeIn hwritable style
  let logged : Event := { event with logger := loggerName (some name) }
  have hlog : (before.log (some name) event).1 = registry.write logged := rfl
  have hwritten : registry.Recalls logged.logger logged.level ↔ registry.write logged = _ :=
    Registry.recalls_iff_write hsettled (Use.nonneg_of_lastSetting? hlast) hbase htext
  refine ⟨?_, text, htext, ?_⟩
  · rw [show made.logger = loggerName (some name) from Registry.stamp_logger ..,
      Registry.handlersFor_of_isBelowBase hbase, hhandlers]
  · rw [hlog, hwritten.1 hrecalls, if_neg hlevel, if_pos hreached]

theorem neverWritten_of_stray {name : String} (h : Stray name) : NeverWritten name := by
  intro zone names uses event before registry
  have hordered : registry.hierarchy.Ordered := Registry.ordered_getLogger_after names uses _
  have hlogger : Stray (loggerName (some name)) := (stray_loggerName_iff name).2 h
  have helse := Hierarchy.isBelowBase_of_stray hordered hlogger
  exact ⟨Registry.handlersFor_of_not_isBelowBase helse,
    Registry.write_of_not_isBelowBase helse
      (Registry.recalls_getLogger_after names uses _ (.inr hlogger) _)⟩

/-! ## Where the logger that ends in two dots is there -/

section Dotted

/-- Logging is set up, and the logger that ends in two dots was asked for before. -/
def dotted : Registry :=
  (Registry.clean ["."]).after [.setUp "INFO" "simple"]

theorem dotted_eq : dotted =
    { Registry.clean ["."] with level := .info, handlers := [.plain], propagates := false } := by
  unfold dotted Registry.after
  rw [List.foldl_cons, List.foldl_nil, Registry.next,
    Registry.change_setUp_of_ok _ (show Level.ofName "INFO" = .ok .info from rfl)]
  rfl

/-- No logger that is not regular stands below the base logger there. -/
theorem not_isBelowBase_dotted {name : String} (h : ¬ Regular (loggerName (some name))) :
    (dotted.getLogger (some name)).2.hierarchy.isBelowBase (loggerName (some name)) = false := by
  by_cases hstray : Stray name
  · exact Hierarchy.isBelowBase_of_stray
      (Registry.ordered_getLogger_after _ _ _) ((stray_loggerName_iff name).2 hstray)
  · have hhierarchy : dotted.hierarchy = .of [baseName ++ ".."] := by
      rw [dotted_eq]
      decide +kernel
    rw [Registry.getLogger_eq, hhierarchy]
    exact Hierarchy.isBelowBase_of_dots (begins_dots_of_not_regular h hstray)

theorem regular_of_alwaysWritten {name : String} (h : AlwaysWritten name) :
    Regular (loggerName (some name)) := by
  by_contra hregular
  have htime : ∀ event : Event, ((dotted.getLogger (some name)).2.stamp event).time = {} := by
    intro event
    rw [Registry.stamp_eq, Registry.getLogger_eq, dotted_eq]
    rfl
  have hwritable : ((dotted.getLogger (some name)).2.stamp
      { logger := loggerName (some name), level := .info, text := "m" }).Writable := by
    refine ⟨⟨.ofSeconds 0, by rw [htime]; rfl⟩, ?_, ?_⟩
    · rw [Registry.stamp_eq]
      exact ⟨_, rfl⟩
    · rw [Registry.stamp_eq]
      exact ⟨_, rfl⟩
  obtain ⟨hseen, -⟩ := h ["."] [.setUp "INFO" "simple"] .info .plain
    { logger := "", level := .info, text := "m" } rfl (by decide) (by decide) hwritable
  have hnone : (dotted.getLogger (some name)).2.handlersFor (loggerName (some name)) = [] :=
    Registry.handlersFor_of_not_isBelowBase (not_isBelowBase_dotted hregular)
  rw [Registry.stamp_logger] at hseen
  cases hnone.symm.trans hseen

end Dotted

/-- The logger that is asked for by a name is the base logger or has a name below it exactly if the
name is not stray. It always stands below the base logger, and events that reach the level that is
set up are always seen by the one handler and written in its style, once, exactly if it is regular.
If the name is stray, no handler ever sees an event. -/
theorem logging_by_name (name : String) :
    ((loggerName (some name) = baseName ∨ ∃ part, loggerName (some name) = partName part) ↔
      ¬ Stray name) ∧
    ((∀ names uses, (((Registry.clean names).after uses).getLogger
        (some name)).2.hierarchy.isBelowBase (loggerName (some name)) = true) ↔
      Regular (loggerName (some name))) ∧
    (AlwaysWritten name ↔ Regular (loggerName (some name))) ∧
    (Stray name → NeverWritten name) := by
  refine ⟨exists_partName_iff name, ⟨fun h => ?_, fun h names uses => ?_⟩,
    ⟨regular_of_alwaysWritten, alwaysWritten_of_regular⟩, neverWritten_of_stray⟩
  · by_contra hregular
    exact Bool.false_ne_true
      ((not_isBelowBase_dotted hregular).symm.trans (h ["."] [.setUp "INFO" "simple"]))
  · exact Hierarchy.isBelowBase_of_regular
      (Registry.ordered_getLogger_after names uses _) h

/-- A name without the base logger's in front, one that begins with a dot, and one that only begins
like the base logger's: of events that reach the level, those of the first are written in the
handler's style, those of the second may be lost, and those of the third are, unless they are
warnings. -/
theorem logging_by_name_loader_and_stray :
    let registry := (Registry.clean ["."]).after
      [.setUp "debug" "simple", .setUp "Info" "structured"]
    let event : Event := { logger := "", level := .info, text := "read" }
    (∃ part, loggerName (some "loader") = partName part) ∧
      (∃ text, (registry.log (some "loader") event).1 = text ++ "\n") ∧
      ¬ AlwaysWritten ".x" ∧
      Stray "sqlscriptx" ∧ (registry.log (some "sqlscriptx") event).1 = "" := by
  intro registry event
  have hlast : Use.lastSetting? [.setUp "debug" "simple", .setUp "Info" "structured"] =
      some (.info, .structured) := rfl
  obtain ⟨hname, -, hwritten, -⟩ := logging_by_name "loader"
  obtain ⟨-, -, hlost, -⟩ := logging_by_name ".x"
  obtain ⟨-, -, -, hnever⟩ := logging_by_name "sqlscriptx"
  have hdated : momentOf {} = .ok (.ofSeconds 0) := rfl
  have hstray : Stray "sqlscriptx" := by decide
  obtain ⟨-, text, -, htext⟩ := hwritten.2 (by decide) ["."]
    [.setUp "debug" "simple", .setUp "Info" "structured"] .info .structured event hlast
    (by decide) (by decide) ⟨⟨_, hdated⟩, ⟨_, rfl⟩, ⟨_, rfl⟩⟩
  exact ⟨(hname.2 (by decide)).resolve_left (by decide), ⟨text, htext⟩,
    fun halways => absurd (hlost.1 halways) (by decide), hstray,
    (hnever hstray ["."] [.setUp "debug" "simple", .setUp "Info" "structured"] event).2⟩

/-- A name that begins like the base logger's and goes on without a dot is a logger elsewhere, whose
events are lost. -/
theorem not_forall_written_by_name :
    ¬ ∀ name, (loggerName (some name) = baseName ∨
        ∃ part, loggerName (some name) = partName part) ∧ AlwaysWritten name := by
  intro h
  obtain ⟨-, text, -, htext⟩ := (h "sqlscriptx").2 [] [.setUp "INFO" "simple"] .info .plain
    { logger := "", level := .info, text := "m" } rfl (by decide) (by decide)
    ⟨⟨.ofSeconds 0, rfl⟩, ⟨_, rfl⟩, ⟨_, rfl⟩⟩
  have hnothing : (((Registry.clean []).after [.setUp "INFO" "simple"]).log (some "sqlscriptx")
      { logger := "", level := .info, text := "m" }).1 = "" := rfl
  rw [hnothing] at htext
  simpa using congrArg String.toList htext

end ScriptReplay.Log
