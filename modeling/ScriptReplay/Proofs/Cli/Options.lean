import ScriptReplay.Cli.Request
import ScriptReplay.Proofs.Result

/-!
# Options in front of a command

Options of the main command, put in front of a command line, are read before it and change nothing
else about what it asks for (`read_append`). A command line can be had for every request to split
(`read_jsonArguments`).
-/

namespace ScriptReplay.Cli

/-- Puts options in front. -/
def Given.withOptions (given : Given) (options : List (String × String)) : Given :=
  { given with options := options ++ given.options }

namespace Command

/-- The value of an option of a kind and what is left behind it, by the text that is joined to its
name and the arguments behind it. A flag has no value; any other option has the joined text, or else
the next argument. -/
inductive Takes : OptionKind → Option String → List String → String → List String → Prop
  | flag (rest : List String) : Takes .flag none rest "" rest
  | joined {kind : OptionKind} (hkind : kind = .flag → False) (value : String)
    (rest : List String) : Takes kind (some value) rest value rest
  | separate {kind : OptionKind} (hkind : kind = .flag → False) (value : String)
    (rest : List String) : Takes kind none (value :: rest) value rest

variable {command : Command} {given : Given} {argument name value : String} {kind : OptionKind}
  {flags more rest : List String}

/-! ## One option -/

theorem parse_option (hend : ¬ (argument == "--") = true) (hform : ¬ (!isOption argument) = true)
    {joined : Option String} (hvalue : (splitValue argument).2 = joined)
    (hname : command.option? argument = some ⟨name, kind⟩)
    (htakes : Takes kind joined rest value more) :
    command.parse (argument :: rest) = (command.parse more).map (·.withOption name value) := by
  rw [parse.eq_def]
  simp only [if_neg hend, if_neg hform, hname, hvalue]
  cases htakes with
  | flag | joined | separate =>
    simp only
    cases command.parse more <;> rfl

theorem parse_dashes (rest : List String) :
    command.parse ("--" :: rest) = .ok { arguments := rest } := by
  rw [parse.eq_def]
  rfl

/-! ## Several options -/

/-- An option that is read in front of anything is read in front of other options, too. -/
theorem parse_append_step (front : List String)
    (hfront : ∀ s, command.parse (front ++ s) = (command.parse s).map (·.withOption name value))
    (ih : ∀ {given : Given}, command.parse more = .ok given → given.arguments = [] →
      command.parse (more ++ rest) = (command.parse rest).map (·.withOptions given.options))
    (h : (do return (← command.parse more).withOption name value) = .ok given)
    (hargs : given.arguments = []) :
    command.parse (front ++ more ++ rest) =
      (command.parse rest).map (·.withOptions given.options) := by
  cases hmore : command.parse more with
  | error error =>
    rw [hmore] at h
    cases h
  | ok tail =>
    rw [hmore] at h
    cases h
    rw [List.append_assoc, hfront, ih hmore hargs]
    cases command.parse rest <;> rfl

/-- What is read as options alone is read as these options in front of anything. -/
theorem parse_append (hend : "--" ∉ flags) (h : command.parse flags = .ok given)
    (hargs : given.arguments = []) :
    command.parse (flags ++ rest) = (command.parse rest).map (·.withOptions given.options) := by
  fun_induction command.parse flags generalizing given with
  | case1 =>
    cases h
    rw [List.nil_append]
    cases command.parse rest <;> rfl
  | case2 argument more hdashes =>
    exact absurd (List.mem_cons.2 (.inl (beq_iff_eq.1 hdashes).symm)) hend
  | case3 argument more _ _ _ ih =>
    cases hmore : command.parse more with
    | error error =>
      rw [hmore] at h
      cases h
    | ok tail =>
      rw [hmore] at h
      cases h
      exact absurd hargs (List.cons_ne_nil _ _)
  | case4 argument more =>
    cases h
    exact absurd hargs (List.cons_ne_nil _ _)
  | case5 | case6 | case9 => cases h
  | case7 argument hdashes hform name more hvalue hname ih =>
    have hfront (rest) := parse_option hdashes hform hvalue hname (.flag rest)
    exact parse_append_step [argument] hfront (ih fun h => hend (.tail _ h)) h hargs
  | case8 argument hdashes hform name kind value more hkind hvalue hname ih =>
    have hfront (rest) := parse_option hdashes hform hvalue hname (.joined hkind value rest)
    exact parse_append_step [argument] hfront (ih fun h => hend (.tail _ h)) h hargs
  | case10 argument hdashes hform name kind value more hkind hvalue hname ih =>
    have hfront (rest) := parse_option hdashes hform hvalue hname (.separate hkind value rest)
    exact parse_append_step [argument, value] hfront
      (ih fun h => hend (.tail _ (.tail _ h))) h hargs

/-- A name that is read as an option with a value behind it. -/
def TakesValue (command : Command) (name : String) : Prop :=
  ∃ kind, command.option? name = some ⟨name, kind⟩ ∧ kind ≠ .flag ∧ (splitValue name).2 = none ∧
    isOption name = true ∧ name ≠ "--"

/-- Options as they stand in a command line, each name before its value. -/
def written (options : List (String × String)) : List String :=
  options.flatMap fun option => [option.1, option.2]

theorem parse_written {options : List (String × String)}
    (h : ∀ option ∈ options, command.TakesValue option.1) (rest : List String) :
    command.parse (written options ++ rest) = (command.parse rest).map (·.withOptions options) := by
  induction options with
  | nil =>
    show command.parse rest = _
    cases command.parse rest <;> rfl
  | cons option options ih =>
    obtain ⟨⟨kind, hname, hkind, hvalue, hform, hend⟩, hmore⟩ := List.forall_mem_cons.1 h
    show command.parse (option.1 :: option.2 :: (written options ++ rest)) = _
    rw [parse_option (by simpa using hend) (by simp [hform]) hvalue hname
      (.separate hkind option.2 (written options ++ rest)), ih hmore]
    cases command.parse rest <;> rfl

end Command

/-! ## The values of options -/

section Values

variable {command : Command} {given : Given} {options : List (String × String)}

theorem Given.value?_withOptions (name : String) :
    (given.withOptions options).value? name =
      (given.value? name).or (({ options } : Given).value? name) := by
  rw [value?, withOptions, List.reverse_append, List.lookup_append]
  rfl

theorem Given.has_withOptions (name : String) :
    (given.withOptions options).has name = (({ options } : Given).has name || given.has name) :=
  List.any_append

theorem Given.mem_of_value? {name value : String} (h : given.value? name = some value) :
    ∃ option ∈ given.options, option.1 = name := by
  have hsome : (given.value? name).isSome = true := by rw [h, Option.isSome_some]
  obtain ⟨option, hmem, hname⟩ := List.lookup_isSome_iff.1 hsome
  exact ⟨option, List.mem_reverse.1 hmem, (beq_iff_eq.1 hname).symm⟩

theorem Command.checkChoice_congr {other : Given} {name : String}
    (h : other.value? name = given.value? name) :
    command.checkChoice other name = command.checkChoice given name := by
  unfold checkChoice
  rw [h]

theorem Command.checkChoice_eq_ok_of_value? {name : String} (h : given.value? name = none) :
    command.checkChoice given name = .ok () := by
  unfold checkChoice
  rw [h]
  split <;> trivial

theorem Command.forM_checkChoice_eq_ok {options : List (String × String)} :
    (options.forM fun option => command.checkChoice given option.1) = .ok () ↔
      ∀ option ∈ options, command.checkChoice given option.1 = .ok () := by
  induction options with
  | nil => exact ⟨fun _ => nofun, fun _ => rfl⟩
  | cons option options ih =>
    rw [List.forall_mem_cons, ← ih, List.forM_eq_forM, List.forM_cons]
    cases command.checkChoice given option.1 with
    | error error => exact ⟨nofun, fun h => nomatch h.1⟩
    | ok _ => exact ⟨fun h => ⟨rfl, h⟩, fun h => h.2⟩

/-- The options pass when every name does: a name that is not given has no value to be wrong. -/
theorem Command.checkChoices_eq_ok :
    command.checkChoices given = .ok () ↔ ∀ name, command.checkChoice given name = .ok () := by
  refine forM_checkChoice_eq_ok.trans ⟨fun h name => ?_, fun h option _ => h option.1⟩
  cases hvalue : given.value? name with
  | none => exact checkChoice_eq_ok_of_value? hvalue
  | some value =>
    obtain ⟨option, hmem, rfl⟩ := Given.mem_of_value? hvalue
    exact h option hmem

theorem Command.checkChoices_withOptions (hfront : command.checkChoices { options } = .ok ())
    (h : command.checkChoices given = .ok ()) :
    command.checkChoices (given.withOptions options) = .ok () := by
  rw [checkChoices_eq_ok] at hfront h ⊢
  intro name
  have hvalue : (given.withOptions options).value? name =
      (given.value? name).or (({ options } : Given).value? name) := Given.value?_withOptions name
  cases hgiven : given.value? name with
  | none =>
    rw [hgiven, Option.none_or] at hvalue
    rw [checkChoice_congr hvalue, hfront name]
  | some value =>
    rw [hgiven, Option.some_or, ← hgiven] at hvalue
    rw [checkChoice_congr hvalue, h name]

end Values

/-! ## What a command is given -/

section Given

variable {command : Command} {given : Given} {arguments flags : List String} {request : Request}

theorem ofUsage_eq_ok {α : Type} {result : Except UsageError α} {a : α} :
    ofUsage command result = .ok a ↔ result = .ok a := by
  cases result with
  | error error => exact ⟨nofun, nofun⟩
  | ok b => exact ⟨fun h => congrArg _ (Except.ok.inj h), fun h => congrArg _ (Except.ok.inj h)⟩

theorem givenTo_eq_ok :
    givenTo command arguments = .ok given ↔
      command.parse arguments = .ok given ∧ given.has "--help" = false ∧
        command.checkChoices given = .ok () := by
  unfold givenTo
  rw [bind_eq_ok]
  constructor
  · rintro ⟨parsed, hparse, h⟩
    rw [ofUsage_eq_ok] at hparse
    cases hhelp : parsed.has "--help" with
    | true =>
      rw [hhelp] at h
      cases h
    | false =>
      rw [hhelp] at h
      obtain ⟨_, hchoices, h⟩ := bind_eq_ok.1 h
      cases h
      exact ⟨hparse, hhelp, ofUsage_eq_ok.1 hchoices⟩
  · rintro ⟨hparse, hhelp, hchoices⟩
    refine ⟨given, ofUsage_eq_ok.2 hparse, ?_⟩
    rw [hhelp]
    exact bind_eq_ok.2 ⟨(), ofUsage_eq_ok.2 hchoices, rfl⟩

/-- Options that a command is given, and nothing else. -/
def GivesOptions (command : Command) (flags : List String) (options : List (String × String)) :
    Prop :=
  givenTo command flags = .ok { options } ∧ "--" ∉ flags

theorem GivesOptions.givenTo_append {options : List (String × String)}
    (hflags : GivesOptions command flags options) (h : givenTo command arguments = .ok given) :
    givenTo command (flags ++ arguments) = .ok (given.withOptions options) := by
  obtain ⟨hfront, hend⟩ := hflags
  obtain ⟨hfront, hnoHelp, hchoices⟩ := givenTo_eq_ok.1 hfront
  obtain ⟨hparse, hhelp, hrest⟩ := givenTo_eq_ok.1 h
  refine givenTo_eq_ok.2 ⟨?_, ?_, Command.checkChoices_withOptions hchoices hrest⟩
  · rw [Command.parse_append hend hfront rfl, hparse]
    rfl
  · rw [Given.has_withOptions, hnoHelp, hhelp, Bool.or_false]

end Given

/-! ## Requests -/

section Requests

variable {arguments flags : List String} {request : Request} {logging : Logging}

/-- The same request with other logging. -/
def Request.withLogging (request : Request) (logging : Logging) : Request :=
  { request with logging }

/-- The logging that the options of the main command ask for. -/
def Given.asksLogging (given : Given) : Logging :=
  { verbose := given.has "--verbose"
    format := (given.value? "--log-format").getD "simple" }

theorem readSplit_withLogging (h : readSplit logging arguments = .ok request) (other : Logging) :
    readSplit other arguments = .ok (request.withLogging other) := by
  unfold readSplit at h ⊢
  obtain ⟨given, hgiven, h⟩ := bind_eq_ok.1 h
  refine bind_eq_ok.2 ⟨given, hgiven, ?_⟩
  cases hargs : given.arguments with
  | nil =>
    rw [hargs] at h
    cases h
  | cons path rest =>
    simp only [hargs] at h ⊢
    by_cases hnul : path.toList.contains '\x00' = true
    · rw [if_pos hnul] at h
      cases h
    · rw [if_neg hnul] at h ⊢
      cases rest with
      | nil =>
        cases h
        rfl
      | cons _ _ => cases h

theorem read_eq_ok :
    read arguments = .ok request ↔ arguments ≠ [] ∧ ∃ given rest,
      givenTo mainCommand arguments = .ok given ∧ given.arguments = "split" :: rest ∧
        readSplit given.asksLogging rest = .ok request := by
  cases arguments with
  | nil => exact ⟨nofun, fun h => absurd rfl h.1⟩
  | cons argument more =>
    refine Iff.trans (b := ∃ given, givenTo mainCommand (argument :: more) = .ok given ∧ _)
      bind_eq_ok ?_
    constructor
    · rintro ⟨given, hgiven, h⟩
      refine ⟨List.cons_ne_nil _ _, given, ?_⟩
      cases hargs : given.arguments with
      | nil =>
        rw [hargs] at h
        cases h
      | cons name rest =>
        simp only [hargs] at h
        by_cases hname : commandNames.contains name = true
        · rw [if_pos hname] at h
          have hsplit : name = "split" := by simpa [commandNames] using hname
          exact ⟨rest, hgiven, by rw [hsplit], h⟩
        · rw [if_neg hname] at h
          split at h
          · obtain ⟨_, _, h⟩ := bind_eq_ok.1 h
            cases h
          · cases h
    · rintro ⟨-, given, rest, hgiven, hargs, h⟩
      refine ⟨given, hgiven, ?_⟩
      rw [hargs]
      exact h

/-- Options that ask for a verbose log, and nothing else. -/
def AsksVerbose (flags : List String) : Prop :=
  ∃ options, GivesOptions mainCommand flags options ∧ ({ options } : Given).has "--verbose" = true

/-- A request stays the same behind options that ask for a verbose log, except that it does. -/
theorem AsksVerbose.read_append (hflags : AsksVerbose flags) (h : read arguments = .ok request) :
    ∃ logging, logging.verbose = true ∧
      read (flags ++ arguments) = .ok (request.withLogging logging) := by
  obtain ⟨options, hoptions, hverbose⟩ := hflags
  obtain ⟨hne, given, rest, hgiven, hargs, hsplit⟩ := read_eq_ok.1 h
  refine ⟨(given.withOptions options).asksLogging, ?_, read_eq_ok.2 ⟨?_, _, rest,
    hoptions.givenTo_append hgiven, hargs, readSplit_withLogging hsplit _⟩⟩
  · rw [Given.asksLogging, Given.has_withOptions, hverbose, Bool.true_or]
  · exact List.append_ne_nil_of_right_ne_nil _ hne

theorem asksVerbose_logFormat {format : String} (h : format ∈ ["simple", "structured"]) :
    AsksVerbose ["--verbose", "--log-format", format] := by
  refine ⟨[("--verbose", ""), ("--log-format", format)], ?_, rfl⟩
  simp only [List.mem_cons, List.not_mem_nil, or_false] at h
  rcases h with rfl | rfl <;> exact ⟨by rfl, by decide⟩

/-- The options that ask for the statements of a script as JSON. -/
def jsonOptions (database encoding : String) (delimiter : Option String) :
    List (String × String) :=
  [("--dialect", database), ("--encoding", encoding)]
    ++ (delimiter.toList.map fun pattern => ("--delimiter", pattern)) ++ [("--format", "json")]

/-- A command line with these options. -/
def jsonArguments (path database encoding : String) (delimiter : Option String) : List String :=
  "split" :: Command.written (jsonOptions database encoding delimiter) ++ ["--", path]

theorem takesValue_jsonOptions (database encoding : String) (delimiter : Option String) :
    ∀ option ∈ jsonOptions database encoding delimiter, splitCommand.TakesValue option.1 := by
  have hall : ∀ name ∈ ["--dialect", "--encoding", "--delimiter", "--format"],
      splitCommand.TakesValue name := by
    intro name hname
    simp only [List.mem_cons, List.not_mem_nil, or_false] at hname
    rcases hname with rfl | rfl | rfl | rfl <;> exact ⟨_, rfl, by decide, by decide⟩
  have hnames : (jsonOptions database encoding delimiter).map Prod.fst ⊆
      ["--dialect", "--encoding", "--delimiter", "--format"] := by
    cases delimiter with
    | none => exact List.cons_subset_cons _ (List.cons_subset_cons _ (List.subset_cons_self _ _))
    | some pattern => exact List.Subset.refl _
  intro option hoption
  exact hall _ (hnames (List.mem_map_of_mem hoption))

theorem givenTo_jsonArguments (path database encoding : String) (delimiter : Option String) :
    givenTo splitCommand (jsonArguments path database encoding delimiter).tail =
      .ok { options := jsonOptions database encoding delimiter, arguments := [path] } := by
  rw [givenTo_eq_ok]
  refine ⟨?_, ?_⟩
  · have hparse := Command.parse_written (takesValue_jsonOptions database encoding delimiter)
      ["--", path]
    rw [Command.parse_dashes, Except.map, Given.withOptions, List.append_nil] at hparse
    exact hparse
  · cases delimiter <;> exact ⟨by rfl, by rfl⟩

/-- Whatever the path, the names and the pattern are, there is a command line with them. -/
theorem read_jsonArguments {path : String} (hpath : path.toList.contains '\x00' = false)
    (database encoding : String) (delimiter : Option String) :
    read (jsonArguments path database encoding delimiter) =
      .ok { logging := ⟨false, "simple"⟩, path, database, delimiter, encoding, json := true } := by
  have hgiven := givenTo_jsonArguments path database encoding delimiter
  refine read_eq_ok.2 ⟨List.cons_ne_nil _ _, { arguments := jsonArguments _ _ _ _ }, _, rfl, rfl,
    bind_eq_ok.2 ⟨_, hgiven, ?_⟩⟩
  simp only [hpath]
  cases delimiter <;> rfl

end Requests

end ScriptReplay.Cli
