import CallGraph.CommandLine.Options

/-!
# Arguments and what they give

Arguments that are understood are archives, switches and options with their values, one after the
other, up to the end or to the two hyphens that end the options.  What was given before decides only
whether an option may be given once more.  Therefore an output may be added wherever an option may
stand, and it changes nothing else.
-/

namespace CallGraph

namespace CommandLine

/-- Arguments that set an option to a value. -/
inductive Setting : List String → ValueOption → String → Prop where
  /-- The value stands behind an equals sign. -/
  | joined {argument name value : String} {option : ValueOption}
      (form : Form.of argument = .long name (some value))
      (named : ValueOption.ofName? name = some option) : Setting [argument] option value
  /-- The value is the next argument. -/
  | apart {argument name value : String} {option : ValueOption}
      (form : Form.of argument = .long name none) (plain : Form.of value = .operand)
      (named : ValueOption.ofName? name = some option) : Setting [argument, value] option value

/-- Arguments that add to the options that were given before. -/
inductive Gives : Options → List String → Options → Prop where
  | nothing (options : Options) : Gives options [] options
  | archive {options next last : Options} {argument : String} {rest : List String}
      (form : Form.of argument = .operand) (added : options.addArchive argument = some next)
      (later : Gives next rest last) : Gives options (argument :: rest) last
  | value {options next last : Options} {words rest : List String} {option : ValueOption}
      {value : String} (setting : Setting words option value)
      (set : options.setValue value option = some next) (later : Gives next rest last) :
      Gives options (words ++ rest) last
  | quiet {options last : Options} {argument name : String} {rest : List String}
      (form : Form.of argument = .long name none) (named : Switch.ofName? name = some .quiet)
      (first : options.quiet = false) (later : Gives { options with quiet := true } rest last) :
      Gives options (argument :: rest) last
  | timing {options last : Options} {argument name : String} {rest : List String}
      (form : Form.of argument = .long name none) (named : Switch.ofName? name = some .timing)
      (first : options.timing = false) (later : Gives { options with timing := true } rest last) :
      Gives options (argument :: rest) last

theorem setting_output (path : String) : Setting ["--output=" ++ path] .output path := by
  have form : Form.of ("--output=" ++ path) = .long "output" (some path) := by
    simp [Form.of, String.toList_append]
  exact .joined form rfl

/-- No option is a switch and takes a value. -/
theorem Switch.ofName?_eq_none {name : String} {option : ValueOption}
    (named : ValueOption.ofName? name = some option) : Switch.ofName? name = none := by
  unfold ValueOption.ofName? at named
  split at named
  · decide
  · decide
  · decide
  · contradiction

variable {options next last result : Options} {arguments words rest : List String}

theorem Setting.readArguments_append {option : ValueOption} {value : String}
    (setting : Setting words option value) (set : options.setValue value option = some next)
    (rest : List String) : readArguments options (words ++ rest) = readArguments next rest := by
  cases setting with
  | joined form named =>
      rw [List.singleton_append, readArguments]
      simp only [form, named, Option.bind_some, set]
  | apart form plain named =>
      rw [List.cons_append, List.singleton_append, readArguments]
      simp only [form, Switch.ofName?_eq_none named, named, plain, set]

/-- Arguments are read on from the options that those in front have given. -/
theorem Gives.readArguments_append (gives : Gives options words last) (rest : List String) :
    readArguments options (words ++ rest) = readArguments last rest := by
  induction gives with
  | nothing => rfl
  | archive form added later ih =>
      rw [List.cons_append, readArguments, ← ih]
      simp only [form, added]
  | value setting set later ih =>
      rw [List.append_assoc, setting.readArguments_append set, ih]
  | quiet form named first later ih =>
      rw [List.cons_append, readArguments, ← ih]
      simp only [form, named, first, Bool.false_eq_true, if_false]
  | timing form named first later ih =>
      rw [List.cons_append, readArguments, ← ih]
      simp only [form, named, first, Bool.false_eq_true, if_false]

/-- Arguments that are understood give options one after the other, and possibly archives behind two
hyphens. -/
theorem exists_gives (read : readArguments options arguments = .run result) :
    ∃ words next, Gives options words next ∧
      (arguments = words ∧ next.finish = .run result ∨
        ∃ separator paths, Form.of separator = .separator ∧
          arguments = words ++ separator :: paths ∧ readArchives next paths = .run result) := by
  fun_induction readArguments options arguments with
  | case1 options => exact ⟨[], options, .nothing options, .inl ⟨rfl, read⟩⟩
  | case2 options separator paths form =>
      exact ⟨[], options, .nothing options, .inr ⟨separator, paths, form, rfl, read⟩⟩
  | case4 options argument rest form next added ih =>
      obtain ⟨words, last, gives, split⟩ := ih read
      refine ⟨argument :: words, last, .archive form added gives, ?_⟩
      simpa using split
  | case10 options argument rest name value form next bound ih =>
      obtain ⟨option, named, set⟩ := Option.bind_eq_some_iff.mp bound
      obtain ⟨words, last, gives, split⟩ := ih read
      refine ⟨argument :: words, last, .value (.joined form named) set gives, ?_⟩
      simpa using split
  | case14 options argument name form rest named first ih =>
      obtain ⟨words, last, gives, split⟩ := ih read
      refine ⟨argument :: words, last, .quiet form named (by simpa using first) gives, ?_⟩
      simpa using split
  | case16 options argument name form rest named first ih =>
      obtain ⟨words, last, gives, split⟩ := ih read
      refine ⟨argument :: words, last, .timing form named (by simpa using first) gives, ?_⟩
      simpa using split
  | case19 options argument name form value rest noSwitch option plain named next set ih =>
      obtain ⟨words, last, gives, split⟩ := ih read
      refine ⟨argument :: value :: words, last, .value (.apart form plain named) set gives, ?_⟩
      simpa using split
  | _ => contradiction

/-! ## Options with an output -/

/-- The same options with an output. -/
def Options.sendingTo (options : Options) (path : String) : Options :=
  { options with output := some path }

variable (path : String)

theorem Options.addArchive_sendingTo {archive : String}
    (added : options.addArchive archive = some next) :
    (options.sendingTo path).addArchive archive = some (next.sendingTo path) ∧
      next.output = options.output := by
  rw [addArchive] at added ⊢
  split at added
  · contradiction
  · next filled =>
    cases added
    exact ⟨if_neg filled, rfl⟩

/-- An option is set without regard to the output, unless it is the output itself. -/
theorem Options.setValue_sendingTo {value : String} {option : ValueOption}
    (set : options.setValue value option = some next) (free : next.output = .none) :
    (options.sendingTo path).setValue value option = some (next.sendingTo path) ∧
      options.output = .none := by
  cases option with
  | patterns =>
      simp only [setValue, sendingTo] at set ⊢
      split at set
      · contradiction
      · next unset =>
        cases set
        exact ⟨if_neg unset, free⟩
  | output =>
      simp only [setValue] at set
      split at set
      · contradiction
      · cases set
        contradiction
  | jobs =>
      simp only [setValue, sendingTo] at set ⊢
      split at set
      · contradiction
      · next unset =>
        obtain ⟨number, read, rfl⟩ := Option.map_eq_some_iff.mp set
        exact ⟨by simp [unset, read], free⟩

theorem Options.finish_sendingTo (finished : options.finish = .run result) :
    (options.sendingTo path).finish = .run (result.sendingTo path) ∧
      result.output = options.output := by
  rw [finish] at finished ⊢
  split at finished
  · contradiction
  · next filled =>
    cases finished
    exact ⟨if_neg filled, rfl⟩

theorem readArchives_sendingTo {paths : List String}
    (read : readArchives options paths = .run result) :
    readArchives (options.sendingTo path) paths = .run (result.sendingTo path) ∧
      result.output = options.output := by
  induction paths generalizing options with
  | nil => exact Options.finish_sendingTo path read
  | cons archive paths ih =>
      rw [readArchives] at read ⊢
      cases added : options.addArchive archive with
      | none =>
          rw [added] at read
          contradiction
      | some next =>
          rw [added] at read
          obtain ⟨addedToo, kept⟩ := Options.addArchive_sendingTo path added
          obtain ⟨later, same⟩ := ih read
          rw [addedToo]
          exact ⟨later, same.trans kept⟩

/-- Arguments that give no output give the same to options with an output. -/
theorem Gives.sendingTo (gives : Gives options words last) (free : last.output = none) :
    Gives (options.sendingTo path) words (last.sendingTo path) ∧ options.output = none := by
  induction gives with
  | nothing options => exact ⟨.nothing _, free⟩
  | archive form added later ih =>
      obtain ⟨gives, unset⟩ := ih free
      obtain ⟨added, kept⟩ := Options.addArchive_sendingTo path added
      exact ⟨.archive form added gives, kept ▸ unset⟩
  | value setting set later ih =>
      obtain ⟨gives, unset⟩ := ih free
      obtain ⟨set, unset⟩ := Options.setValue_sendingTo path set unset
      exact ⟨.value setting set gives, unset⟩
  | quiet form named first later ih =>
      obtain ⟨gives, unset⟩ := ih free
      exact ⟨.quiet form named first gives, unset⟩
  | timing form named first later ih =>
      obtain ⟨gives, unset⟩ := ih free
      exact ⟨.timing form named first gives, unset⟩

/-- Arguments that do without an output are read in the same way after an output was given. -/
theorem readArguments_sendingTo (read : readArguments options arguments = .run result)
    (free : result.output = none) :
    readArguments (options.sendingTo path) arguments = .run (result.sendingTo path) ∧
      options.output = none := by
  obtain ⟨words, next, gives, ⟨rfl, finished⟩ | ⟨separator, paths, form, rfl, archives⟩⟩ :=
    exists_gives read
  · obtain ⟨finished, same⟩ := Options.finish_sendingTo path finished
    obtain ⟨gives, unset⟩ := gives.sendingTo path (same ▸ free)
    have followed := gives.readArguments_append []
    rw [List.append_nil] at followed
    exact ⟨followed.trans finished, unset⟩
  · obtain ⟨archives, same⟩ := readArchives_sendingTo path archives
    obtain ⟨gives, unset⟩ := gives.sendingTo path (same ▸ free)
    refine ⟨?_, unset⟩
    rw [gives.readArguments_append, readArguments]
    simp only [form, archives]

/-- Arguments with an output in addition, wherever an option may stand. -/
inductive AddsOutput (path : String) : List String → List String → Prop where
  | insert {front words back : List String} {given : Options} (gives : Gives .none front given)
      (setting : Setting words .output path) :
      AddsOutput path (front ++ back) (front ++ (words ++ back))

theorem addsOutput_cons (path : String) (arguments : List String) :
    AddsOutput path arguments (("--output=" ++ path) :: arguments) :=
  .insert (.nothing .none) (setting_output path)

variable {path : String}

/-- The output is all that such arguments change. -/
theorem AddsOutput.ofArguments_eq {redirected : List String}
    (adds : AddsOutput path arguments redirected) (filled : path ≠ "")
    (parsed : Invocation.ofArguments arguments = .run options) (free : options.output = none) :
    Invocation.ofArguments redirected = .run (options.sendingTo path) := by
  cases adds with
  | insert gives setting =>
      rw [Invocation.ofArguments, gives.readArguments_append] at parsed ⊢
      obtain ⟨later, unset⟩ := readArguments_sendingTo path parsed free
      rw [setting.readArguments_append, later]
      simp [Options.setValue, Options.sendingTo, unset, filled]

end CommandLine

end CallGraph
