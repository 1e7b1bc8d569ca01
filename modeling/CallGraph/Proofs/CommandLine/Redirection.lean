import CallGraph.CommandLine
import CallGraph.Proofs.Build.Lines
import CallGraph.Proofs.CommandLine.Arguments
import CallGraph.Proofs.FileTree

/-!
# A graph in a file

An output that is given takes the graph that would have been printed.  The file of the output is
made before the first archive is read, and it grows block by block.  As long as no archive is that
file, nothing else depends on it.  An archive that is the file of the output has lost its contents
when it is read.
-/

namespace CallGraph

namespace FileTree

/-- A path of one step is that step, unless there are slashes around it. -/
theorem eq_of_steps_eq_singleton {path name : String} (relative : isAbsolute path = false)
    (plain : endsInSlash path = false) (single : steps path = [name]) : path = name := by
  rw [isAbsolute] at relative
  rw [endsInSlash] at plain
  rw [steps, Split.fragments] at single
  by_cases slashed : '/' ∈ path.toList
  · obtain ⟨front, back, split⟩ := List.append_of_mem slashed
    have filled : ∀ text : List Char, (∃ char ∈ text, char ≠ '/') →
        0 < ((Split.splitAt '/' text).filter (!·.isEmpty)).length := by
      rintro text ⟨char, member, other⟩
      obtain ⟨part, inside, filled⟩ := Split.exists_mem_splitAt member other
      exact List.length_pos_of_mem (List.mem_filter.mpr ⟨inside, by simpa using filled⟩)
    have before : ∃ char ∈ front, char ≠ '/' := by
      cases front with
      | nil => simp [split] at relative
      | cons char front => exact ⟨char, .head _, by simpa [split] using relative⟩
    have behind : ∃ char ∈ back, char ≠ '/' := by
      rcases List.eq_nil_or_concat back with rfl | ⟨back, char, rfl⟩
      · simp [split] at plain
      · rw [split, List.concat_eq_append, ← List.cons_append, ← List.append_assoc,
          List.getLast?_concat] at plain
        exact ⟨char, by simp, by simpa using plain⟩
    have parts := congrArg List.length single
    rw [List.length_map, split, Split.splitAt_append_cons, List.filter_append, List.length_append,
      List.length_singleton] at parts
    have := filled front before
    have := filled back behind
    omega
  · rw [Split.splitAt_of_not_mem slashed] at single
    cases isEmpty : path.toList.isEmpty with
    | true => simp [isEmpty] at single
    | false => simpa [isEmpty] using single

theorem follow_of_forall_eq_dot {tree : FileTree} {start : Place} {steps : List String}
    (stays : ∀ step ∈ steps, step = ".") : tree.follow start steps = .directory start := by
  induction steps with
  | nil => rfl
  | cons step steps ih =>
      obtain ⟨rfl, later⟩ := List.forall_mem_cons.mp stays
      exact ih later

/-- Dots behind a name ask for a directory. -/
theorem place?_follow_of_forall_eq_dot {tree : FileTree} {start : Place} {name step : String}
    {steps : List String} (noDot : name ≠ ".") (noDots : name ≠ "..")
    (stays : ∀ later ∈ step :: steps, later = ".") :
    (tree.follow start (name :: step :: steps)).place? = none := by
  rw [follow_cons _ noDot noDots]
  by_cases long : nameLimit < name.utf8ByteSize
  · rw [if_pos long]
    rfl
  · rw [if_neg long]
    rcases tree.node? (start ++ [name]) with _ | _ | _
    · rfl
    · exact congrArg Target.place? (follow_of_forall_eq_dot stays)
    · rfl

end FileTree

namespace CommandLine

variable {tree : FileTree} {place : Place} {path : String}

/-- A file that can be made is not taken for standard output, unless its path is a hyphen. -/
theorem isStandardOutput_eq_false (other : path ≠ "-") (named : tree.fileAt? path = some place) :
    isStandardOutput path = false := by
  obtain ⟨plain, leads⟩ := FileTree.fileAt?_eq_some_iff.mp named
  by_contra standard
  rw [isStandardOutput, Bool.not_eq_false, Bool.and_eq_true, Bool.not_eq_true'] at standard
  obtain ⟨relative, hyphen⟩ := standard
  split at hyphen
  · next rest split =>
    cases rest with
    | nil => exact other (FileTree.eq_of_steps_eq_singleton relative plain split)
    | cons step rest =>
        have stays : ∀ later ∈ step :: rest, later = "." := by simpa using hyphen
        rw [FileTree.resolve, split] at leads
        split at leads
        · contradiction
        · rw [FileTree.place?_follow_of_forall_eq_dot (by decide) (by decide) stays] at leads
          contradiction
  · contradiction

/-! ## Runs with a file -/

/-- An outlet that writes a file of a tree and looks archives up in the tree as it is by then. -/
def growing (tree : FileTree) (place : Place) : Outlet Bytes where
  find written path := (tree.put place (.file written)).lookup path
  write written bytes := (written ++ bytes, none)
  flush _ := none

/-- The desk of a run whose output is a file. -/
def deskOf (tree : FileTree) (place : Place) (written : Bytes) : Desk :=
  ⟨tree.put place (.file written), some place, []⟩

variable {filter : IdentifierFilter} {archives : List String}

theorem build_deskOf (free : tree.node? place ≠ some .directory) (written : Bytes)
    (schedule : Schedule) :
    build Desk.outlet filter archives (deskOf tree place written) schedule =
      (build (growing tree place) filter archives written schedule).inside
        (deskOf tree place) := by
  apply build_inside (deskOf tree place)
  · intro _ _ _ _
    rfl
  · intro written bytes
    have grown : (tree.put place (.file written)).append place bytes =
        tree.put place (.file (written ++ bytes)) :=
      FileTree.append_put (FileTree.isOutermost_of_node?_ne free) bytes
    simp only [Desk.outlet, deskOf, growing, grown]
  · intro _
    rfl

/-- A file that is no archive has no influence on what is built. -/
theorem build_growing (free : tree.node? place ≠ some .directory)
    (apart : ∀ archive ∈ archives, tree.fileAt? archive ≠ some place) (written : Bytes)
    (schedule : Schedule) :
    build (growing tree place) filter archives written schedule =
      build (.collecting tree.lookup) filter archives written schedule := by
  apply build_inside id
  · intro turns written archive member
    exact congrArg _ (FileTree.lookup_put free (apart archive member) written)
  · intro _ _
    rfl
  · intro _
    rfl

theorem build_printing (printed : Bytes) (schedule : Schedule) :
    build Desk.outlet filter archives ⟨tree, none, printed⟩ schedule =
      (build (.collecting tree.lookup) filter archives printed schedule).inside
        (.mk tree none) := by
  apply build_inside (Desk.mk tree none)
  · intro _ _ _ _
    rfl
  · intro _ _
    rfl
  · intro _
    rfl

/-- A run with an output starts with its file, which is empty. -/
theorem openOutput_eq_ok (other : path ≠ "-") (named : tree.fileAt? path = some place) :
    openOutput tree (some path) = .ok (deskOf tree place []) := by
  have creates : tree.create path = .ok (tree.put place (.file []), place) :=
    FileTree.create_eq_ok_iff.mpr ⟨named, rfl⟩
  rw [openOutput, isStandardOutput_eq_false other named, creates]
  rfl

variable {options : Options} {environment : Environment} {workers : Workers}

/-- What a run leaves behind after its build. -/
def conclude (options : Options) (environment : Environment) (report : Report Desk) : Outcome :=
  let list := options.patterns.or environment.patterns
  let records := (IdentifierFilter.eventsOfOption list).map LogRecord.event ++
    [.filterReady (IdentifierFilter.ofOption list).patterns.length] ++
      report.events.map LogRecord.event
  let logged := List.filter fun record : LogRecord =>
    (logFilter options environment).logs record.target record.level
  match report.result with
  | .error fault =>
    ⟨1, report.state.tree, report.state.printed, logged records, some (.build fault)⟩
  | .ok tally =>
    let last := if options.timing then [.timing tally] else []
    ⟨0, report.state.tree, report.state.printed, logged (records ++ last), none⟩

theorem runOptions_eq_conclude {start : Desk}
    (ready : options.jobs.bind workers.refusal? = none)
    (opened : openOutput tree options.output = .ok start) :
    runOptions options environment tree workers =
      conclude options environment
        (build Desk.outlet (.ofOption (options.patterns.or environment.patterns))
          options.archives start workers.schedule) := by
  rw [runOptions, ready, opened]
  rfl

theorem runOptions_of_refused {causes : List String}
    (refused : options.jobs.bind workers.refusal? = some causes) :
    runOptions options environment tree workers =
      ⟨1, tree, [], [], some (.workers causes)⟩ := by
  rw [runOptions, refused]

theorem conclude_tree (report : Report Desk) :
    (conclude options environment report).tree = report.state.tree := by
  rcases report with ⟨_, _, _ | _⟩ <;> rfl

theorem conclude_printed (report : Report Desk) :
    (conclude options environment report).printed = report.state.printed := by
  rcases report with ⟨_, _, _ | _⟩ <;> rfl

/-! ## The law -/

/-- A tree differs from another one in the file at a place and in nothing else. -/
structure DiffersAt (place : Place) (tree other : FileTree) : Prop where
  nodes : ∀ elsewhere, elsewhere ≠ place → other.node? elsewhere = tree.node? elsewhere
  files : ∀ path, tree.fileAt? path ≠ some place → other.read? path = tree.read? path

/-- What one run prints is what another one, which prints nothing, leaves in a file. -/
structure Redirects (path : String) (printing filing : Outcome) : Prop where
  code : filing.code = printing.code
  failure : filing.failure = printing.failure
  /-- The logs agree up to the time that was measured, which is no part of a record. -/
  log : filing.log = printing.log
  contents : filing.tree.read? path = some printing.printed
  printed : filing.printed = []

/-- What one run prints is what another one, which prints nothing, leaves in a file, although the
workers may have taken other turns. -/
structure RedirectsInTurns (path : String) (printing filing : Outcome) : Prop where
  code : filing.code = printing.code
  /-- The failures agree, or two class files of an archive are named that are none. -/
  failure : filing.failure = printing.failure ∨
    ∃ archive name otherName cause otherCause,
      printing.failure = some (.build (.visit archive (.undecodable name cause))) ∧
        filing.failure = some (.build (.visit archive (.undecodable otherName otherCause)))
  /-- The logs agree up to traces and the time that was measured. -/
  log : filing.log.filter (·.level ≠ .trace) = printing.log.filter (·.level ≠ .trace)
  contents : filing.tree.read? path = some printing.printed
  printed : filing.printed = []

theorem differsAt_put (free : tree.node? place ≠ some .directory) (contents : Bytes) :
    DiffersAt place tree (tree.put place (.file contents)) where
  nodes elsewhere other := by
    rw [FileTree.node?_put (FileTree.isOutermost_of_node?_ne free), if_neg other]
  files _ apart := FileTree.read?_put free apart contents

/-- One build in two surroundings, of which the one prints what the other files. -/
theorem redirects_conclude (named : tree.fileAt? path = some place) (report : Report Bytes) :
    Redirects path (conclude options environment (report.inside (.mk tree none)))
      (conclude options environment (report.inside (deskOf tree place))) := by
  have contents := FileTree.read?_put_self named report.state
  rcases report with ⟨written, events, fault | tally⟩
  · exact ⟨rfl, rfl, rfl, contents, rfl⟩
  · exact ⟨rfl, rfl, rfl, contents, rfl⟩

/-- Logs of the same events but for traces are the same but for traces. -/
theorem filter_log_eq {events otherEvents : List Event}
    (same : events.filter (·.level ≠ .trace) = otherEvents.filter (·.level ≠ .trace))
    (logs : LogRecord → Bool) (start last : List LogRecord) :
    (List.filter logs (start ++ events.map LogRecord.event ++ last)).filter (·.level ≠ .trace) =
      (List.filter logs (start ++ otherEvents.map LogRecord.event ++ last)).filter
        (·.level ≠ .trace) := by
  have records : ∀ events : List Event,
      ((events.map LogRecord.event).filter logs).filter (·.level ≠ .trace) =
        ((events.filter (·.level ≠ .trace)).map LogRecord.event).filter logs := by
    intro events
    rw [List.filter_filter, List.filter_map, List.filter_map, List.filter_filter]
    congr 2
    funext event
    exact Bool.and_comm _ _
  simp only [List.filter_append]
  rw [records events, records otherEvents, same]

/-- Builds in other turns, of which the one prints what the other files. -/
theorem redirectsInTurns_conclude (named : tree.fileAt? path = some place)
    {one other : Report Bytes} (alike : one.Alike other) :
    RedirectsInTurns path (conclude options environment (one.inside (.mk tree none)))
      (conclude options environment (other.inside (deskOf tree place))) := by
  rcases one with ⟨written, events, result⟩
  rcases other with ⟨otherWritten, otherEvents, otherResult⟩
  obtain ⟨state_eq, ends, events_eq, -⟩ := alike
  obtain rfl : written = otherWritten := state_eq
  have contents := FileTree.read?_put_self named written
  have log := filter_log_eq events_eq.symm
  have logOfFailure := fun logs start => log logs start []
  simp only [List.append_nil] at logOfFailure
  change EndsAlike result otherResult at ends
  cases ends with
  | same =>
      cases result with
      | ok tally => exact ⟨rfl, .inl rfl, log _ _ _, contents, rfl⟩
      | error fault => exact ⟨rfl, .inl rfl, logOfFailure _ _, contents, rfl⟩
  | undecodable archive name otherName cause otherCause =>
      exact ⟨rfl, .inr ⟨archive, name, otherName, cause, otherCause, rfl, rfl⟩, logOfFailure _ _,
        contents, rfl⟩

/-- An output that is added to arguments without one changes nothing but its file, and nothing is
printed.

If the workers cannot be had, both runs fail alike before anything is opened.  Otherwise, if no
archive is the file of the output, the file holds what would have been printed, whether or not the
run fails.  The code stays the same, and so do the log and the failure if the workers take the same
turns. -/
theorem run_redirected {arguments redirected : List String} (environment : Environment)
    {created : FileTree}
    (parsed : Invocation.ofArguments arguments = .run options) (free : options.output = none)
    (other : path ≠ "-") (creates : tree.create path = .ok (created, place))
    (adds : AddsOutput path arguments redirected) (workers : Workers) :
    (run redirected environment tree workers).printed = [] ∧
      DiffersAt place tree (run redirected environment tree workers).tree ∧
      (∀ causes, options.jobs.bind workers.refusal? = some causes →
        run arguments environment tree workers = ⟨1, tree, [], [], some (.workers causes)⟩ ∧
          run redirected environment tree workers =
            ⟨1, tree, [], [], some (.workers causes)⟩) ∧
      (options.jobs.bind workers.refusal? = none →
        (∀ archive ∈ options.archives, tree.fileAt? archive ≠ some place) →
          Redirects path (run arguments environment tree workers)
              (run redirected environment tree workers) ∧
            (∀ schedule, RedirectsInTurns path
              (run arguments environment tree ⟨workers.refusal?, schedule⟩)
              (run redirected environment tree workers)) ∧
            (run arguments environment tree workers).tree = tree ∧
            ∀ archive ∈ options.archives,
              (run redirected environment tree workers).tree.read? archive =
                tree.read? archive) := by
  -- Both runs are one build in two surroundings: one prints it, the other writes it to the file.
  obtain ⟨named, -⟩ := FileTree.create_eq_ok_iff.mp creates
  have noDirectory := FileTree.node?_ne_of_fileAt? named
  have filled : path ≠ "" := by
    rintro rfl
    simp [FileTree.fileAt?, FileTree.resolve, FileTree.Target.place?] at named
  have sent : run redirected environment tree workers =
      runOptions (options.sendingTo path) environment tree workers := by
    rw [run, adds.ofArguments_eq filled parsed free]
  cases ready : options.jobs.bind workers.refusal? with
  | some causes =>
      have refused : (options.sendingTo path).jobs.bind workers.refusal? = some causes := ready
      rw [sent, runOptions_of_refused refused, run, parsed]
      refine ⟨rfl, ⟨fun _ _ => rfl, fun _ _ => rfl⟩, ?_, ?_⟩
      · intro others same
        cases same
        exact ⟨runOptions_of_refused ready, rfl⟩
      · intro had
        contradiction
  | none =>
      have printing : ∀ schedule, run arguments environment tree ⟨workers.refusal?, schedule⟩ =
          conclude options environment
            ((build (.collecting tree.lookup) (.ofOption (options.patterns.or environment.patterns))
              options.archives [] schedule).inside (.mk tree none)) := by
        intro schedule
        rw [run, parsed, ← build_printing]
        exact runOptions_eq_conclude ready (by rw [free]; rfl)
      have filing : run redirected environment tree workers =
          conclude options environment
            ((build (growing tree place) (.ofOption (options.patterns.or environment.patterns))
              options.archives [] workers.schedule).inside (deskOf tree place)) := by
        rw [sent, ← build_deskOf noDirectory]
        have opened : openOutput tree (options.sendingTo path).output =
            .ok (deskOf tree place []) :=
          openOutput_eq_ok other named
        exact runOptions_eq_conclude ready opened
      have spares : DiffersAt place tree (run redirected environment tree workers).tree := by
        rw [filing, conclude_tree]
        exact differsAt_put noDirectory _
      refine ⟨?_, spares, ?_, ?_⟩
      · rw [filing, conclude_printed]
        rfl
      · intro causes refused
        contradiction
      · intro _ apart
        refine ⟨?_, ?_, ?_, fun archive member => spares.files archive (apart archive member)⟩
        · rw [printing workers.schedule, filing, build_growing noDirectory apart]
          exact redirects_conclude named _
        · intro schedule
          rw [printing schedule, filing, build_growing noDirectory apart]
          exact redirectsInTurns_conclude named (build_alike _ _ _ _ _ _)
        · rw [printing workers.schedule, conclude_tree]
          rfl

/-- The graph of one class goes to a file beside its archive. -/
theorem run_redirected_classTree :
    Invocation.ofArguments ["--quiet", "a.jar"] = .run ⟨["a.jar"], none, none, none, true, false⟩ ∧
      AddsOutput "out.txt" ["--quiet", "a.jar"] ["--quiet", "--output", "out.txt", "a.jar"] ∧
      (∀ archive ∈ ["a.jar"], (classTree "pkg/A").fileAt? archive ≠ some ["out.txt"]) ∧
      Redirects "out.txt" (run ["--quiet", "a.jar"] ⟨none, none⟩ (classTree "pkg/A"))
        (run ["--quiet", "--output", "out.txt", "a.jar"] ⟨none, none⟩ (classTree "pkg/A")) ∧
      (run ["--quiet", "a.jar"] ⟨none, none⟩ (classTree "pkg/A")).printed =
        Bytes.ofString "C:pkg.A pkg.A\nC:pkg.A java.lang.Object\n" := by
  have parsed : Invocation.ofArguments ["--quiet", "a.jar"] =
      .run ⟨["a.jar"], none, none, none, true, false⟩ := by
    decide +kernel
  have adds : AddsOutput "out.txt" ["--quiet", "a.jar"]
      ["--quiet", "--output", "out.txt", "a.jar"] := by
    have quiet : Gives .none ["--quiet"] { Options.none with quiet := true } :=
      .quiet (by rfl) (by rfl) rfl (.nothing _)
    have setting : Setting ["--output", "out.txt"] .output "out.txt" :=
      .apart (by rfl) (by rfl) rfl
    exact .insert quiet setting
  have creates : (classTree "pkg/A").create "out.txt" =
      .ok ((classTree "pkg/A").put ["out.txt"] (.file []), ["out.txt"]) := by
    decide +kernel
  have apart : ∀ archive ∈ ["a.jar"],
      (classTree "pkg/A").fileAt? archive ≠ some ["out.txt"] := by
    decide +kernel
  obtain ⟨-, -, -, law⟩ :=
    run_redirected ⟨none, none⟩ parsed rfl (by decide) creates adds .ready
  exact ⟨parsed, adds, apart, (law rfl apart).1, by decide +kernel⟩

/-- An archive that is the file of the output as well is empty when it is read, and is skipped. -/
theorem not_redirects_of_output_eq_archive :
    Invocation.ofArguments ["a.jar"] = .run ⟨["a.jar"], none, none, none, false, false⟩ ∧
      (classTree "pkg/A").create "a.jar" =
        .ok ((classTree "pkg/A").put ["a.jar"] (.file []), ["a.jar"]) ∧
      AddsOutput "a.jar" ["a.jar"] ["--output=a.jar", "a.jar"] ∧
      (run ["a.jar"] ⟨none, none⟩ (classTree "pkg/A")).printed =
        Bytes.ofString "C:pkg.A pkg.A\nC:pkg.A java.lang.Object\n" ∧
      (run ["--output=a.jar", "a.jar"] ⟨none, none⟩ (classTree "pkg/A")).tree.read? "a.jar" =
        some [] ∧
      (run ["--output=a.jar", "a.jar"] ⟨none, none⟩ (classTree "pkg/A")).tree.read? "a.jar" ≠
        (classTree "pkg/A").read? "a.jar" ∧
      ¬ Redirects "a.jar" (run ["a.jar"] ⟨none, none⟩ (classTree "pkg/A"))
        (run ["--output=a.jar", "a.jar"] ⟨none, none⟩ (classTree "pkg/A")) := by
  have printed : (run ["a.jar"] ⟨none, none⟩ (classTree "pkg/A")).printed =
      Bytes.ofString "C:pkg.A pkg.A\nC:pkg.A java.lang.Object\n" := by
    decide +kernel
  have left :
      (run ["--output=a.jar", "a.jar"] ⟨none, none⟩ (classTree "pkg/A")).tree.read? "a.jar" =
        some [] := by
    decide +kernel
  refine ⟨by decide +kernel, by decide +kernel, addsOutput_cons "a.jar" ["a.jar"], printed, left,
    ?_, ?_⟩
  · rw [left]
    decide +kernel
  · intro redirects
    have contents := redirects.contents
    rw [left, printed] at contents
    revert contents
    decide +kernel

end CommandLine

end CallGraph
