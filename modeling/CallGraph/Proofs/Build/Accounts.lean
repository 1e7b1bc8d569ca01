import CallGraph.Proofs.Build.Lines
import CallGraph.Proofs.Build.Refusals
import CallGraph.Proofs.JavaClass.Edges
import Mathlib.Algebra.GroupWithZero.Nat

/-!
# Every archive is accounted for

A build that succeeds accounts for each path that it was given, in order and as often as it was
given: one event reports what became of the path, and either it is a warning and nothing is written,
or it gives the number of classes and their block is written.  The counts of the build are those of
the events and of the edges in the blocks.  That goes for any outlet, also for one that changes what
is found while it is written to.
-/

namespace CallGraph

namespace Event

/-- The path of the archive that an event is about. -/
def archive? : Event → Option String
  | archiveMissing path => some path
  | archiveUnreadable path => some path
  | archiveVisited path _ => some path
  | patternIgnored _ => none
  | bootstrapMissing _ _ _ _ => none

/-- The number of classes that an event gives. -/
def classes : Event → ℕ
  | archiveVisited _ classes => classes
  | _ => 0

end Event

/-- The events that are about archives. -/
def archiveEvents (events : List Event) : List Event :=
  events.filter (·.archive?.isSome)

/-- What became of a path: the event that reports it, and the block that was written, if there is
one. -/
structure Account where
  path : String
  event : Event
  block? : Option Block
  deriving DecidableEq, Repr

/-- An account says what was found at its path. -/
inductive AccountOf (filter : IdentifierFilter) : Lookup → Account → Prop where
  | missing (path : String) : AccountOf filter .missing ⟨path, .archiveMissing path, none⟩
  | unreadable (path : String) : AccountOf filter .unreadable ⟨path, .archiveUnreadable path, none⟩
  /-- The classes of an archive are counted, and their block is written. -/
  | visited (path : String) {archive : Archive} {classes : List ArchiveClass}
      (found : archive.classes filter = .ok classes) :
      AccountOf filter (.archive archive)
        ⟨path, .archiveVisited path classes.length, some (.ofClasses filter classes)⟩

/-- Accounts of one path after the other, which take an outlet from one state to another: each path
is looked up in the state in which the accounts in front have left the outlet. -/
inductive AccountRun {σ : Type} (outlet : Outlet σ) (filter : IdentifierFilter) :
    σ → List Account → σ → Prop where
  | done {state : σ} : AccountRun outlet filter state [] state
  | skipped {state final : σ} {path : String} {event : Event} {accounts : List Account}
      (found : AccountOf filter (outlet.find state path) ⟨path, event, none⟩)
      (rest : AccountRun outlet filter state accounts final) :
      AccountRun outlet filter state (⟨path, event, none⟩ :: accounts) final
  | visited {state next final : σ} {path : String} {event : Event} {block : Block}
      {accounts : List Account}
      (found : AccountOf filter (outlet.find state path) ⟨path, event, some block⟩)
      (taken : outlet.write state (written (block.edges.map Edge.line)) = (next, none))
      (rest : AccountRun outlet filter next accounts final) :
      AccountRun outlet filter state (⟨path, event, some block⟩ :: accounts) final

section Account

variable {filter : IdentifierFilter} {lookup : Lookup} {account : Account}

theorem AccountOf.level_eq_warn_iff (tells : AccountOf filter lookup account) :
    account.event.level = .warn ↔ account.block?.isNone = true := by
  cases tells with
  | missing | unreadable => exact iff_of_true rfl rfl
  | visited => exact iff_of_false nofun nofun

theorem AccountOf.level_eq_debug_iff (tells : AccountOf filter lookup account) :
    account.event.level = .debug ∧ account.event.message = "visiting archive" ↔
      account.block?.isSome = true := by
  cases tells with
  | missing | unreadable => exact iff_of_false nofun nofun
  | visited => exact iff_of_true ⟨rfl, rfl⟩ rfl

theorem AccountOf.classes_eq (tells : AccountOf filter lookup account) :
    account.event.classes = account.block?.elim 0 Block.classes := by
  cases tells <;> rfl

theorem AccountOf.archive?_eq (tells : AccountOf filter lookup account) :
    account.event.archive? = some account.path := by
  cases tells <;> rfl

theorem AccountOf.unique {other : Account} (tells : AccountOf filter lookup account)
    (otherTells : AccountOf filter lookup other) (same : account.path = other.path) :
    account = other := by
  cases tells with
  | missing | unreadable =>
      cases otherTells
      cases same
      rfl
  | visited path found =>
      cases otherTells with
      | visited otherPath otherFound =>
          cases same
          cases found.symm.trans otherFound
          rfl

end Account

theorem archiveEvents_append (front back : List Event) :
    archiveEvents (front ++ back) = archiveEvents front ++ archiveEvents back :=
  List.filter_append ..

/-- Whatever is found at a path, there is one event about it, if there is no fault. -/
theorem exists_accountOf_visit {filter : IdentifierFilter} {turns : Turns} {path : String}
    {lookup : Lookup} {block? : Option Block}
    (visited : (visit filter turns path lookup).result = .ok block?) :
    ∃ event, AccountOf filter lookup ⟨path, event, block?⟩ ∧
      archiveEvents (visit filter turns path lookup).events = [event] := by
  cases lookup with
  | missing =>
      cases visited
      exact ⟨_, .missing path, rfl⟩
  | unreadable =>
      cases visited
      exact ⟨_, .unreadable path, rfl⟩
  | archive archive =>
      rcases visit_archive_eq_ok_iff.mp visited with ⟨classes, found, rfl⟩
      rcases Archive.exists_reports found turns path with ⟨reports, events_eq, all, -⟩
      -- What is reported behind the announcement is about calls.
      have calls : archiveEvents reports = [] := by
        rw [archiveEvents, List.filter_eq_nil_iff]
        intro event reported
        rcases List.mem_flatMap.mp (all.mem_iff.mp reported) with ⟨found, -, member⟩
        rcases JavaClass.exists_eq_bootstrapMissing member with ⟨methodName, offset, index, rfl⟩
        exact Bool.false_ne_true
      rw [events_eq, ← List.singleton_append, archiveEvents_append, calls]
      exact ⟨_, .visited path found, rfl⟩

/-! ## Counts -/

/-- Archives that were visited have a block, and archives that were skipped have none. -/
theorem Tally.ofVisits_eq_sum (blocks : List (Option Block)) :
    (ofVisits blocks).archives = blocks.countP Option.isSome ∧
      (ofVisits blocks).skipped = blocks.countP Option.isNone ∧
      (ofVisits blocks).classes = (blocks.map (·.elim 0 Block.classes)).sum := by
  induction blocks with
  | nil => exact ⟨rfl, rfl, rfl⟩
  | cons block? blocks ih =>
      rcases ih with ⟨archives, skipped, classes⟩
      have split : ofVisits (block? :: blocks) = ofVisit block? + ofVisits blocks := rfl
      rw [split, add_eq, archives, skipped, classes]
      cases block? with
      | none => simp [ofVisit, ofSkipped, Nat.add_comm]
      | some block => simp [ofVisit, ofBlock, Nat.add_comm]

section Run

variable {σ : Type} {outlet : Outlet σ} {filter : IdentifierFilter} {state final next : σ}
  {paths : List String} {schedule : Schedule} {accounts : List Account}

/-- Each account says what was found at its path at some time. -/
theorem AccountRun.exists_accountOf (run : AccountRun outlet filter state accounts final)
    {account : Account} (member : account ∈ accounts) :
    ∃ state, AccountOf filter (outlet.find state account.path) account := by
  induction run with
  | done => contradiction
  | @skipped state final path event accounts found rest ih
  | @visited state next final path event block accounts found taken rest ih =>
      rcases List.mem_cons.mp member with rfl | member
      · exact ⟨state, found⟩
      · exact ih member

/-- Events are counted by another part of the accounts, if each account says that the two agree. -/
theorem AccountRun.countP_event {γ : Type} (run : AccountRun outlet filter state accounts final)
    {part : Account → γ} {counted : Event → Bool} {counts : γ → Bool}
    (agree : ∀ lookup account, AccountOf filter lookup account →
      (counted account.event = true ↔ counts (part account) = true)) :
    (accounts.map Account.event).countP counted = (accounts.map part).countP counts := by
  rw [List.countP_map, List.countP_map]
  apply List.countP_congr
  intro account member
  rcases run.exists_accountOf member with ⟨_, tells⟩
  exact agree _ account tells

theorem written_of_writeBlock {block : Block}
    (taken : outlet.writeBlock state block = (next, none)) :
    outlet.write state (written (block.edges.map Edge.line)) = (next, none) := by
  have lines : written (block.edges.map Edge.line) = block.bytes := by
    rw [block.map_line_edges]
    rfl
  rw [lines]
  rw [Outlet.writeBlock] at taken
  split at taken
  · next middle fault refused =>
    cases taken
  · next middle accepted =>
    rcases Prod.mk.inj taken with ⟨rfl, -⟩
    exact accepted

/-- A build that succeeds accounts for each path.  The induction is on the paths, and each step of
the build is one of the run. -/
theorem exists_accountRun {tally : Tally}
    (succeeded : (build outlet filter paths state schedule).result = .ok tally) :
    ∃ accounts, accounts.map Account.path = paths ∧
      AccountRun outlet filter state accounts (build outlet filter paths state schedule).state ∧
      archiveEvents (build outlet filter paths state schedule).events =
        accounts.map Account.event ∧
      tally = .ofVisits (accounts.map Account.block?) := by
  induction paths generalizing state schedule tally with
  | nil =>
      rw [build] at succeeded ⊢
      cases flushed : outlet.flush state with
      | some fault =>
          rw [flushed] at succeeded
          contradiction
      | none =>
          rw [flushed] at succeeded
          cases succeeded
          exact ⟨[], rfl, .done, rfl, rfl⟩
  | cons path paths ih =>
      cases visited : (visit filter (schedule.headD []) path (outlet.find state path)).result with
      | error fault =>
          rw [build_cons_of_error visited] at succeeded
          contradiction
      | ok block? =>
          rcases exists_accountOf_visit visited with ⟨event, found, event_eq⟩
          cases block? with
          | none =>
              rw [build_cons_of_skipped visited] at succeeded ⊢
              rcases Fallible.map_eq_ok_iff.mp succeeded with ⟨later, succeededLater, rfl⟩
              rcases ih succeededLater with ⟨accounts, paths_eq, run, events_eq, rfl⟩
              refine ⟨⟨path, event, none⟩ :: accounts, congrArg (path :: ·) paths_eq,
                .skipped found run, ?_, rfl⟩
              rw [Report.after, archiveEvents_append, event_eq, events_eq]
              rfl
          | some block =>
              rcases taken : outlet.writeBlock state block with ⟨next, _ | fault⟩
              · rw [build_cons_of_taken visited taken] at succeeded ⊢
                rcases Fallible.map_eq_ok_iff.mp succeeded with ⟨later, succeededLater, rfl⟩
                rcases ih succeededLater with ⟨accounts, paths_eq, run, events_eq, rfl⟩
                refine ⟨⟨path, event, some block⟩ :: accounts, congrArg (path :: ·) paths_eq,
                  .visited found (written_of_writeBlock taken) run, ?_, rfl⟩
                rw [Report.after, archiveEvents_append, event_eq, events_eq]
                rfl
              · rw [build_cons_of_refused visited taken] at succeeded
                contradiction

/-- If the same is always found at a path, the same becomes of the path whenever it is given. -/
theorem AccountRun.count_eq (run : AccountRun outlet filter state accounts final)
    (steady : ∀ one other path, outlet.find one path = outlet.find other path)
    {account : Account} (member : account ∈ accounts) :
    accounts.count account = (accounts.map Account.path).count account.path := by
  rcases run.exists_accountOf member with ⟨one, tells⟩
  rw [List.count_eq_countP, List.count_eq_countP, List.countP_map]
  apply List.countP_congr
  intro other otherMember
  rcases run.exists_accountOf otherMember with ⟨two, otherTells⟩
  rw [steady two one] at otherTells
  simp only [Function.comp_apply, beq_iff_eq]
  constructor
  · rintro rfl
    rfl
  · intro same
    rw [same] at otherTells
    exact otherTells.unique tells same

end Run

/-- Accounts cover a build: its paths, its report and its counts. -/
structure Covers {σ : Type} (outlet : Outlet σ) (filter : IdentifierFilter) (paths : List String)
    (state : σ) (report : Report σ) (tally : Tally) (accounts : List Account) : Prop where
  /-- There is an account of each path, in order. -/
  paths_eq : accounts.map Account.path = paths
  /-- The accounts say what was found and written. -/
  run : AccountRun outlet filter state accounts report.state
  /-- There is one event about archives for each account, in order. -/
  events_eq : archiveEvents report.events = accounts.map Account.event
  archives_add_skipped : tally.archives + tally.skipped = paths.length
  /-- A warning is an archive that was skipped. -/
  skipped_eq : (archiveEvents report.events).countP (·.level = .warn) = tally.skipped
  /-- An archive that was visited is reported for debugging. -/
  archives_eq : (archiveEvents report.events).countP
    (fun event => event.level = .debug ∧ event.message = "visiting archive") = tally.archives
  classes_eq : ((archiveEvents report.events).map Event.classes).sum = tally.classes
  /-- The references and calls are the edges of the blocks that were written. -/
  references_eq : tally.references =
    (edgesOf (accounts.map Account.block?)).countP Edge.isReference
  calls_eq : tally.calls = (edgesOf (accounts.map Account.block?)).countP (!·.isReference)
  /-- A path is reported as often as it was given. -/
  reported : ∀ path,
    (archiveEvents report.events).countP (·.archive? = some path) = paths.count path
  /-- If the same is always found at a path, the same becomes of it as often as it was given. -/
  repeated : (∀ one other path, outlet.find one path = outlet.find other path) →
    ∀ account ∈ accounts, accounts.count account = paths.count account.path

/-- A build that succeeds accounts for every archive. -/
theorem exists_covers_of_build {σ : Type} (outlet : Outlet σ) (filter : IdentifierFilter)
    (paths : List String) (state : σ) (schedule : Schedule) (tally : Tally)
    (succeeded : (build outlet filter paths state schedule).result = .ok tally) :
    ∃ accounts, Covers outlet filter paths state (build outlet filter paths state schedule) tally
      accounts := by
  rcases exists_accountRun succeeded with ⟨accounts, rfl, run, events_eq, rfl⟩
  rcases Tally.ofVisits_eq_sum (accounts.map Account.block?) with ⟨archives, skipped, classes⟩
  rcases Tally.ofVisits_eq_countP (accounts.map Account.block?) with ⟨references, calls⟩
  refine ⟨accounts, rfl, run, events_eq, ?_, ?_, ?_, ?_, references, calls, ?_,
    fun steady account => run.count_eq steady⟩
  · rw [archives, skipped, List.length_map, ← List.length_map Account.block?,
      List.length_eq_countP_add_countP Option.isSome]
    congr 2
    funext block?
    cases block? <;> rfl
  · rw [events_eq, skipped]
    apply run.countP_event
    intro lookup account tells
    rw [decide_eq_true_iff]
    exact tells.level_eq_warn_iff
  · rw [events_eq, archives]
    apply run.countP_event
    intro lookup account tells
    rw [decide_eq_true_iff]
    exact tells.level_eq_debug_iff
  · rw [events_eq, classes, List.map_map, List.map_map]
    congr 1
    apply List.map_congr_left
    intro account member
    rcases run.exists_accountOf member with ⟨_, tells⟩
    exact tells.classes_eq
  · intro path
    rw [events_eq, List.count_eq_countP]
    apply run.countP_event
    intro lookup account tells
    rw [decide_eq_true_iff, tells.archive?_eq, Option.some.injEq]
    exact beq_iff_eq.symm

/-- The archive of a tree is visited twice, and once there is nothing. -/
theorem exists_covers_of_build_classTree :
    (graph (classTree "pkg/A") .acceptAll ["a.jar", "b.jar", "a.jar"] []).result =
        .ok ⟨2, 1, 2, 4, 0⟩ ∧
      ∃ accounts,
        Covers (.collecting (classTree "pkg/A").lookup) .acceptAll ["a.jar", "b.jar", "a.jar"] []
          (graph (classTree "pkg/A") .acceptAll ["a.jar", "b.jar", "a.jar"] []) ⟨2, 1, 2, 4, 0⟩
          accounts ∧
        ∃ account ∈ accounts, account.path = "a.jar" ∧ accounts.count account = 2 := by
  have succeeded : (graph (classTree "pkg/A") .acceptAll ["a.jar", "b.jar", "a.jar"] []).result =
      .ok ⟨2, 1, 2, 4, 0⟩ := by
    decide +kernel
  rcases exists_covers_of_build (.collecting (classTree "pkg/A").lookup) .acceptAll
    ["a.jar", "b.jar", "a.jar"] [] [] _ succeeded with ⟨accounts, covers⟩
  have given : "a.jar" ∈ accounts.map Account.path := by
    rw [covers.paths_eq]
    exact .head _
  rcases List.mem_map.mp given with ⟨account, member, path_eq⟩
  refine ⟨succeeded, accounts, covers, account, member, path_eq, ?_⟩
  rw [covers.repeated (fun _ _ _ => rfl) account member, path_eq]
  decide

end CallGraph
