import CallGraph.Build
import CallGraph.Proofs.Build.Workers

/-!
# Runs of a build

A build whose outlet takes everything goes from archive to archive.  What it writes is appended to
what was written before, and so the builds of two lists of archives follow each other, the second
one with the turns that the first one has left.  A build that succeeds writes one block for each
archive that was not skipped, and counts what it wrote.

Whatever turns the workers take, any build writes and counts the same, and if it fails, it fails at
the same archive.
-/

namespace CallGraph

namespace Tally

theorem add_eq (first second : Tally) :
    first + second =
      ⟨first.archives + second.archives, first.skipped + second.skipped,
        first.classes + second.classes, first.references + second.references,
        first.calls + second.calls⟩ :=
  rfl

@[simp]
theorem zero_add (tally : Tally) : zero + tally = tally := by
  simp [add_eq, zero]

@[simp]
theorem add_zero (tally : Tally) : tally + zero = tally := by
  simp [add_eq, zero]

theorem add_assoc (first second third : Tally) :
    first + second + third = first + (second + third) := by
  simp [add_eq, Nat.add_assoc]

/-- What is counted of an archive: its block, or that it was skipped. -/
def ofVisit : Option Block → Tally
  | none => ofSkipped
  | some block => ofBlock block

/-- What is counted of archives. -/
def ofVisits (visits : List (Option Block)) : Tally :=
  (visits.map ofVisit).foldr (· + ·) zero

end Tally

namespace Report

/-- A report of the same build after other output. -/
def behind (front : Bytes) (report : Report Bytes) : Report Bytes :=
  { report with state := front ++ report.state }

@[simp]
theorem behind_behind (first second : Bytes) (report : Report Bytes) :
    (report.behind second).behind first = report.behind (first ++ second) := by
  simp [behind]

theorem behind_after (front : Bytes) (events : List Event) (tally : Tally)
    (report : Report Bytes) :
    (report.after events tally).behind front = (report.behind front).after events tally :=
  rfl

@[simp]
theorem after_zero {σ : Type} (report : Report σ) : report.after [] .zero = report := by
  rcases report with ⟨state, events, result⟩
  cases result <;> simp [after, Except.map]

theorem after_after {σ : Type} (first second : List Event) (one two : Tally) (report : Report σ) :
    (report.after second two).after first one = report.after (first ++ second) (one + two) := by
  rcases report with ⟨state, events, result⟩
  cases result <;> simp [after, Except.map, Tally.add_assoc]

end Report

section Step

variable {σ : Type} {outlet : Outlet σ} {filter : IdentifierFilter} {state next : σ} {path : String}
  {schedule : Schedule}

/-- An archive without a block ends a build. -/
theorem build_cons_of_error {fault : VisitFault}
    (failed : (visit filter (schedule.headD []) path (outlet.find state path)).result =
      .error fault)
    (paths : List String) :
    build outlet filter (path :: paths) state schedule =
      ⟨state, (visit filter (schedule.headD []) path (outlet.find state path)).events,
        .error (.visit path fault)⟩ := by
  simp only [build, failed]

theorem build_cons_of_skipped
    (skipped : (visit filter (schedule.headD []) path (outlet.find state path)).result = .ok none)
    (paths : List String) :
    build outlet filter (path :: paths) state schedule =
      (build outlet filter paths state schedule.tail).after
        (visit filter (schedule.headD []) path (outlet.find state path)).events .ofSkipped := by
  simp only [build, skipped]

theorem build_cons_of_taken {block : Block}
    (visited : (visit filter (schedule.headD []) path (outlet.find state path)).result =
      .ok (some block))
    (taken : outlet.writeBlock state block = (next, none)) (paths : List String) :
    build outlet filter (path :: paths) state schedule =
      (build outlet filter paths next schedule.tail).after
        (visit filter (schedule.headD []) path (outlet.find state path)).events
        (.ofBlock block) := by
  simp only [build, visited, taken]

/-- A block that is refused ends a build. -/
theorem build_cons_of_refused {block : Block} {fault : OutletFault}
    (visited : (visit filter (schedule.headD []) path (outlet.find state path)).result =
      .ok (some block))
    (refused : outlet.writeBlock state block = (next, some fault)) (paths : List String) :
    build outlet filter (path :: paths) state schedule =
      ⟨next, (visit filter (schedule.headD []) path (outlet.find state path)).events,
        .error (.write path fault)⟩ := by
  simp only [build, visited, refused]

end Step

variable {find : String → Lookup} {filter : IdentifierFilter} {schedule : Schedule}

/-- The build of one archive and those behind it, with an outlet that takes everything. -/
theorem build_collecting_cons (path : String) (paths : List String) (taken : Bytes)
    (schedule : Schedule) :
    build (.collecting find) filter (path :: paths) taken schedule =
      match (visit filter (schedule.headD []) path (find path)).result with
      | .error fault =>
          ⟨taken, (visit filter (schedule.headD []) path (find path)).events,
            .error (.visit path fault)⟩
      | .ok block? =>
          (build (.collecting find) filter paths (taken ++ block?.elim [] Block.bytes)
            schedule.tail).after (visit filter (schedule.headD []) path (find path)).events
              (.ofVisit block?) := by
  rw [build]
  simp only [Outlet.collecting]
  cases result : (visit filter (schedule.headD []) path (find path)).result with
  | error fault => rfl
  | ok block? =>
      cases block? with
      | none => simp [Tally.ofVisit]
      | some block => rfl

theorem build_collecting_nil (taken : Bytes) (schedule : Schedule) :
    build (.collecting find) filter [] taken schedule = ⟨taken, [], .ok .zero⟩ :=
  rfl

theorem build_collecting_eq_behind (paths : List String) (taken : Bytes) (schedule : Schedule) :
    build (.collecting find) filter paths taken schedule =
      (build (.collecting find) filter paths [] schedule).behind taken := by
  induction paths generalizing taken schedule with
  | nil => simp [build_collecting_nil, Report.behind]
  | cons path paths ih =>
      rw [build_collecting_cons, build_collecting_cons]
      cases (visit filter (schedule.headD []) path (find path)).result with
      | error fault => simp [Report.behind]
      | ok block? =>
          simp only [List.nil_append]
          rw [ih (taken ++ _), ih (block?.elim [] Block.bytes), Report.behind_after,
            Report.behind_behind]

/-- A build that succeeds goes on with the archives behind, and with the turns that are left. -/
theorem build_append_of_ok {first : List String} (second : List String) {taken : Bytes}
    {tally : Tally}
    (succeeded : (build (.collecting find) filter first taken schedule).result = .ok tally) :
    build (.collecting find) filter (first ++ second) taken schedule =
      (build (.collecting find) filter second
        (build (.collecting find) filter first taken schedule).state
          (schedule.drop first.length)).after
            (build (.collecting find) filter first taken schedule).events tally := by
  induction first generalizing taken tally schedule with
  | nil =>
      rw [build_collecting_nil] at succeeded ⊢
      cases succeeded
      simp
  | cons path paths ih =>
      rw [build_collecting_cons] at succeeded ⊢
      rw [List.cons_append, build_collecting_cons, List.length_cons, ← List.drop_tail]
      cases result : (visit filter (schedule.headD []) path (find path)).result with
      | error fault =>
          rw [result] at succeeded
          cases succeeded
      | ok block? =>
          rw [result] at succeeded
          obtain ⟨later, succeededLater, rfl⟩ := Fallible.map_eq_ok_iff.mp succeeded
          simp only
          rw [ih succeededLater, Report.after_after]
          rfl

/-- What the archives yield, whatever turns the workers take: a block each, unless the archive is
skipped. -/
def Yields (find : String → Lookup) (filter : IdentifierFilter) (paths : List String)
    (blocks : List (Option Block)) : Prop :=
  List.Forall₂
    (fun path block? => ∀ turns, (visit filter turns path (find path)).result = .ok block?)
    paths blocks

/-- A build whose archives all yield something writes the blocks and counts them. -/
theorem build_of_yields {paths : List String} {blocks : List (Option Block)}
    (yields : Yields find filter paths blocks) (taken : Bytes) (schedule : Schedule) :
    (build (.collecting find) filter paths taken schedule).state =
        taken ++ blocks.flatMap (·.elim [] Block.bytes) ∧
      (build (.collecting find) filter paths taken schedule).result = .ok (.ofVisits blocks) := by
  induction yields generalizing taken schedule with
  | nil =>
      rw [build_collecting_nil]
      exact ⟨(List.append_nil taken).symm, rfl⟩
  | @cons path block? paths blocks visited rest ih =>
      obtain ⟨state_eq, result_eq⟩ := ih (taken ++ block?.elim [] Block.bytes) schedule.tail
      rw [build_collecting_cons, visited]
      constructor
      · exact state_eq.trans (List.append_assoc _ _ _)
      · exact congrArg (Except.map (Tally.ofVisit block? + ·)) result_eq

theorem exists_yields_of_ok {paths : List String} {taken : Bytes} {tally : Tally}
    (succeeded : (build (.collecting find) filter paths taken schedule).result = .ok tally) :
    ∃ blocks, Yields find filter paths blocks := by
  induction paths generalizing taken tally schedule with
  | nil => exact ⟨[], .nil⟩
  | cons path paths ih =>
      rw [build_collecting_cons] at succeeded
      cases visited : (visit filter (schedule.headD []) path (find path)).result with
      | error fault =>
          rw [visited] at succeeded
          contradiction
      | ok block? =>
          rw [visited] at succeeded
          obtain ⟨later, succeededLater, -⟩ := Fallible.map_eq_ok_iff.mp succeeded
          obtain ⟨blocks, rest⟩ := ih succeededLater
          exact ⟨block? :: blocks, .cons (visit_eq_ok_of_eq_ok visited) rest⟩

/-! ## Builds side by side -/

/-- A report about other surroundings. -/
def Report.inside {σ τ : Type} (embed : τ → σ) (report : Report τ) : Report σ :=
  { report with state := embed report.state }

theorem Report.inside_after {σ τ : Type} (embed : τ → σ) (events : List Event) (tally : Tally)
    (report : Report τ) :
    (report.after events tally).inside embed = (report.inside embed).after events tally :=
  rfl

/-- If surroundings correspond to others as far as archives are visited, blocks are written and
flushed, a build goes in the one as it does in the other. -/
theorem build_inside {σ τ : Type} {outlet : Outlet σ} {other : Outlet τ} (embed : τ → σ)
    {paths : List String}
    (visits : ∀ turns state, ∀ path ∈ paths,
      visit filter turns path (outlet.find (embed state) path) =
        visit filter turns path (other.find state path))
    (writes : ∀ state bytes, outlet.write (embed state) bytes =
      (embed (other.write state bytes).1, (other.write state bytes).2))
    (flushes : ∀ state, outlet.flush (embed state) = other.flush state) (state : τ)
    (schedule : Schedule) :
    build outlet filter paths (embed state) schedule =
      (build other filter paths state schedule).inside embed := by
  have blocks : ∀ state block, outlet.writeBlock (embed state) block =
      (embed (other.writeBlock state block).1, (other.writeBlock state block).2) := by
    intro state block
    rw [Outlet.writeBlock, Outlet.writeBlock, writes]
    rcases other.write state block.bytes with ⟨next, _ | fault⟩
    · simp only [flushes]
    · rfl
  induction paths generalizing state schedule with
  | nil =>
      rw [build, build, flushes]
      cases other.flush state <;> rfl
  | cons path paths ih =>
      have later := ih fun turns state other member => visits turns state other (.tail path member)
      rw [build, build, visits _ state path (.head paths)]
      cases (visit filter (schedule.headD []) path (other.find state path)).result with
      | error fault => rfl
      | ok block? =>
          cases block? with
          | none => simp only [later, Report.inside_after]
          | some block =>
              simp only [blocks]
              rcases other.writeBlock state block with ⟨next, _ | fault⟩
              · simp only [later, Report.inside_after]
              · rfl

/-- Two ways in which a build ends in different turns: they are the same, or two class files are
named that are none. -/
inductive EndsAlike : Except BuildFault Tally → Except BuildFault Tally → Prop where
  | same (result : Except BuildFault Tally) : EndsAlike result result
  | undecodable (path name otherName : String) (cause otherCause : ClassFault) :
      EndsAlike (.error (.visit path (.undecodable name cause)))
        (.error (.visit path (.undecodable otherName otherCause)))

theorem EndsAlike.map {one other : Except BuildFault Tally} (alike : EndsAlike one other)
    (tally : Tally) : EndsAlike (one.map (tally + ·)) (other.map (tally + ·)) := by
  cases alike with
  | same => exact .same _
  | undecodable => exact .undecodable ..

/-- Two reports of a build in different turns. -/
structure Report.Alike {σ : Type} (one other : Report σ) : Prop where
  state_eq : one.state = other.state
  ends : EndsAlike one.result other.result
  /-- Only traces of calls are reported in another order, or up to another class file. -/
  events_eq : one.events.filter (·.level ≠ .trace) = other.events.filter (·.level ≠ .trace)
  /-- If all goes well, the same is reported. -/
  perm_events : ∀ tally, one.result = .ok tally → one.events.Perm other.events

theorem Report.Alike.after {σ : Type} {one other : Report σ} (alike : one.Alike other)
    {events otherEvents : List Event}
    (events_eq : events.filter (·.level ≠ .trace) = otherEvents.filter (·.level ≠ .trace))
    (perm : events.Perm otherEvents) (tally : Tally) :
    (one.after events tally).Alike (other.after otherEvents tally) where
  state_eq := alike.state_eq
  ends := alike.ends.map tally
  events_eq := by
    simp only [Report.after, List.filter_append, events_eq, alike.events_eq]
  perm_events := by
    intro _ succeeded
    obtain ⟨later, succeededLater, -⟩ := Fallible.map_eq_ok_iff.mp succeeded
    exact perm.append (alike.perm_events later succeededLater)

/-- Whatever turns the workers take, the same is written and counted, and a build that fails does so
at the same archive. -/
theorem build_alike {σ : Type} (outlet : Outlet σ) (filter : IdentifierFilter)
    (paths : List String) (state : σ) (one other : Schedule) :
    (build outlet filter paths state one).Alike (build outlet filter paths state other) := by
  induction paths generalizing state one other with
  | nil =>
      rw [build, build]
      exact ⟨rfl, .same _, rfl, fun _ _ => .refl _⟩
  | cons path paths ih =>
      have events_eq := filter_events_visit filter (one.headD []) (other.headD []) path
        (outlet.find state path)
      cases visited : (visit filter (one.headD []) path (outlet.find state path)).result with
      | error fault =>
          have alike := visit_result_alike filter (one.headD []) (other.headD []) path
            (outlet.find state path)
          rw [build_cons_of_error visited]
          rcases alike with same | ⟨name, cause, otherName, otherCause, failed, otherFailed⟩
          · rw [build_cons_of_error (same.symm.trans visited)]
            exact ⟨rfl, .same _, events_eq, nofun⟩
          · cases visited.symm.trans failed
            rw [build_cons_of_error otherFailed]
            exact ⟨rfl, .undecodable path name otherName cause otherCause, events_eq, nofun⟩
      | ok block? =>
          have otherVisited := visit_eq_ok_of_eq_ok visited (other.headD [])
          have perm := perm_events_visit visited (other.headD [])
          cases block? with
          | none =>
              rw [build_cons_of_skipped visited, build_cons_of_skipped otherVisited]
              exact (ih state one.tail other.tail).after events_eq perm _
          | some block =>
              rcases written : outlet.writeBlock state block with ⟨next, _ | fault⟩
              · rw [build_cons_of_taken visited written, build_cons_of_taken otherVisited written]
                exact (ih next one.tail other.tail).after events_eq perm _
              · rw [build_cons_of_refused visited written,
                  build_cons_of_refused otherVisited written]
                exact ⟨rfl, .same _, events_eq, nofun⟩

end CallGraph
