import CallGraph.Proofs.Build.Blocks

/-!
# Outlets that refuse

An outlet that has room for so many bytes gets just these bytes of the graph, and the build ends at
the archive whose block does not fit.  It does not matter in which pieces a block is written.  An
outlet that cannot be flushed gets the first block as a whole, and the build ends there.  In either
case the build up to its end goes as it does with an outlet that takes everything, and a build
that is refused something does not succeed.
-/

namespace CallGraph

namespace Outlet

/-- Writes pieces one after the other, up to the first one that is refused. -/
def writeAll {σ : Type} (outlet : Outlet σ) : σ → List Bytes → σ × Option OutletFault
  | state, [] => (state, none)
  | state, piece :: pieces =>
    match outlet.write state piece with
    | (state, some fault) => (state, some fault)
    | (state, none) => outlet.writeAll state pieces

variable {find : String → Lookup} {limit : ℕ} {taken bytes : Bytes}

theorem limited_write_of_le (fits : (taken ++ bytes).length ≤ limit) :
    (limited find limit).write taken bytes = (taken ++ bytes, none) := by
  rw [List.length_append] at fits
  exact if_pos fits

theorem limited_write_of_lt (exceeds : limit < (taken ++ bytes).length) :
    (limited find limit).write taken bytes = ((taken ++ bytes).take limit, some .full) := by
  rw [List.length_append] at exceeds
  exact if_neg (Nat.not_le.mpr exceeds)

/-- Room for so many bytes is used in the same way by the pieces as by the whole. -/
theorem limited_writeAll (room : taken.length ≤ limit) (pieces : List Bytes) :
    (limited find limit).writeAll taken pieces =
      (limited find limit).write taken pieces.flatten := by
  induction pieces generalizing taken with
  | nil =>
      have fits : (taken ++ []).length ≤ limit := by rwa [List.append_nil]
      rw [List.flatten_nil, limited_write_of_le fits, List.append_nil]
      rfl
  | cons piece pieces ih =>
      rw [writeAll, List.flatten_cons]
      by_cases fits : (taken ++ piece).length ≤ limit
      · simp only [limited_write_of_le fits]
        rw [ih fits]
        simp only [limited, List.append_assoc, List.length_append, Nat.add_assoc]
      · have exceeds := Nat.not_le.mp fits
        simp only [limited_write_of_lt exceeds]
        rw [limited_write_of_lt, ← List.append_assoc,
          List.take_append_of_le_length (Nat.le_of_lt exceeds)]
        rw [← List.append_assoc, List.length_append]
        exact Nat.lt_add_right _ exceeds

end Outlet

variable {find : String → Lookup} {filter : IdentifierFilter} {limit : ℕ} {schedule : Schedule}

/-- As long as the output of an archive fits, a build goes on behind it as it does with an outlet
that takes everything. -/
theorem build_limited_cons_of_le {path : String} {block? : Option Block} {taken : Bytes}
    (visited : (visit filter (schedule.headD []) path (find path)).result = .ok block?)
    (fits : (taken ++ block?.elim [] Block.bytes).length ≤ limit) (paths : List String) :
    build (.limited find limit) filter (path :: paths) taken schedule =
      (build (.limited find limit) filter paths (taken ++ block?.elim [] Block.bytes)
        schedule.tail).after (visit filter (schedule.headD []) path (find path)).events
          (.ofVisit block?) := by
  cases block? with
  | none =>
      rw [build_cons_of_skipped visited, Option.elim_none, List.append_nil]
      rfl
  | some block =>
      refine build_cons_of_taken visited ?_ paths
      rw [Option.elim_some] at fits ⊢
      rw [Outlet.writeBlock, Outlet.limited_write_of_le fits]
      rfl

/-- What was written before is part of what is written at the end. -/
theorem prefix_build_collecting (paths : List String) (taken : Bytes) (schedule : Schedule) :
    taken <+: (build (.collecting find) filter paths taken schedule).state := by
  rw [build_collecting_eq_behind]
  exact List.prefix_append taken _

theorem length_le_build_collecting (paths : List String) (taken : Bytes) (schedule : Schedule) :
    taken.length ≤ (build (.collecting find) filter paths taken schedule).state.length :=
  (prefix_build_collecting paths taken schedule).length_le

/-- An outlet with enough room is as good as one that takes everything. -/
theorem build_limited_of_le {paths : List String} {taken : Bytes}
    (fits : (build (.collecting find) filter paths taken schedule).state.length ≤ limit) :
    build (.limited find limit) filter paths taken schedule =
      build (.collecting find) filter paths taken schedule := by
  induction paths generalizing taken schedule with
  | nil => rfl
  | cons path paths ih =>
      rw [build_collecting_cons] at fits ⊢
      cases result : (visit filter (schedule.headD []) path (find path)).result with
      | error fault => exact build_cons_of_error result paths
      | ok block? =>
          rw [result] at fits
          have room := Nat.le_trans (length_le_build_collecting _ _ _) fits
          rw [build_limited_cons_of_le result room, ih fits]

/-- As long as the output fits, a build goes on as it does with an outlet that takes everything. -/
theorem build_limited_append {front : List String} {taken : Bytes} {tally : Tally}
    (succeeded : (build (.collecting find) filter front taken schedule).result = .ok tally)
    (fits : (build (.collecting find) filter front taken schedule).state.length ≤ limit)
    (others : List String) :
    build (.limited find limit) filter (front ++ others) taken schedule =
      (build (.limited find limit) filter others
        (build (.collecting find) filter front taken schedule).state
          (schedule.drop front.length)).after
            (build (.collecting find) filter front taken schedule).events tally := by
  induction front generalizing taken tally schedule with
  | nil =>
      rw [build_collecting_nil] at succeeded ⊢
      cases succeeded
      simp
  | cons path front ih =>
      rw [build_collecting_cons] at succeeded fits ⊢
      rw [List.length_cons, ← List.drop_tail]
      cases result : (visit filter (schedule.headD []) path (find path)).result with
      | error fault =>
          rw [result] at succeeded
          cases succeeded
      | ok block? =>
          rw [result] at succeeded fits
          obtain ⟨later, succeededLater, rfl⟩ := Fallible.map_eq_ok_iff.mp succeeded
          have room := Nat.le_trans (length_le_build_collecting _ _ _) fits
          rw [List.cons_append, build_limited_cons_of_le result room, ih succeededLater fits,
            Report.after_after]
          rfl

/-- A byte of the output belongs to the block of one of the archives. -/
theorem exists_block_of_lt {paths : List String} {taken : Bytes} {position : ℕ}
    (behind : taken.length ≤ position)
    (within : position < (build (.collecting find) filter paths taken schedule).state.length) :
    ∃ front path back block tally, paths = front ++ path :: back ∧
      (build (.collecting find) filter front taken schedule).result = .ok tally ∧
      (∀ turns, (visit filter turns path (find path)).result = .ok (some block)) ∧
      (build (.collecting find) filter front taken schedule).state.length ≤ position ∧
      position <
        ((build (.collecting find) filter front taken schedule).state ++ block.bytes).length := by
  induction paths generalizing taken schedule with
  | nil => exact absurd within (Nat.not_lt.mpr behind)
  | cons path paths ih =>
      rw [build_collecting_cons] at within
      cases result : (visit filter (schedule.headD []) path (find path)).result with
      | error fault =>
          rw [result] at within
          exact absurd within (Nat.not_lt.mpr behind)
      | ok block? =>
          rw [result] at within
          by_cases later : (taken ++ block?.elim [] Block.bytes).length ≤ position
          · obtain ⟨front, other, back, block, tally, rfl, succeeded, visited, before, inside⟩ :=
              ih later within
            refine ⟨path :: front, other, back, block, .ofVisit block? + tally, rfl, ?_, visited,
              ?_⟩
            · rw [build_collecting_cons, result]
              exact Fallible.map_eq_ok_iff.mpr ⟨tally, succeeded, rfl⟩
            · rw [build_collecting_cons, result]
              exact ⟨before, inside⟩
          · cases block? with
            | none =>
                rw [Option.elim_none, List.append_nil] at later
                exact absurd behind later
            | some block =>
                exact ⟨[], path, paths, block, .zero, rfl, rfl, visit_eq_ok_of_eq_ok result,
                  behind, Nat.not_le.mp later⟩

/-- The build ends at the archive whose block does not fit, whatever archives stand behind it. -/
theorem build_limited_of_lt {front : List String} {path : String} {block : Block} {taken : Bytes}
    {tally : Tally}
    (succeeded : (build (.collecting find) filter front taken schedule).result = .ok tally)
    (visited : ∀ turns, (visit filter turns path (find path)).result = .ok (some block))
    (fits : (build (.collecting find) filter front taken schedule).state.length ≤ limit)
    (exceeds : limit <
      ((build (.collecting find) filter front taken schedule).state ++ block.bytes).length)
    (others : List String) :
    build (.limited find limit) filter (front ++ path :: others) taken schedule =
      ⟨((build (.collecting find) filter front taken schedule).state ++ block.bytes).take limit,
        (build (.collecting find) filter (front ++ [path]) taken schedule).events,
        .error (.write path .full)⟩ := by
  have refused : (Outlet.limited find limit).writeBlock
      (build (.collecting find) filter front taken schedule).state block =
        (((build (.collecting find) filter front taken schedule).state ++ block.bytes).take limit,
          some .full) := by
    rw [Outlet.writeBlock, Outlet.limited_write_of_lt exceeds]
  rw [build_limited_append succeeded fits, build_cons_of_refused (visited _) refused,
    build_append_of_ok [path] succeeded, build_collecting_cons, visited]
  simp only
  rw [build_collecting_nil]
  simp [Report.after, Except.map, Outlet.limited]

/-- The output of archives starts with the output of the first ones, block by block. -/
theorem exists_state_eq_append {front : List String} {path : String} {block : Block} {taken : Bytes}
    {tally : Tally}
    (succeeded : (build (.collecting find) filter front taken schedule).result = .ok tally)
    (visited : ∀ turns, (visit filter turns path (find path)).result = .ok (some block))
    (others : List String) :
    ∃ rest, (build (.collecting find) filter (front ++ path :: others) taken schedule).state =
      (build (.collecting find) filter front taken schedule).state ++ block.bytes ++ rest := by
  rw [build_append_of_ok _ succeeded, build_collecting_cons, visited]
  obtain ⟨rest, split⟩ :
      (build (.collecting find) filter front taken schedule).state ++ block.bytes <+:
        (build (.collecting find) filter others
          ((build (.collecting find) filter front taken schedule).state ++ block.bytes)
          (schedule.drop front.length).tail).state :=
    prefix_build_collecting others _ _
  exact ⟨rest, split.symm⟩

/-! ## No flushing -/

section Unflushable

variable {σ : Type} {outlet : Outlet σ} {state : σ}

theorem visit_of_skips {lookup : Lookup} (skips : lookup = .missing ∨ lookup = .unreadable)
    (filter : IdentifierFilter) (turns : Turns) (path : String) :
    visit filter turns path lookup = ⟨(visit filter [] path lookup).events, .ok none⟩ := by
  rcases skips with rfl | rfl <;> rfl

theorem build_append_of_skipped {front : List String}
    (skipped : ∀ path ∈ front,
      outlet.find state path = .missing ∨ outlet.find state path = .unreadable)
    (others : List String) (schedule : Schedule) :
    build outlet filter (front ++ others) state schedule =
      (build outlet filter others state (schedule.drop front.length)).after
        (front.flatMap fun path => (visit filter [] path (outlet.find state path)).events)
        (.ofVisits (front.map fun _ => none)) := by
  induction front generalizing schedule with
  | nil => exact (Report.after_zero _).symm
  | cons path front ih =>
      obtain ⟨first, rest⟩ := List.forall_mem_cons.mp skipped
      have visited := visit_of_skips first filter (schedule.headD []) path
      rw [List.cons_append, build_cons_of_skipped (by rw [visited]), ih rest, Report.after_after,
        visited, List.length_cons, ← List.drop_tail]
      rfl

/-- A block that cannot be flushed is refused, although it was written. -/
theorem writeBlock_unflushable {next : σ} {block : Block}
    (written : outlet.write state block.bytes = (next, none)) :
    outlet.unflushable.writeBlock state block = (next, some .unflushable) := by
  have same : outlet.unflushable.write state block.bytes = (next, none) := written
  rw [Outlet.writeBlock, same]
  rfl

/-- A build that cannot be flushed never succeeds. -/
theorem build_unflushable_ne_ok (paths : List String) (schedule : Schedule) (tally : Tally) :
    (build outlet.unflushable filter paths state schedule).result ≠ .ok tally := by
  induction paths generalizing state schedule tally with
  | nil =>
      intro succeeded
      contradiction
  | cons path paths ih =>
      cases visited : (visit filter (schedule.headD []) path
          (outlet.unflushable.find state path)).result with
      | error fault =>
          rw [build_cons_of_error visited]
          intro succeeded
          contradiction
      | ok block? =>
          cases block? with
          | none =>
              rw [build_cons_of_skipped visited]
              intro succeeded
              obtain ⟨later, succeededLater, -⟩ := Fallible.map_eq_ok_iff.mp succeeded
              exact ih _ later succeededLater
          | some block =>
              have refused : ∃ next fault,
                  outlet.unflushable.writeBlock state block = (next, some fault) := by
                rcases written : outlet.write state block.bytes with ⟨next, _ | fault⟩
                · exact ⟨next, .unflushable, writeBlock_unflushable written⟩
                · have same : outlet.unflushable.write state block.bytes = (next, some fault) :=
                    written
                  refine ⟨next, fault, ?_⟩
                  rw [Outlet.writeBlock, same]
              obtain ⟨next, fault, refused⟩ := refused
              rw [build_cons_of_refused visited refused]
              intro succeeded
              contradiction

end Unflushable

/-! ## The graph of a tree -/

variable {tree : FileTree} {filter : IdentifierFilter} {schedule : Schedule}

/-- Nothing can be opened at a path. -/
def FileTree.Skips (tree : FileTree) (path : String) : Prop :=
  tree.lookup path = .missing ∨ tree.lookup path = .unreadable

/-- The byte at a position of the graph of `front ++ path :: back` belongs to the block of the
archive at `path`, with which the graph goes on behind the graph of `front`. -/
structure HoldsByte (tree : FileTree) (filter : IdentifierFilter) (schedule : Schedule)
    (front : List String) (path : String) (back : List String) (position : ℕ) (block : Block) :
    Prop where
  before : ∃ tally, (graph tree filter front schedule).result = .ok tally
  visited : ∀ turns, (visit filter turns path (tree.lookup path)).result = .ok (some block)
  output : ∃ rest, (graph tree filter (front ++ path :: back) schedule).state =
    (graph tree filter front schedule).state ++ block.bytes ++ rest
  start_le : (graph tree filter front schedule).state.length ≤ position
  lt_stop : position < (graph tree filter front schedule).state.length + block.bytes.length

/-- Every byte of a graph belongs to the block of an archive. -/
theorem exists_holdsByte {paths : List String} {position : ℕ}
    (within : position < (graph tree filter paths schedule).state.length) :
    ∃ front path back block, paths = front ++ path :: back ∧
      HoldsByte tree filter schedule front path back position block := by
  obtain ⟨front, path, back, block, tally, rfl, succeeded, visited, before, inside⟩ :=
    exists_block_of_lt (Nat.zero_le position) within
  rw [List.length_append] at inside
  exact ⟨front, path, back, block, rfl, ⟨tally, succeeded⟩, visited,
    exists_state_eq_append succeeded visited back, before, inside⟩

/-- If there is room up to a byte of a block, the build ends at the archive of the block, whatever
archives stand behind it, and all bytes in front of that byte are written. -/
theorem HoldsByte.build_limited {front back : List String} {path : String} {limit : ℕ}
    {block : Block} (holds : HoldsByte tree filter schedule front path back limit block)
    (others : List String) :
    build (.limited tree.lookup limit) filter (front ++ path :: others) [] schedule =
      { state := (graph tree filter (front ++ path :: back) schedule).state.take limit
        events := (graph tree filter (front ++ [path]) schedule).events
        result := .error (.write path .full) } := by
  obtain ⟨tally, succeeded⟩ := holds.before
  obtain ⟨rest, split⟩ := holds.output
  have exceeds := holds.lt_stop
  rw [← List.length_append] at exceeds
  rw [split, List.take_append_of_le_length (Nat.le_of_lt exceeds)]
  exact build_limited_of_lt succeeded holds.visited holds.start_le exceeds others

/-- If no block can be flushed, the build ends at the first archive that has a block, and the block
is written as a whole. -/
theorem build_unflushable_of_visited {front : List String} {path : String} {block : Block}
    (skipped : ∀ earlier ∈ front, tree.Skips earlier)
    (visited : ∀ turns, (visit filter turns path (tree.lookup path)).result = .ok (some block))
    (others : List String) :
    build (Outlet.collecting tree.lookup).unflushable filter (front ++ path :: others) []
        schedule =
      { state := block.bytes
        events := (graph tree filter (front ++ [path]) schedule).events
        result := .error (.write path .unflushable) } := by
  have refused : (Outlet.collecting tree.lookup).unflushable.writeBlock [] block =
      (block.bytes, some .unflushable) := writeBlock_unflushable rfl
  rw [graph, build_append_of_skipped skipped, build_append_of_skipped skipped,
    build_cons_of_refused (visited _) refused, build_cons_of_taken (visited _) rfl,
    build_collecting_nil]
  simp [Report.after, Except.map, Outlet.unflushable, Outlet.collecting]

/-- If nothing can be opened, the graph as a whole is refused. -/
theorem build_unflushable_of_skipped {paths : List String}
    (skipped : ∀ path ∈ paths, tree.Skips path) :
    build (Outlet.collecting tree.lookup).unflushable filter paths [] schedule =
      { state := []
        events := (graph tree filter paths schedule).events
        result := .error (.flush .unflushable) } := by
  rw [graph, ← List.append_nil paths, build_append_of_skipped skipped,
    build_append_of_skipped skipped]
  simp [Report.after, Except.map, build, Outlet.unflushable, Outlet.collecting]

/-- An archive without a block that comes before any block is a fault as it is without refusals. -/
theorem build_unflushable_of_error {front : List String} {path : String} {turns : Turns}
    {fault : VisitFault} (skipped : ∀ earlier ∈ front, tree.Skips earlier)
    (failed : (visit filter turns path (tree.lookup path)).result = .error fault)
    (others : List String) :
    build (Outlet.collecting tree.lookup).unflushable filter (front ++ path :: others) []
        schedule =
      graph tree filter (front ++ path :: others) schedule := by
  rw [graph, build_append_of_skipped skipped, build_append_of_skipped skipped]
  cases visited : (visit filter ((schedule.drop front.length).headD []) path
      (tree.lookup path)).result with
  | ok block? =>
      rw [visit_eq_ok_of_eq_ok visited turns] at failed
      contradiction
  | error cause =>
      rw [build_cons_of_error visited, build_cons_of_error visited]
      rfl

theorem BuildFault.text_write (path : String) (fault : OutletFault) :
    String.intercalate ": " (BuildFault.write path fault).chain =
      "failed to write graph for " ++ path ++ (": " ++ fault.message) := by
  rw [← String.append_assoc]
  rfl

/-- How the build of a graph goes with outlets that refuse something, as against an outlet that
takes everything while the workers take the same turns. -/
structure Refused (tree : FileTree) (filter : IdentifierFilter) (paths : List String)
    (schedule : Schedule) : Prop where
  /-- An outlet with room for the graph gets the graph, and the build goes as it would. -/
  room : ∀ limit, (graph tree filter paths schedule).state.length ≤ limit →
    build (.limited tree.lookup limit) filter paths [] schedule = graph tree filter paths schedule
  /-- An outlet with less room gets as many bytes of the graph as it has room for.  The build fails
  at the archive whose block holds the first byte without room, whatever archives are behind. -/
  full : ∀ limit, limit < (graph tree filter paths schedule).state.length →
    ∃ front path back block, paths = front ++ path :: back ∧
      HoldsByte tree filter schedule front path back limit block ∧
      (∀ others, build (.limited tree.lookup limit) filter (front ++ path :: others) [] schedule =
        { state := (graph tree filter paths schedule).state.take limit
          events := (graph tree filter (front ++ [path]) schedule).events
          result := .error (.write path .full) }) ∧
      String.intercalate ": " (BuildFault.write path .full).chain =
        "failed to write graph for " ++ path ++ ": sink full"
  /-- The outlet gets the same bytes in whatever pieces a block is written. -/
  pieces : ∀ limit taken pieces, taken.length ≤ limit →
    (Outlet.limited tree.lookup limit).writeAll taken pieces =
      (Outlet.limited tree.lookup limit).write taken pieces.flatten
  /-- If flushing is refused, the build fails at the first archive that has a block, unless a fault
  comes first, and just this block is written. -/
  flushBlock : ∀ front path back turns block, paths = front ++ path :: back →
    (∀ earlier ∈ front, tree.Skips earlier) →
    (visit filter turns path (tree.lookup path)).result = .ok (some block) →
    build (Outlet.collecting tree.lookup).unflushable filter paths [] schedule =
      { state := block.bytes
        events := (graph tree filter (front ++ [path]) schedule).events
        result := .error (.write path .unflushable) } ∧
    String.intercalate ": " (BuildFault.write path .unflushable).chain =
      "failed to write graph for " ++ path ++ ": sink flush"
  /-- If nothing is there to be visited, the build fails at its end. -/
  flushGraph : (∀ path ∈ paths, tree.Skips path) →
    build (Outlet.collecting tree.lookup).unflushable filter paths [] schedule =
      { state := []
        events := (graph tree filter paths schedule).events
        result := .error (.flush .unflushable) } ∧
    String.intercalate ": " (BuildFault.flush .unflushable).chain =
      "failed to flush graph output: sink flush"
  /-- A fault that comes before any block is the fault of the build. -/
  fault : ∀ front path back turns fault, paths = front ++ path :: back →
    (∀ earlier ∈ front, tree.Skips earlier) →
    (visit filter turns path (tree.lookup path)).result = .error fault →
    build (Outlet.collecting tree.lookup).unflushable filter paths [] schedule =
      graph tree filter paths schedule
  /-- If flushing is refused, the build does not succeed. -/
  ne_ok : ∀ tally,
    (build (Outlet.collecting tree.lookup).unflushable filter paths [] schedule).result ≠ .ok tally

/-- Refusals are reported and leave the output in front of them. -/
theorem graph_refused (tree : FileTree) (filter : IdentifierFilter) (paths : List String)
    (schedule : Schedule) : Refused tree filter paths schedule where
  room _ := build_limited_of_le
  full := by
    intro limit within
    obtain ⟨front, path, back, block, rfl, holds⟩ := exists_holdsByte within
    exact ⟨front, path, back, block, rfl, holds, holds.build_limited,
      BuildFault.text_write path .full⟩
  pieces _ _ pieces room := Outlet.limited_writeAll room pieces
  flushBlock := by
    rintro front path back turns block rfl skipped visited
    exact ⟨build_unflushable_of_visited skipped (visit_eq_ok_of_eq_ok visited) back,
      BuildFault.text_write path .unflushable⟩
  flushGraph skipped := ⟨build_unflushable_of_skipped skipped, rfl⟩
  fault := by
    rintro front path back turns fault rfl skipped failed
    exact build_unflushable_of_error skipped failed back
  ne_ok := build_unflushable_ne_ok paths schedule

end CallGraph
