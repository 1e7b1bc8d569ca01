import CallGraph.FileTree

/-!
# Writing one file of a tree

A file that is written stands at one place.  Paths that lead elsewhere lead to what they led to
before.  A path that would have gone on from that place leads nowhere, before as well as afterwards.
-/

namespace CallGraph

namespace FileTree

variable {tree : FileTree} {place other : Place} {contents : Bytes}

theorem lookup_filter_ne {nodes : List (Place × Node)} (apart : other ≠ place) :
    (nodes.filter (·.1 != place)).lookup other = nodes.lookup other := by
  induction nodes with
  | nil => rfl
  | cons entry nodes ih =>
      rcases entry with ⟨key, node⟩
      by_cases replaced : key = place
      · have passed : (other == key) = false := by simpa [replaced] using apart
        rw [List.filter_cons_of_neg (by simpa using replaced), ih, List.lookup_cons, passed]
      · rw [List.filter_cons_of_pos (by simpa using replaced), List.lookup_cons,
          List.lookup_cons, ih]

/-- What is at a place after something is put somewhere below the outermost directories. -/
theorem node?_put (inner : isOutermost place = false) (node : Node) :
    (tree.put place node).node? other = if other = place then some node else tree.node? other := by
  by_cases same : other = place
  · rw [if_pos same, same, node?, inner]
    simp [put]
  · have passed : (other == place) = false := by simpa using same
    rw [if_neg same, node?, node?, put, List.lookup_cons, passed]
    simp only [lookup_filter_ne same]

@[simp]
theorem put_put (one two : Node) : (tree.put place one).put place two = tree.put place two := by
  simp [put, List.filter_filter]

theorem isOutermost_of_node?_ne (found : tree.node? place ≠ some .directory) :
    isOutermost place = false := by
  cases outermost : isOutermost place with
  | false => rfl
  | true => exact absurd (if_pos outermost) found

theorem append_put (inner : isOutermost place = false) (bytes : Bytes) :
    (tree.put place (.file contents)).append place bytes =
      tree.put place (.file (contents ++ bytes)) := by
  rw [append, node?_put inner, if_pos rfl]
  exact put_put _ _

/-- The place of a file that is there or could be made there. -/
def Target.place? : Target → Option Place
  | .file place _ => some place
  | .absent place => some place
  | _ => none

theorem follow_cons {start : Place} {name : String} (steps : List String) (noDot : name ≠ ".")
    (noDots : name ≠ "..") :
    tree.follow start (name :: steps) =
      if nameLimit < name.utf8ByteSize then .nameTooLong
      else
        match tree.node? (start ++ [name]), steps with
        | some .directory, steps => tree.follow (start ++ [name]) steps
        | some (.file contents), [] => .file (start ++ [name]) contents
        | some (.file _), _ :: _ => .noDirectory
        | none, [] => .absent (start ++ [name])
        | none, _ :: _ => .noEntry := by
  rw [follow] <;> first | rfl | assumption

/-- There is no directory where a path leads to the place of a file. -/
theorem node?_ne_of_follow {start : Place} {steps : List String}
    (leads : (tree.follow start steps).place? = some place) :
    tree.node? place ≠ some .directory := by
  induction steps generalizing start with
  | nil => contradiction
  | cons name steps ih =>
      by_cases dot : name = "."
      · subst dot
        exact ih leads
      · by_cases dots : name = ".."
        · subst dots
          exact ih leads
        · rw [follow_cons steps dot dots] at leads
          by_cases long : nameLimit < name.utf8ByteSize
          · rw [if_pos long] at leads
            contradiction
          · rw [if_neg long] at leads
            cases found : tree.node? (start ++ [name]) with
            | none =>
                rw [found] at leads
                cases steps with
                | nil =>
                    obtain rfl := Option.some.inj leads
                    simp [found]
                | cons _ _ => contradiction
            | some node =>
                rw [found] at leads
                cases node with
                | directory => exact ih leads
                | file contents =>
                    cases steps with
                    | nil =>
                        obtain rfl := Option.some.inj leads
                        simp [found]
                    | cons _ _ => contradiction

/-- What a path leads to before and after the file at a place is written. -/
inductive Target.Written (place : Place) (contents : Bytes) : Target → Target → Prop where
  /-- The path leads elsewhere. -/
  | same {target : Target} (apart : target.place? ≠ some place) :
      Written place contents target target
  | file {old : Bytes} : Written place contents (.file place old) (.file place contents)
  | absent : Written place contents (.absent place) (.file place contents)
  /-- The path goes on from the place as if a directory were there. -/
  | blocked : Written place contents .noEntry .noDirectory

theorem written_follow (free : tree.node? place ≠ some .directory) (contents : Bytes)
    (start : Place) (steps : List String) :
    Target.Written place contents (tree.follow start steps)
      ((tree.put place (.file contents)).follow start steps) := by
  have inner := isOutermost_of_node?_ne free
  induction steps generalizing start with
  | nil => exact .same nofun
  | cons name steps ih =>
      by_cases dot : name = "."
      · subst dot
        exact ih start
      · by_cases dots : name = ".."
        · subst dots
          exact ih (above start)
        · rw [follow_cons steps dot dots, follow_cons steps dot dots, node?_put inner]
          by_cases long : nameLimit < name.utf8ByteSize
          · rw [if_pos long, if_pos long]
            exact .same nofun
          · rw [if_neg long, if_neg long]
            by_cases here : start ++ [name] = place
            · rw [if_pos here, here]
              rcases found : tree.node? place with _ | _ | old
              · cases steps with
                | nil => exact .absent
                | cons _ _ => exact .blocked
              · exact absurd found free
              · cases steps with
                | nil => exact .file
                | cons _ _ => exact .same nofun
            · rw [if_neg here]
              rcases tree.node? (start ++ [name]) with _ | _ | old
              · cases steps with
                | nil => exact .same fun same => here (Option.some.inj same)
                | cons _ _ => exact .same nofun
              · exact ih (start ++ [name])
              · cases steps with
                | nil => exact .same fun same => here (Option.some.inj same)
                | cons _ _ => exact .same nofun

theorem written_resolve (free : tree.node? place ≠ some .directory) (contents : Bytes)
    (path : String) :
    Target.Written place contents (tree.resolve path)
      ((tree.put place (.file contents)).resolve path) := by
  rw [resolve, resolve]
  by_cases isEmpty : path.isEmpty = true
  · rw [if_pos isEmpty, if_pos isEmpty]
    exact .same nofun
  · rw [if_neg isEmpty, if_neg isEmpty]
    exact written_follow free contents (startOf path) (steps path)

/-! ## Files by their paths -/

/-- The place of the file that a path names, whether or not the file is there. -/
def fileAt? (tree : FileTree) (path : String) : Option Place :=
  if endsInSlash path then none else (tree.resolve path).place?

theorem fileAt?_eq_some_iff {path : String} :
    tree.fileAt? path = some place ↔
      endsInSlash path = false ∧ (tree.resolve path).place? = some place := by
  rw [fileAt?]
  cases endsInSlash path <;> simp

theorem node?_ne_of_fileAt? {path : String} (named : tree.fileAt? path = some place) :
    tree.node? place ≠ some .directory := by
  obtain ⟨-, leads⟩ := fileAt?_eq_some_iff.mp named
  rw [resolve] at leads
  by_cases isEmpty : path.isEmpty = true
  · rw [if_pos isEmpty] at leads
    contradiction
  · rw [if_neg isEmpty] at leads
    exact node?_ne_of_follow leads

/-- A file is created at the place that its path names, and it is empty. -/
theorem create_eq_ok_iff {path : String} {created : FileTree} :
    tree.create path = .ok (created, place) ↔
      tree.fileAt? path = some place ∧ created = tree.put place (.file []) := by
  rw [fileAt?_eq_some_iff, create]
  cases tree.resolve path <;> cases slash : endsInSlash path <;>
    simp only [create.atPlace, Target.place?, slash] <;> grind

section Written

variable {path : String} (free : tree.node? place ≠ some .directory)
  (apart : tree.fileAt? path ≠ some place)

include free apart

/-- A path that names another file leads to what it led to before, unless it leads nowhere. -/
theorem resolve_put (plain : endsInSlash path = false) (contents : Bytes) :
    (tree.put place (.file contents)).resolve path = tree.resolve path ∨
      tree.resolve path = .noEntry ∧
        (tree.put place (.file contents)).resolve path = .noDirectory := by
  have written := written_resolve free contents path
  rw [fileAt?, plain] at apart
  generalize tree.resolve path = before at written apart
  generalize (tree.put place (.file contents)).resolve path = after at written
  cases written with
  | same => exact .inl rfl
  | file => exact absurd rfl apart
  | absent => exact absurd rfl apart
  | blocked => exact .inr ⟨rfl, rfl⟩

/-- A path that names another file leads to the same archive as before. -/
theorem lookup_put (contents : Bytes) :
    (tree.put place (.file contents)).lookup path = tree.lookup path := by
  rw [lookup, lookup]
  cases slash : endsInSlash path with
  | false =>
      rcases resolve_put free apart slash contents with same | ⟨before, after⟩
      · rw [same]
      · rw [before, after]
  | true =>
      have written := written_resolve free contents path
      generalize tree.resolve path = before at written
      generalize (tree.put place (.file contents)).resolve path = after at written
      cases written <;> simp only [if_true]

/-- A path that names another file has the same contents as before. -/
theorem read?_put (contents : Bytes) :
    (tree.put place (.file contents)).read? path = tree.read? path := by
  rw [read?, read?]
  cases slash : endsInSlash path with
  | false =>
      rcases resolve_put free apart slash contents with same | ⟨before, after⟩
      · rw [same]
      · rw [before, after]
  | true =>
      cases tree.resolve path <;> cases (tree.put place (.file contents)).resolve path <;> rfl

end Written

theorem read?_put_self {path : String} (named : tree.fileAt? path = some place)
    (contents : Bytes) : (tree.put place (.file contents)).read? path = some contents := by
  have written := written_resolve (node?_ne_of_fileAt? named) contents path
  obtain ⟨plain, leads⟩ := fileAt?_eq_some_iff.mp named
  rw [read?, plain]
  generalize tree.resolve path = before at written leads
  generalize (tree.put place (.file contents)).resolve path = after at written
  cases written with
  | same apart => exact absurd leads apart
  | file => rfl
  | absent => rfl
  | blocked => contradiction

/-- A file that can be opened as an archive is found as this archive. -/
theorem lookup_eq_archive {tree : FileTree} {path : String} {contents : Bytes} {archive : Archive}
    (held : tree.read? path = some contents)
    (opened : Archive.ofBytes? contents = some archive) : tree.lookup path = .archive archive := by
  rw [read?] at held
  split at held
  · next leads =>
    split at held
    · contradiction
    · next plain =>
      cases held
      rw [lookup, leads]
      simp only [if_neg plain, opened]
  · contradiction

end FileTree

end CallGraph
