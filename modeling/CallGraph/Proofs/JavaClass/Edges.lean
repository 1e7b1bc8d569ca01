import CallGraph.JavaClass.Edges
import Mathlib.Data.Prod.Lex
import Mathlib.Data.List.Basic

/-!
# What the edges of a class stand for

Every edge of a class stands for a place in the class: a reference for a slot of the constant pool,
a static call for an instruction, and a linked call for an instruction together with one of the
handles of its bootstrap method.  The edges come in the order of their places, one for each place
where a filter accepts the far end, and there are no others.  Places of linked calls are ordered by
the instruction and then by the handle.
-/

namespace CallGraph

/-- Items stand one to one and in order for what is found at places: each item that is found comes
once, behind those that are found at smaller places. -/
def ListsInOrder {ι β : Type} [LT ι] (found : ι → β → Prop) (items : List β) : Prop :=
  ∃ listed : List (ι × β), listed.map Prod.snd = items ∧
    (listed.map Prod.fst).Pairwise (· < ·) ∧
      ∀ place item, (place, item) ∈ listed ↔ found place item

namespace ListsInOrder

variable {ι κ α β : Type} [LT ι] [LT κ]

theorem congr {found other : ι → β → Prop} {items : List β} (lists : ListsInOrder found items)
    (same : ∀ place item, found place item ↔ other place item) : ListsInOrder other items := by
  obtain ⟨listed, items_eq, ordered, complete⟩ := lists
  exact ⟨listed, items_eq, ordered, fun place item => (complete place item).trans (same place item)⟩

theorem nil {found : ι → β → Prop} (nowhere : ∀ place item, ¬ found place item) :
    ListsInOrder found [] := by
  refine ⟨[], rfl, .nil, ?_⟩
  intro place item
  exact iff_of_false List.not_mem_nil (nowhere place item)

theorem singleton (place : ι) (item : β) :
    ListsInOrder (fun other found => other = place ∧ found = item) [item] := by
  refine ⟨[(place, item)], rfl, List.pairwise_singleton _ _, ?_⟩
  intro other found
  rw [List.mem_singleton, Prod.mk.injEq]

/-- The places may be moved if their order is kept. -/
theorem move {found : ι → β → Prop} {items : List β} (lists : ListsInOrder found items)
    (target : ι → κ) (monotone : ∀ one two, one < two → target one < target two) :
    ListsInOrder (fun place item => ∃ origin, target origin = place ∧ found origin item) items := by
  obtain ⟨listed, items_eq, ordered, complete⟩ := lists
  refine ⟨listed.map fun entry => (target entry.1, entry.2), ?_, ?_, ?_⟩
  · rw [List.map_map]
    exact items_eq
  · rw [List.map_map]
    rw [List.pairwise_map] at ordered ⊢
    exact ordered.imp (monotone _ _)
  · intro place item
    simp only [List.mem_map, Prod.exists, Prod.mk.injEq]
    constructor
    · rintro ⟨origin, _, member, moved, rfl⟩
      exact ⟨origin, moved, (complete _ _).mp member⟩
    · rintro ⟨origin, moved, atOrigin⟩
      exact ⟨origin, item, (complete _ _).mpr atOrigin, moved, rfl⟩

theorem append {found other : ι → β → Prop} {items others : List β}
    (first : ListsInOrder found items) (second : ListsInOrder other others)
    (apart : ∀ one two item later, found one item → other two later → one < two) :
    ListsInOrder (fun place item => found place item ∨ other place item) (items ++ others) := by
  obtain ⟨front, rfl, frontOrdered, frontComplete⟩ := first
  obtain ⟨back, rfl, backOrdered, backComplete⟩ := second
  refine ⟨front ++ back, List.map_append, ?_, ?_⟩
  · rw [List.map_append, List.pairwise_append]
    refine ⟨frontOrdered, backOrdered, ?_⟩
    intro one oneListed two twoListed
    obtain ⟨⟨one, item⟩, inFront, rfl⟩ := List.mem_map.mp oneListed
    obtain ⟨⟨two, later⟩, inBack, rfl⟩ := List.mem_map.mp twoListed
    exact apart one two item later ((frontComplete one item).mp inFront)
      ((backComplete two later).mp inBack)
  · intro place item
    rw [List.mem_append, frontComplete, backComplete]

/-- What a list of optional results leaves stands for the positions that have a result. -/
theorem filterMap (result? : α → Option β) (inputs : List α) :
    ListsInOrder (fun (position : ℕ) item =>
      ∃ input, inputs[position]? = some input ∧ result? input = some item)
      (inputs.filterMap result?) := by
  induction inputs with
  | nil => exact nil (by simp)
  | cons input inputs ih =>
      have later := ih.move (· + 1) fun _ _ => Nat.succ_lt_succ
      cases result : result? input with
      | none =>
          rw [List.filterMap_cons_none result]
          refine later.congr ?_
          rintro (_ | position) item
          · simp [result]
          · simp
      | some first =>
          rw [List.filterMap_cons_some result]
          refine ((singleton 0 first).append later ?_).congr ?_
          · rintro _ _ _ _ ⟨rfl, -⟩ ⟨position, rfl, -⟩
            exact Nat.succ_pos position
          · rintro (_ | position) item
            · simp [result, eq_comm]
            · simp

/-- The results of all inputs, one input after the other, stand for pairs: the position of the
input, and the place of the result for that input. -/
theorem flatMap {found : α → ℕ → β → Prop} {results : α → List β}
    (each : ∀ input, ListsInOrder (found input) (results input)) (inputs : List α) :
    ListsInOrder (fun (place : ℕ ×ₗ ℕ) item =>
      ∃ input, inputs[(ofLex place).1]? = some input ∧ found input (ofLex place).2 item)
      (inputs.flatMap results) := by
  induction inputs with
  | nil => exact nil (by simp)
  | cons input inputs ih =>
      have here := (each input).move (fun place => toLex (0, place)) fun _ _ less =>
        Prod.Lex.toLex_lt_toLex.mpr (.inr ⟨rfl, less⟩)
      have later := ih.move (fun place => toLex ((ofLex place).1 + 1, (ofLex place).2)) <| by
        intro one two less
        rcases Prod.Lex.lt_iff.mp less with before | ⟨same, less⟩
        · exact Prod.Lex.toLex_lt_toLex.mpr (.inl (Nat.succ_lt_succ before))
        · exact Prod.Lex.toLex_lt_toLex.mpr (.inr ⟨congrArg Nat.succ same, less⟩)
      rw [List.flatMap_cons]
      refine (here.append later ?_).congr ?_
      · rintro _ _ _ _ ⟨_, rfl, -⟩ ⟨_, rfl, -⟩
        exact Prod.Lex.toLex_lt_toLex.mpr (.inl (Nat.succ_pos _))
      · intro place item
        obtain ⟨⟨position, inner⟩, rfl⟩ := toLex.surjective place
        cases position with
        | zero => simp
        | succ position => simp

end ListsInOrder

/-! ## Places of edges -/

namespace JavaClass

variable (javaClass : JavaClass) (filter : IdentifierFilter) (method : Method)

/-- A class reference is found at a slot that names a class which the filter accepts. -/
def ReferenceAt (slot : ℕ) (edge : ClassReference) : Prop :=
  ∃ name, javaClass.pool[slot]? = some (.classRef name) ∧ filter.accepts name = true ∧
    edge = { owner := javaClass.name, referenced := name }

/-- A static call is found at an instruction that calls a method of a class which the filter
accepts. -/
def StaticCallAt (position : ℕ) (edge : MethodCall) : Prop :=
  ∃ offset site, method.instructions[position]? = some ⟨offset, .invoke site⟩ ∧
    filter.accepts site.owner = true ∧
      edge =
        { caller := ⟨javaClass.name, method.name, method.argumentTypes⟩
          dispatch := site.dispatch
          callee := ⟨site.owner, site.name, site.argumentTypes⟩ }

/-- A linked call is found at an instruction whose bootstrap method exists, and at a handle of that
bootstrap method which belongs to a class that the filter accepts. -/
def LinkedCallAt (place : ℕ ×ₗ ℕ) (edge : MethodCall) : Prop :=
  ∃ offset site index bootstrap handle,
    method.instructions[(ofLex place).1]? = some ⟨offset, .invoke site⟩ ∧
      site.bootstrapIndex = some index ∧
      javaClass.bootstrapMethods[index.toNat]? = some bootstrap ∧
      bootstrap.handles[(ofLex place).2]? = some handle ∧
      filter.accepts handle.owner = true ∧
      edge =
        { caller := ⟨javaClass.name, method.name, method.argumentTypes⟩
          dispatch := .dynamic
          callee := ⟨handle.owner, handle.name, handle.argumentTypes⟩ }

/-- An event is found at an instruction whose bootstrap method does not exist. -/
def MissingAt (position : ℕ) (event : Event) : Prop :=
  ∃ offset site index, method.instructions[position]? = some ⟨offset, .invoke site⟩ ∧
    site.bootstrapIndex = some index ∧ javaClass.bootstrapMethods.length ≤ index.toNat ∧
      event = .bootstrapMissing javaClass.name method.name offset index

variable {javaClass filter method}

theorem slotReference?_eq_some_iff {slot : PoolSlot} {edge : ClassReference} :
    javaClass.slotReference? filter slot = some edge ↔
      ∃ name, slot = .classRef name ∧ filter.accepts name = true ∧
        edge = { owner := javaClass.name, referenced := name } := by
  cases slot with
  | classRef name =>
      simp [slotReference?, Option.ite_none_right_eq_some, eq_comm (a := edge)]
  | empty => simp [slotReference?]
  | other => simp [slotReference?]

theorem listsInOrder_classReferences :
    ListsInOrder (javaClass.ReferenceAt filter) (javaClass.classReferences filter) := by
  refine (ListsInOrder.filterMap _ _).congr ?_
  intro slot edge
  simp only [slotReference?_eq_some_iff, ReferenceAt]
  constructor
  · rintro ⟨_, atSlot, name, rfl, accepted, rfl⟩
    exact ⟨name, atSlot, accepted, rfl⟩
  · rintro ⟨name, atSlot, accepted, rfl⟩
    exact ⟨_, atSlot, name, rfl, accepted, rfl⟩

end JavaClass

theorem Instruction.site?_eq_some_iff {instruction : Instruction} {site : CallSite} :
    instruction.site? = some site ↔ ∃ offset, instruction = ⟨offset, .invoke site⟩ := by
  rcases instruction with ⟨offset, _ | _⟩ <;> simp [Instruction.site?]

theorem CallSite.staticCall?_eq_some_iff {filter : IdentifierFilter} {caller : MethodSignature}
    {site : CallSite} {edge : MethodCall} :
    site.staticCall? filter caller = some edge ↔
      filter.accepts site.owner = true ∧ edge = ⟨caller, site.dispatch, site.callee⟩ := by
  rw [CallSite.staticCall?, Option.ite_none_right_eq_some, Option.some.injEq, eq_comm (a := edge)]

theorem MethodHandle.linkedCall?_eq_some_iff {filter : IdentifierFilter} {caller : MethodSignature}
    {handle : MethodHandle} {edge : MethodCall} :
    handle.linkedCall? filter caller = some edge ↔
      filter.accepts handle.owner = true ∧ edge = ⟨caller, .dynamic, handle.callee⟩ := by
  rw [MethodHandle.linkedCall?, Option.ite_none_right_eq_some, Option.some.injEq,
    eq_comm (a := edge)]

theorem CallSite.getElem?_handles_eq_some_iff {bootstrapMethods : List BootstrapMethod}
    {site : CallSite} {place : ℕ} {handle : MethodHandle} :
    (site.handles bootstrapMethods)[place]? = some handle ↔
      ∃ index bootstrap, site.bootstrapIndex = some index ∧
        bootstrapMethods[index.toNat]? = some bootstrap ∧
          bootstrap.handles[place]? = some handle := by
  unfold CallSite.handles
  cases site.bootstrapIndex with
  | none => simp
  | some index => cases found : bootstrapMethods[index.toNat]? <;> simp [found]

namespace Method

variable {method : Method}

theorem sites_of_hasBody (body : method.hasBody = true) :
    method.sites = method.instructions.filterMap (·.site?) :=
  if_pos body

theorem sites_of_not_hasBody (bodiless : ¬ method.hasBody = true) : method.sites = [] :=
  if_neg bodiless

end Method

namespace JavaClass

variable {javaClass : JavaClass} {filter : IdentifierFilter} {method : Method}

theorem listsInOrder_staticCalls (body : method.hasBody = true) :
    ListsInOrder (javaClass.StaticCallAt filter method)
      (method.staticCalls filter (javaClass.caller method)) := by
  rw [Method.staticCalls, Method.sites_of_hasBody body, List.filterMap_filterMap]
  refine (ListsInOrder.filterMap _ _).congr ?_
  intro position edge
  simp only [Option.bind_eq_some_iff, Instruction.site?_eq_some_iff,
    CallSite.staticCall?_eq_some_iff, StaticCallAt]
  constructor
  · rintro ⟨_, atPosition, site, ⟨offset, rfl⟩, accepted, rfl⟩
    exact ⟨offset, site, atPosition, accepted, rfl⟩
  · rintro ⟨offset, site, atPosition, accepted, rfl⟩
    exact ⟨_, atPosition, site, ⟨offset, rfl⟩, accepted, rfl⟩

/-- The linked calls of one instruction, by the place of the handle. -/
theorem listsInOrder_linkedCalls_instruction (instruction : Instruction) :
    ListsInOrder (fun (place : ℕ) edge =>
      ∃ site handle, instruction.site? = some site ∧
        (site.handles javaClass.bootstrapMethods)[place]? = some handle ∧
          handle.linkedCall? filter (javaClass.caller method) = some edge)
      (instruction.site?.toList.flatMap fun site =>
        (site.handles javaClass.bootstrapMethods).filterMap
          (MethodHandle.linkedCall? filter (javaClass.caller method))) := by
  cases found : instruction.site? with
  | none => exact .nil (by simp)
  | some site =>
      rw [Option.toList_some, List.flatMap_singleton]
      refine (ListsInOrder.filterMap _ _).congr ?_
      simp

theorem listsInOrder_linkedCalls (body : method.hasBody = true) :
    ListsInOrder (javaClass.LinkedCallAt filter method) (javaClass.linkedCalls filter method) := by
  rw [linkedCalls, Method.sites_of_hasBody body, List.filterMap_eq_flatMap_toList,
    List.flatMap_assoc]
  refine (ListsInOrder.flatMap listsInOrder_linkedCalls_instruction _).congr ?_
  intro place edge
  simp only [Instruction.site?_eq_some_iff, CallSite.getElem?_handles_eq_some_iff,
    MethodHandle.linkedCall?_eq_some_iff, LinkedCallAt]
  constructor
  · rintro ⟨_, atPosition, site, handle, ⟨offset, rfl⟩,
      ⟨index, bootstrap, indexed, found, handed⟩, accepted, rfl⟩
    exact ⟨offset, site, index, bootstrap, handle, atPosition, indexed, found, handed, accepted,
      rfl⟩
  · rintro ⟨offset, site, index, bootstrap, handle, atPosition, indexed, found, handed, accepted,
      rfl⟩
    exact ⟨_, atPosition, site, handle, ⟨offset, rfl⟩,
      ⟨index, bootstrap, indexed, found, handed⟩, accepted, rfl⟩

theorem linkEvent?_eq_some_iff {instruction : Instruction} {event : Event} :
    javaClass.linkEvent? method instruction = some event ↔
      ∃ offset site index, instruction = ⟨offset, .invoke site⟩ ∧
        site.bootstrapIndex = some index ∧ javaClass.bootstrapMethods.length ≤ index.toNat ∧
          event = .bootstrapMissing javaClass.name method.name offset index := by
  simp only [linkEvent?, bind, Option.bind_eq_some_iff, Instruction.site?_eq_some_iff,
    Option.ite_none_left_eq_some, Option.some.injEq, Nat.not_lt, eq_comm (a := event)]
  constructor
  · rintro ⟨site, ⟨offset, rfl⟩, index, indexed, missing, reported⟩
    exact ⟨offset, site, index, rfl, indexed, missing, reported⟩
  · rintro ⟨offset, site, index, rfl, indexed, missing, reported⟩
    exact ⟨site, ⟨offset, rfl⟩, index, indexed, missing, reported⟩

/-- What is reported about a class is that bootstrap methods do not exist. -/
theorem exists_eq_bootstrapMissing {event : Event} (reported : event ∈ javaClass.events) :
    ∃ methodName offset index,
      event = .bootstrapMissing javaClass.name methodName offset index := by
  obtain ⟨method, -, member⟩ := List.mem_flatMap.mp reported
  rw [linkEvents] at member
  split at member
  · obtain ⟨instruction, -, linked⟩ := List.mem_filterMap.mp member
    obtain ⟨offset, _, index, -, -, -, rfl⟩ := linkEvent?_eq_some_iff.mp linked
    exact ⟨method.name, offset, index, rfl⟩
  · contradiction

theorem listsInOrder_linkEvents (body : method.hasBody = true) :
    ListsInOrder (javaClass.MissingAt method) (javaClass.linkEvents method) := by
  rw [linkEvents, if_pos body]
  refine (ListsInOrder.filterMap _ _).congr ?_
  intro position event
  simp only [linkEvent?_eq_some_iff, MissingAt]
  constructor
  · rintro ⟨_, atPosition, offset, site, index, rfl, missing⟩
    exact ⟨offset, site, index, atPosition, missing⟩
  · rintro ⟨offset, site, index, atPosition, missing⟩
    exact ⟨_, atPosition, offset, site, index, rfl, missing⟩

theorem linkedCalls_of_not_hasBody (bodiless : ¬ method.hasBody = true) :
    javaClass.linkedCalls filter method = [] := by
  rw [linkedCalls, Method.sites_of_not_hasBody bodiless, List.flatMap_nil]

theorem staticCalls_of_not_hasBody (bodiless : ¬ method.hasBody = true) :
    method.staticCalls filter (javaClass.caller method) = [] := by
  rw [Method.staticCalls, Method.sites_of_not_hasBody bodiless, List.filterMap_nil]

theorem linkEvents_of_not_hasBody (bodiless : ¬ method.hasBody = true) :
    javaClass.linkEvents method = [] :=
  if_neg bodiless

theorem callsOf_of_not_hasBody (bodiless : ¬ method.hasBody = true) :
    javaClass.callsOf filter method = [] := by
  rw [callsOf, linkedCalls_of_not_hasBody bodiless, staticCalls_of_not_hasBody bodiless,
    List.append_nil]

end JavaClass

theorem flatMap_eq_flatMap_filter {α β : Type} {results : α → List β} {kept : α → Bool}
    (left : ∀ input, ¬ kept input = true → results input = []) (inputs : List α) :
    inputs.flatMap results = (inputs.filter kept).flatMap results := by
  induction inputs with
  | nil => rfl
  | cons input inputs ih =>
      by_cases keep : kept input = true
      · rw [List.filter_cons_of_pos keep, List.flatMap_cons, List.flatMap_cons, ih]
      · rw [List.filter_cons_of_neg keep, List.flatMap_cons, left input keep, List.nil_append, ih]

namespace JavaClass

/-- What is emitted for a class is what stands in it.  The calls are those of the methods that are
neither abstract nor native: for each method the linked calls of its instructions and their
handles, then the static calls, and an event for each instruction whose bootstrap method does not
exist. -/
theorem emitted_edges (javaClass : JavaClass) (filter : IdentifierFilter) :
    ListsInOrder (javaClass.ReferenceAt filter) (javaClass.classReferences filter) ∧
    javaClass.methodCalls filter =
      (javaClass.methods.filter fun method => !method.isAbstract && !method.isNative).flatMap
        (fun method => javaClass.linkedCalls filter method ++
          method.staticCalls filter (javaClass.caller method)) ∧
    javaClass.events =
      (javaClass.methods.filter fun method => !method.isAbstract && !method.isNative).flatMap
        javaClass.linkEvents ∧
    (∀ method : Method, method.isAbstract = false ∧ method.isNative = false →
      ListsInOrder (javaClass.LinkedCallAt filter method) (javaClass.linkedCalls filter method) ∧
      ListsInOrder (javaClass.StaticCallAt filter method)
        (method.staticCalls filter (javaClass.caller method)) ∧
      ListsInOrder (javaClass.MissingAt method) (javaClass.linkEvents method)) ∧
    ∀ method : Method, method.isAbstract = true ∨ method.isNative = true →
      javaClass.linkedCalls filter method = [] ∧
      method.staticCalls filter (javaClass.caller method) = [] ∧
      javaClass.linkEvents method = [] := by
  refine ⟨listsInOrder_classReferences, ?_, ?_, ?_, ?_⟩
  · exact flatMap_eq_flatMap_filter (fun _ => callsOf_of_not_hasBody) javaClass.methods
  · exact flatMap_eq_flatMap_filter (fun _ => linkEvents_of_not_hasBody) javaClass.methods
  · rintro method ⟨concrete, written⟩
    have body : method.hasBody = true := by rw [Method.hasBody, concrete, written]; rfl
    exact ⟨listsInOrder_linkedCalls body, listsInOrder_staticCalls body,
      listsInOrder_linkEvents body⟩
  · intro method without
    have bodiless : ¬ method.hasBody = true := by
      rcases without with unwritten | native
      · simp [Method.hasBody, unwritten]
      · simp [Method.hasBody, native]
    exact ⟨linkedCalls_of_not_hasBody bodiless, staticCalls_of_not_hasBody bodiless,
      linkEvents_of_not_hasBody bodiless⟩

end JavaClass

end CallGraph
