import Mathlib.Data.List.Chain
import Mathlib.Logic.Relation

/-!
# Depth-first search to a bounded depth

A search visits names and what they require, in the order in which it is listed, each name once.
It fails at a name that is being visited already, and at one that is too deep; a name that was
visited is not visited again, wherever it stands.

A search that succeeds has found no cycle. Where there is none, each name is visited through its
first chain: the one that goes, at each step, through the first name that leads there. The search
fails exactly if a first chain that is as long as the depth ends in a name that requires others.
-/

namespace PoisonedOS.DepthSearch

universe u
variable {Name : Type u} (required : Name → List Name)

/-- A name requires another one. -/
def Requires (name next : Name) : Prop := next ∈ required name

instance [DecidableEq Name] : DecidableRel (Requires required) := fun name next =>
  inferInstanceAs (Decidable (next ∈ required name))

/-- There is a chain from one name to another. -/
def Leads : Name → Name → Prop := Relation.ReflTransGen (Requires required)

/-- No name requires itself, by others or at once. -/
def Acyclic : Prop := ∀ name, ¬ Relation.TransGen (Requires required) name name

/-- The chain that leads from one of the listed names to a target, at each step through the first
name that does. -/
inductive FirstChain (target : Name) : List Name → List Name → Prop
  | here (rest : List Name) : FirstChain target (target :: rest) [target]
  | down {name : Name} {rest chain : List Name} (later : FirstChain target (required name) chain) :
      FirstChain target (name :: rest) (name :: chain)
  | skip {name : Name} {rest chain : List Name} (away : ¬ Leads required name target)
      (later : FirstChain target rest chain) : FirstChain target (name :: rest) chain

variable {required} {name target : Name} {options rest chain visiting visited : List Name}
  {levels : Nat}

theorem FirstChain.leads (first : FirstChain required target options chain) :
    ∃ option ∈ options, Leads required option target := by
  induction first with
  | here rest => exact ⟨target, List.mem_cons_self, .refl⟩
  | down later ih =>
    obtain ⟨next, isNext, leads⟩ := ih
    exact ⟨_, List.mem_cons_self, .head isNext leads⟩
  | skip away later ih =>
    obtain ⟨option, isOption, leads⟩ := ih
    exact ⟨option, List.mem_cons_of_mem _ isOption, leads⟩

/-- A first chain is a chain from an option to the target. -/
theorem FirstChain.isChain (first : FirstChain required target options chain) :
    chain.IsChain (Requires required) ∧ chain.getLast? = some target ∧
      ∃ option ∈ options, chain.head? = some option := by
  induction first with
  | here rest => exact ⟨.singleton _, rfl, target, List.mem_cons_self, rfl⟩
  | @down name rest chain later ih =>
    obtain ⟨isChain, last, next, isNext, head⟩ := ih
    cases chain with
    | nil => cases head
    | cons second others =>
      obtain rfl := Option.some.inj head
      exact ⟨.cons_cons isNext isChain, by rw [List.getLast?_cons_cons, last], name,
        List.mem_cons_self, rfl⟩
  | skip away later ih =>
    obtain ⟨isChain, last, option, isOption, head⟩ := ih
    exact ⟨isChain, last, option, List.mem_cons_of_mem _ isOption, head⟩

/-! ## What was visited -/

/-- With each name there is all that it requires. -/
def Closed (required : Name → List Name) (visited : List Name) : Prop :=
  ∀ name ∈ visited, ∀ next ∈ required name, next ∈ visited

theorem Closed.leads (closed : Closed required visited) (isVisited : name ∈ visited)
    (leads : Leads required name target) : target ∈ visited := by
  induction leads with
  | refl => exact isVisited
  | tail _ requires ih => exact closed _ ih _ requires

/-- Each name is behind those that require it. -/
def Ordered (required : Name → List Name) : List Name → Prop
  | [] => True
  | name :: rest => (∀ next ∈ required name, next ∈ rest) ∧ Ordered required rest

theorem Ordered.closed (ordered : Ordered required visited) :
    Closed required visited := by
  induction visited with
  | nil => exact fun name isName => absurd isName List.not_mem_nil
  | cons first rest ih =>
    intro name isName next isNext
    obtain rfl | isLater := List.mem_cons.mp isName
    · exact List.mem_cons_of_mem _ (ordered.1 next isNext)
    · exact List.mem_cons_of_mem _ (ih ordered.2 name isLater next isNext)

/-- No name of an ordered list requires itself. -/
theorem Ordered.acyclic (ordered : Ordered required visited)
    (isVisited : name ∈ visited) : ¬ Relation.TransGen (Requires required) name name := by
  induction visited with
  | nil => exact absurd isVisited List.not_mem_nil
  | cons first rest ih =>
    by_cases isLater : name ∈ rest
    · exact ih ordered.2 isLater
    · intro cycle
      obtain rfl := (List.mem_cons.mp isVisited).resolve_right isLater
      obtain ⟨next, isNext, leads⟩ := Relation.TransGen.head'_iff.mp cycle
      exact isLater (ordered.2.closed.leads (ordered.1 next isNext) leads)

/-! ## What is too deep -/

/-- The options are too deep, or a first chain to a new name is that ends in a name which requires
others. -/
def TooDeep (required : Name → List Name) (levels : Nat) (options visited : List Name) : Prop :=
  levels = 0 ∧ options ≠ [] ∨ ∃ target chain, target ∉ visited ∧
    FirstChain required target options chain ∧ chain.length = levels ∧ required target ≠ []

/-- What is too deep below a new name is so one level higher. -/
theorem TooDeep.up (fresh : name ∉ visited)
    (deep : TooDeep required levels (required name) visited) :
    TooDeep required (levels + 1) (name :: rest) visited := by
  obtain ⟨rfl, full⟩ | ⟨target, chain, isNew, first, length, full⟩ := deep
  · exact .inr ⟨name, [name], fresh, .here rest, rfl, full⟩
  · exact .inr ⟨target, name :: chain, isNew, .down first, by rw [List.length_cons, length], full⟩

/-- After a name from which nothing is too deep, the others are looked at. -/
theorem tooDeep_cons {after : List Name}
    (reached : ∀ target, target ∈ after ↔ target ∈ visited ∨ Leads required name target)
    (shallow : name ∉ visited → ¬ TooDeep required levels (required name) visited)
    (closed : Closed required visited) :
    TooDeep required (levels + 1) (name :: rest) visited ↔
      TooDeep required (levels + 1) rest after := by
  have fresh {target : Name} (isNew : target ∉ visited) (leads : Leads required name target) :
      name ∉ visited := fun isVisited => isNew (closed.leads isVisited leads)
  constructor
  · rintro (⟨none, -⟩ | ⟨target, chain, isNew, first, length, full⟩)
    · cases none
    · cases first with
      | here rest =>
        refine absurd (.inl ⟨?_, full⟩) (shallow (fresh isNew .refl))
        simpa using length.symm
      | @down _ _ chain later =>
        obtain ⟨next, isNext, leads⟩ := later.leads
        refine absurd (.inr ⟨target, chain, isNew, later, ?_, full⟩)
          (shallow (fresh isNew (.head isNext leads)))
        simpa using length
      | skip away later =>
        refine .inr ⟨target, chain, fun isAfter => ?_, later, length, full⟩
        exact ((reached target).mp isAfter).elim isNew away
  · rintro (⟨none, -⟩ | ⟨target, chain, isNew, first, length, full⟩)
    · cases none
    · have apart := not_or.mp ((reached target).not.mp isNew)
      exact .inr ⟨target, chain, apart.1, .skip apart.2 first, length, full⟩

/-! ## The search -/

variable [DecidableEq Name]

section Search

variable (required)

/-- Visit a name, with the levels that are left, the names that are being visited and those that
were; the latter is the result. -/
def visit : Nat → Name → List Name → List Name → Option (List Name)
  | 0, _, _, _ => none
  | levels + 1, name, visiting, visited =>
    if name ∈ visiting then none
    else if name ∈ visited then some visited
    else
      ((required name).foldlM (fun visited next => visit levels next (name :: visiting) visited)
        visited).map (name :: ·)

/-- Visit names one after the other. -/
def search (levels : Nat) (visiting options visited : List Name) : Option (List Name) :=
  options.foldlM (fun visited next => visit required levels next visiting visited) visited

end Search

/-- A search that succeeds leaves the names in order. -/
theorem search_ordered {after : List Name}
    (found : search required levels visiting options visited = some after)
    (ordered : Ordered required visited) :
    Ordered required after ∧ visited ⊆ after ∧ options ⊆ after := by
  induction levels generalizing visiting options visited after with
  | zero =>
    cases options with
    | nil =>
      obtain rfl := Option.some.inj found
      exact ⟨ordered, List.Subset.refl _, List.nil_subset _⟩
    | cons name rest => cases found
  | succ levels levelHypothesis =>
    induction options generalizing visited with
    | nil =>
      obtain rfl := Option.some.inj found
      exact ⟨ordered, List.Subset.refl _, List.nil_subset _⟩
    | cons name rest ih =>
      rw [search, List.foldlM_cons] at found
      obtain ⟨middle, visits, later⟩ := Option.bind_eq_some_iff.mp found
      have step : Ordered required middle ∧ visited ⊆ middle ∧ name ∈ middle := by
        rw [visit] at visits
        split at visits
        · cases visits
        split at visits
        · rename_i isVisited
          obtain rfl := Option.some.inj visits
          exact ⟨ordered, List.Subset.refl _, isVisited⟩
        · obtain ⟨inner, searched, rfl⟩ := Option.map_eq_some_iff.mp visits
          obtain ⟨innerOrdered, kept, reached⟩ := levelHypothesis searched ordered
          exact ⟨⟨fun next isNext => reached isNext, innerOrdered⟩,
            fun other isOther => List.mem_cons_of_mem _ (kept isOther), List.mem_cons_self⟩
      obtain ⟨afterOrdered, kept, reached⟩ := ih later step.1
      refine ⟨afterOrdered, fun other isOther => kept (step.2.1 isOther), fun other isOther => ?_⟩
      obtain rfl | isLater := List.mem_cons.mp isOther
      · exact kept step.2.2
      · exact reached isLater

/-- In a graph without cycles a search fails exactly if something is too deep, and else it finds
what the options lead to.

Proof: by induction on the levels, and for each level on the options. What was visited is closed,
so that a first chain to a new name does not pass through it. -/
theorem search_spec (acyclic : Acyclic required) (closed : Closed required visited)
    (above : ∀ name ∈ visiting, ∀ option ∈ options,
      Relation.TransGen (Requires required) name option) :
    (search required levels visiting options visited = none ↔
        TooDeep required levels options visited) ∧
      ∀ after, search required levels visiting options visited = some after →
        ∀ target, target ∈ after ↔
          target ∈ visited ∨ ∃ option ∈ options, Leads required option target := by
  induction levels generalizing visiting options visited with
  | zero =>
    cases options with
    | nil =>
      refine ⟨⟨fun failed => (Option.some_ne_none _ failed).elim, ?_⟩, ?_⟩
      · rintro (⟨-, full⟩ | ⟨target, chain, -, first, -, -⟩)
        · exact absurd rfl full
        · cases first
      · intro after found target
        obtain rfl := Option.some.inj found
        simp
    | cons name rest =>
      refine ⟨⟨fun _ => .inl ⟨rfl, List.cons_ne_nil _ _⟩, fun _ => rfl⟩, ?_⟩
      intro after found
      cases found
  | succ levels levelHypothesis =>
    induction options generalizing visited with
    | nil =>
      refine ⟨⟨fun failed => (Option.some_ne_none _ failed).elim, ?_⟩, ?_⟩
      · rintro (⟨none, -⟩ | ⟨target, chain, -, first, -, -⟩)
        · cases none
        · cases first
      · intro after found target
        obtain rfl := Option.some.inj found
        simp
    | cons name rest ih =>
      have unvisiting : name ∉ visiting := fun isVisiting =>
        acyclic name (above name isVisiting name List.mem_cons_self)
      have later {after : List Name} (afterClosed : Closed required after) :=
        ih afterClosed fun other isOther option isOption =>
          above other isOther option (List.mem_cons_of_mem _ isOption)
      have below := @levelHypothesis (required name) (name :: visiting) visited closed (by
        intro other isOther next isNext
        obtain rfl | isAbove := List.mem_cons.mp isOther
        · exact .single isNext
        · exact (above other isAbove name List.mem_cons_self).tail isNext)
      -- the rest of the search, once the name was visited
      have continued {middle : List Name}
          (visits : visit required (levels + 1) name visiting visited = some middle)
          (reached : ∀ target, target ∈ middle ↔ target ∈ visited ∨ Leads required name target)
          (shallow : name ∉ visited → ¬ TooDeep required levels (required name) visited) :
          (search required (levels + 1) visiting (name :: rest) visited = none ↔
              TooDeep required (levels + 1) (name :: rest) visited) ∧
            ∀ after, search required (levels + 1) visiting (name :: rest) visited = some after →
              ∀ target, target ∈ after ↔
                target ∈ visited ∨ ∃ option ∈ name :: rest, Leads required option target := by
        have middleClosed : Closed required middle := by
          intro other isOther next isNext
          rw [reached] at isOther ⊢
          exact isOther.imp (fun isVisited => closed other isVisited next isNext) (·.tail isNext)
        have same : search required (levels + 1) visiting (name :: rest) visited =
            search required (levels + 1) visiting rest middle := by
          rw [search, List.foldlM_cons, visits]
          rfl
        rw [same, tooDeep_cons reached shallow closed]
        refine ⟨(later middleClosed).1, fun after found target => ?_⟩
        rw [(later middleClosed).2 after found target, reached, or_assoc, List.exists_mem_cons_iff]
      by_cases isVisited : name ∈ visited
      · have visits : visit required (levels + 1) name visiting visited = some visited := by
          rw [visit, if_neg unvisiting, if_pos isVisited]
        refine continued visits (fun target => ?_) (absurd isVisited)
        exact ⟨.inl, fun either => either.elim id (closed.leads isVisited)⟩
      · have visits : visit required (levels + 1) name visiting visited =
            (search required levels (name :: visiting) (required name) visited).map (name :: ·) := by
          rw [visit, if_neg unvisiting, if_neg isVisited]
          rfl
        cases found : search required levels (name :: visiting) (required name) visited with
        | none =>
          have deep : TooDeep required (levels + 1) (name :: rest) visited :=
            (below.1.mp found).up isVisited
          have failed : search required (levels + 1) visiting (name :: rest) visited = none := by
            rw [search, List.foldlM_cons, visits, found]
            rfl
          exact ⟨⟨fun _ => deep, fun _ => failed⟩, fun after isAfter => by
            rw [failed] at isAfter
            cases isAfter⟩
        | some inner =>
          rw [found] at visits
          refine continued visits (fun target => ?_) fun _ deep => ?_
          · rw [List.mem_cons, below.2 inner found target, Leads,
              Relation.ReflTransGen.cases_head_iff]
            constructor
            · rintro (rfl | isVisited | ⟨next, isNext, leads⟩)
              · exact .inr (.inl rfl)
              · exact .inl isVisited
              · exact .inr (.inr ⟨next, isNext, leads⟩)
            · rintro (isVisited | rfl | ⟨next, isNext, leads⟩)
              · exact .inr (.inl isVisited)
              · exact .inl rfl
              · exact .inr (.inr ⟨next, isNext, leads⟩)
          · rw [below.1.mpr deep] at found
            cases found

end PoisonedOS.DepthSearch
