import PoisonedOS.Library.DepthSearch
import PoisonedOS.Library.Dictionary
import PoisonedOS.Library.Unicode
import Mathlib.Data.List.Sort
import Mathlib.Order.Lex

/-!
# The dependency graph of a lock

The dashboard and the build tool both go through the dependencies of a lock, from the names in
their order and by what each dependency lists, to find cycles and chains of more than sixteen
members. They put names in order by UTF-16 units and by code points.

A name that was visited is not visited again. So a chain is only found to be too long if it is
the first one to its end.
-/

namespace PoisonedOS.DependencyLock

open Dictionary DepthSearch

/-- A dependency of a lock, as far as the graph goes. -/
structure GraphNode where
  name : List Char
  dependencies : List (List Char)
deriving DecidableEq

/-- `MAX_GRAPH_DEPTH` and `MAX_DEPENDENCY_DEPTH`. -/
def maxGraphDepth : Nat := 16

section Graph

variable (graph : List GraphNode)

/-- What the dependency of a name lists, as `byName` has it. -/
def requiredBy (name : List Char) : List (List Char) :=
  ((lastWith GraphNode.name graph name).map GraphNode.dependencies).getD []

/-- Every named dependency is present. -/
def Present : Prop :=
  ∀ node ∈ graph, ∀ required ∈ node.dependencies, required ∈ graph.map GraphNode.name

instance : Decidable (Present graph) :=
  inferInstanceAs (Decidable (∀ node ∈ graph, ∀ required ∈ node.dependencies,
    required ∈ graph.map GraphNode.name))

/-- The keys of `byName`, sorted by an encoding. -/
def sortedNames (encode : List Char → List Nat) : List (List Char) :=
  (graph.map GraphNode.name).dedup.insertionSort fun left right => encode left ≤ encode right

/-- The checks of the two functions, which throw or raise where one fails. -/
def graphValid (encode : List Char → List Nat) : Bool :=
  decide (Present graph) &&
    (search (requiredBy graph) maxGraphDepth [] (sortedNames graph encode) []).isSome

/-- `validateGraph`. -/
def validateGraph : Bool := graphValid graph Unicode.utf16

/-- `_validate_dependency_graph`. -/
def validateDependencyGraph : Bool := graphValid graph (List.map Char.toNat)

/-- What is asked: dependencies are present, there is no cycle, and no chain has more than sixteen
members. -/
structure Sound : Prop where
  present : Present graph
  acyclic : Acyclic (requiredBy graph)
  bounded : ∀ chain : List (List Char), chain.IsChain (Requires (requiredBy graph)) →
    chain.length ≤ 16

/-- There is a longer chain, and no cycle, but of the first chains, from the names in their order,
none with sixteen members ends in a name that has dependencies. -/
structure Hidden (encode : List Char → List Nat) : Prop where
  present : Present graph
  acyclic : Acyclic (requiredBy graph)
  long : ∃ chain : List (List Char), chain.IsChain (Requires (requiredBy graph)) ∧
    16 < chain.length
  shallow : ∀ target chain,
    FirstChain (requiredBy graph) target (sortedNames graph encode) chain → chain.length = 16 →
      requiredBy graph target = []

end Graph

variable {graph : List GraphNode} {encode : List Char → List Nat} {name : List Char}

/-- A name with dependencies is one of the graph. -/
theorem mem_sortedNames (full : requiredBy graph name ≠ []) :
    name ∈ sortedNames graph encode := by
  rw [sortedNames, List.mem_insertionSort, List.mem_dedup]
  rw [requiredBy] at full
  cases found : lastWith GraphNode.name graph name with
  | none =>
    rw [found] at full
    exact absurd rfl full
  | some node =>
    obtain ⟨isNode, rfl⟩ := lastWith_some found
    exact List.mem_map_of_mem isNode

/-- What is accepted has no cycle: each name is behind those that require it. -/
theorem acyclic_of_valid (valid : graphValid graph encode = true) :
    Acyclic (requiredBy graph) := by
  rw [graphValid, Bool.and_eq_true, Option.isSome_iff_exists] at valid
  obtain ⟨after, found⟩ := valid.2
  obtain ⟨ordered, -, reached⟩ := search_ordered found trivial
  intro name cycle
  obtain ⟨next, isNext, -⟩ := Relation.TransGen.head'_iff.mp cycle
  exact ordered.acyclic (reached (mem_sortedNames (List.ne_nil_of_mem isNext))) cycle

/-- Without a cycle the graph is accepted exactly if no first chain of sixteen members ends in a
name with dependencies. -/
theorem graphValid_iff (acyclic : Acyclic (requiredBy graph)) :
    graphValid graph encode = true ↔ Present graph ∧ ∀ target chain,
      FirstChain (requiredBy graph) target (sortedNames graph encode) chain →
        chain.length = 16 → requiredBy graph target = [] := by
  have closed : Closed (requiredBy graph) [] := fun name isName => absurd isName List.not_mem_nil
  have spec := (@search_spec _ (requiredBy graph) (sortedNames graph encode) [] [] maxGraphDepth _
    acyclic closed fun name isName => absurd isName List.not_mem_nil).1
  rw [graphValid, Bool.and_eq_true, decide_eq_true_eq, Option.isSome_iff_ne_none, ne_eq, spec]
  refine and_congr_right fun _ => ⟨fun shallow target chain first length => ?_, fun shallow => ?_⟩
  · by_contra full
    exact shallow (.inr ⟨target, chain, List.not_mem_nil, first, length, full⟩)
  · rintro (⟨none, -⟩ | ⟨target, chain, -, first, length, full⟩)
    · cases none
    · exact full (shallow target chain first length)

/-- A graph of chains that are short enough is accepted: a longer one would go on behind a first
chain. -/
theorem graphValid_of_sound (sound : Sound graph) : graphValid graph encode = true := by
  refine (graphValid_iff sound.acyclic).mpr ⟨sound.present, fun target chain first length => ?_⟩
  obtain ⟨isChain, last, -⟩ := first.isChain
  by_contra full
  obtain ⟨next, isNext⟩ := List.exists_mem_of_ne_nil _ full
  have longer : (chain ++ [next]).IsChain (Requires (requiredBy graph)) := by
    rw [List.isChain_append]
    refine ⟨isChain, .singleton _, fun before isBefore after isAfter => ?_⟩
    obtain rfl := Option.some.inj (last.symm.trans isBefore)
    obtain rfl := Option.some.inj isAfter
    exact isNext
  have bounded := sound.bounded _ longer
  rw [List.length_append, length, List.length_singleton] at bounded
  exact absurd bounded (by decide)

/-- One function accepts what is asked exactly if no long chain is hidden from it. -/
theorem exact_iff : (graphValid graph encode = true ↔ Sound graph) ↔ ¬ Hidden graph encode := by
  constructor
  · rintro agree ⟨present, acyclic, ⟨chain, isChain, long⟩, shallow⟩
    have sound := agree.mp ((graphValid_iff acyclic).mpr ⟨present, shallow⟩)
    exact absurd (sound.bounded chain isChain) (Nat.not_le.mpr long)
  · refine fun unhidden => ⟨fun valid => ?_, graphValid_of_sound⟩
    have acyclic := acyclic_of_valid valid
    obtain ⟨present, shallow⟩ := (graphValid_iff acyclic).mp valid
    refine ⟨present, acyclic, fun chain isChain => ?_⟩
    by_contra long
    exact unhidden ⟨present, acyclic, ⟨chain, isChain, Nat.not_le.mp long⟩, shallow⟩

/-- Both functions accept exactly what is asked if no long chain is hidden, from the names in the
one order or the other.

Proof: a search that succeeds has found no cycle, and without cycles it fails exactly if a first
chain is too long. -/
theorem graph_checks_iff (graph : List GraphNode) :
    (validateGraph graph = true ↔ Sound graph) ∧
        (validateDependencyGraph graph = true ↔ Sound graph) ↔
      ¬ Hidden graph Unicode.utf16 ∧ ¬ Hidden graph (List.map Char.toNat) :=
  and_congr exact_iff exact_iff

def chainedNames : List GraphNode :=
  (List.range 17).map fun index =>
    ⟨[Char.ofNat (97 + index)], if index = 0 then [] else [[Char.ofNat (96 + index)]]⟩

/-- The chain of all of them is not found, since it is gone through from its end. -/
theorem long_chain_accepted : ¬ ∀ graph, (validateGraph graph = true ↔ Sound graph) ∧
    (validateDependencyGraph graph = true ↔ Sound graph) := by
  intro agree
  have sound := (agree chainedNames).1.mp (by decide +kernel)
  have long := sound.bounded (chainedNames.map GraphNode.name).reverse (by decide +kernel)
  exact absurd long (by decide +kernel)

end PoisonedOS.DependencyLock
