import Mathlib.Data.List.Nodup
import Mathlib.Data.List.Perm.Subperm
import Mathlib.Logic.Relation
import ShadingGraph.Graph.Order

/-! # Dependency order

A list of names is ordered when no name is repeated and the sources of each stand
before it. The depth-first walk only ever appends a name whose sources are listed,
so that what it returns is ordered and holds every node. The names on its path all lie
downstream of the name it has come to. So it fails exactly where it meets a cycle, and
where it does not, it lists what is upstream of the nodes.
-/

namespace ShadingGraph.Graph

/-- No name is repeated, and the sources of each name stand before it. -/
structure Ordered (graph : Graph) (names : List String) : Prop where
  nodup : names.Nodup
  sourcesFirst : ∀ before name after, names = before ++ name :: after →
    ∀ source ∈ graph.sources name, source ∈ before

namespace Ordered

variable {graph : Graph} {names : List String}

theorem nil (graph : Graph) : graph.Ordered [] :=
  ⟨List.nodup_nil, fun before name after split => by simp at split⟩

theorem snoc (ordered : graph.Ordered names) {name : String} (fresh : name ∉ names)
    (listed : ∀ source ∈ graph.sources name, source ∈ names) : graph.Ordered (names ++ [name]) := by
  refine ⟨List.nodup_append.mpr ⟨ordered.nodup, List.nodup_singleton name, ?_⟩, ?_⟩
  · intro a inside b last
    rw [List.mem_singleton] at last
    exact fun same => fresh (last ▸ same ▸ inside)
  · intro before other after split
    -- The split is at the new name, or inside the names listed before it.
    rcases List.eq_nil_or_concat after with rfl | ⟨inner, last, rfl⟩
    · obtain ⟨rfl, same⟩ := List.append_inj' split rfl
      cases same
      exact listed
    · have split' : names ++ [name] = (before ++ other :: inner) ++ [last] := by simpa using split
      exact ordered.sourcesFirst before other inner (List.append_inj' split' rfl).1

theorem mono {other : Graph} (ordered : graph.Ordered names)
    (fewer : ∀ name, ∀ source ∈ other.sources name, source ∈ graph.sources name) :
    other.Ordered names :=
  ⟨ordered.nodup, fun before name after split source feeds =>
    ordered.sourcesFirst before name after split source (fewer name source feeds)⟩

theorem congr {other : Graph} (edges : graph.edges = other.edges) (ordered : graph.Ordered names) :
    other.Ordered names :=
  ordered.mono fun name source feeds => by simpa only [sources, edges] using feeds

theorem left {before after : List String} (ordered : graph.Ordered (before ++ after)) :
    graph.Ordered before :=
  ⟨(List.nodup_append.mp ordered.nodup).1, fun earlier name later split =>
    ordered.sourcesFirst earlier name (later ++ after) (by rw [split]; simp)⟩

theorem source_mem {before after : List String} (ordered : graph.Ordered (before ++ after))
    {name : String} (inside : name ∈ before) {source : String}
    (feeds : source ∈ graph.sources name) : source ∈ before := by
  obtain ⟨first, rest, rfl⟩ := List.append_of_mem inside
  have split : (first ++ name :: rest) ++ after = first ++ name :: (rest ++ after) := by simp
  exact List.mem_append_left _ (ordered.sourcesFirst first name _ split source feeds)

theorem not_mem_before (ordered : graph.Ordered names) {before after : List String} {name : String}
    (split : names = before ++ name :: after) : name ∉ before := by
  have nodup := split ▸ ordered.nodup
  exact fun inside => (List.nodup_append.mp nodup).2.2 name inside name List.mem_cons_self rfl

theorem before_unique (ordered : graph.Ordered names) {before after before' after' : List String}
    {name : String} (split : names = before ++ name :: after)
    (split' : names = before' ++ name :: after') : before = before' := by
  have later : name ∉ after := fun inside => by
    have nodup := (List.nodup_append.mp (split ▸ ordered.nodup)).2.1
    exact (List.nodup_cons.mp nodup).1 inside
  exact ((List.append_cons_inj_of_notMem (ordered.not_mem_before split) later).mp
    (split.symm.trans split')).1

end Ordered

theorem mem_sources {graph : Graph} {name source : String} :
    source ∈ graph.sources name ↔
      ∃ edge ∈ graph.edges, edge.toNode = name ∧ edge.fromNode = source := by
  simp [sources, and_assoc]

/-- Where a walk has come: the list is ordered, and nothing of the path was appended. -/
structure Advanced (graph : Graph) (path order result : List String) : Prop where
  ordered : graph.Ordered result
  grown : ∃ added, result = order ++ added ∧ ∀ name ∈ added, name ∉ path

namespace Advanced

variable {graph : Graph} {path order middle result : List String}

theorem mem (advanced : graph.Advanced path order result) {name : String} (listed : name ∈ order) :
    name ∈ result := by
  obtain ⟨added, rfl, -⟩ := advanced.grown
  exact List.mem_append_left _ listed

theorem not_mem (advanced : graph.Advanced path order result) {name : String}
    (onPath : name ∈ path) (unlisted : name ∉ order) : name ∉ result := by
  obtain ⟨added, rfl, apart⟩ := advanced.grown
  rw [List.mem_append, not_or]
  exact ⟨unlisted, fun inside => apart name inside onPath⟩

theorem trans (first : graph.Advanced path order middle)
    (second : graph.Advanced path middle result) : graph.Advanced path order result := by
  obtain ⟨added, rfl, apart⟩ := first.grown
  obtain ⟨more, rfl, apart'⟩ := second.grown
  refine ⟨second.ordered, added ++ more, List.append_assoc _ _ _, fun name inside => ?_⟩
  exact (List.mem_append.mp inside).elim (apart name) (apart' name)

end Advanced

variable {graph : Graph}

private theorem foldlM_visit {fuel : Nat} {path : List String}
    (visited : ∀ order name result, graph.visit fuel path order name = some result →
      graph.Ordered order → graph.Advanced path order result ∧ name ∈ result)
    {names order result : List String}
    (walked : names.foldlM (graph.visit fuel path) order = some result)
    (ordered : graph.Ordered order) :
    graph.Advanced path order result ∧ ∀ name ∈ names, name ∈ result := by
  induction names generalizing order with
  | nil =>
      cases walked
      exact ⟨⟨ordered, [], by simp, by simp⟩, by simp⟩
  | cons name rest ih =>
      rw [List.foldlM_cons, Option.bind_eq_bind, Option.bind_eq_some_iff] at walked
      obtain ⟨middle, first, remaining⟩ := walked
      obtain ⟨advanced, listed⟩ := visited order name middle first ordered
      obtain ⟨further, all⟩ := ih remaining advanced.ordered
      refine ⟨advanced.trans further, fun other inside => ?_⟩
      rcases List.mem_cons.mp inside with rfl | inside
      · exact further.mem listed
      · exact all other inside

theorem visit_sound {fuel : Nat} {path order result : List String} {name : String}
    (visited : graph.visit fuel path order name = some result) (ordered : graph.Ordered order) :
    graph.Advanced path order result ∧ name ∈ result := by
  induction fuel generalizing path order name result with
  | zero => cases visited
  | succ fuel ih =>
      simp only [visit] at visited
      split at visited
      · cases visited
      · rename_i offPath
        split at visited
        · rename_i listed
          cases visited
          exact ⟨⟨ordered, [], by simp, by simp⟩, listed⟩
        · rename_i unlisted
          simp only [Option.bind_eq_bind, Option.bind_eq_some_iff, Option.pure_def,
            Option.some.injEq] at visited
          obtain ⟨listed, walked, rfl⟩ := visited
          obtain ⟨advanced, sources⟩ :=
            foldlM_visit (fun _ _ _ visited ordered => ih visited ordered) walked ordered
          have fresh : name ∉ listed := advanced.not_mem List.mem_cons_self unlisted
          obtain ⟨added, rfl, apart⟩ := advanced.grown
          refine ⟨⟨advanced.ordered.snoc fresh sources, added ++ [name],
            List.append_assoc _ _ _, fun other inside => ?_⟩, by simp⟩
          rcases List.mem_append.mp inside with inside | last
          · exact fun onPath => apart other inside (List.mem_cons_of_mem _ onPath)
          · exact List.mem_singleton.mp last ▸ offPath

/-- The walk from each node in turn, along paths that are shorter than the bound. -/
def walk (graph : Graph) (bound : Nat) : Option (List String) :=
  graph.names.foldlM (graph.visit bound []) []

theorem walk_sound {bound : Nat} {names : List String} (found : graph.walk bound = some names) :
    graph.Ordered names ∧ ∀ name ∈ graph.names, name ∈ names := by
  obtain ⟨advanced, all⟩ := foldlM_visit (fun _ _ _ => visit_sound) found (Ordered.nil graph)
  exact ⟨advanced.ordered, all⟩

theorem order?_sound {names : List String} (found : graph.order? = some names) :
    graph.Ordered names ∧ ∀ name ∈ graph.names, name ∈ names :=
  walk_sound found

theorem visit_congr {other : Graph} (edges : graph.edges = other.edges) :
    graph.visit = other.visit := by
  have sources : graph.sources = other.sources := by
    funext name
    simp only [Graph.sources, edges]
  funext fuel
  induction fuel with
  | zero => rfl
  | succ fuel ih =>
      funext path order name
      simp only [visit, ih, sources]

theorem order?_congr {other : Graph} (names : graph.names = other.names)
    (edges : graph.edges = other.edges) : graph.order? = other.order? := by
  have length : graph.nodes.length = other.nodes.length := by
    simpa [Graph.names] using congrArg List.length names
  simp only [order?, names, edges, length, visit_congr edges]

/-! ## Walks that go through -/

section Walk

variable {names : List String} {step : List String → String → Option (List String)} {order result : List String}

private theorem foldlM_keeps {keeps : List String → Prop}
    (each : ∀ name ∈ names, ∀ order result, step order name = some result → keeps order →
      keeps result)
    (walked : names.foldlM step order = some result) (start : keeps order) : keeps result := by
  induction names generalizing order with
  | nil =>
      cases walked
      exact start
  | cons name rest ih =>
      rw [List.foldlM_cons, Option.bind_eq_bind, Option.bind_eq_some_iff] at walked
      obtain ⟨middle, first, remaining⟩ := walked
      obtain ⟨here, later⟩ := List.forall_mem_cons.mp each
      exact ih later remaining (here order middle first start)

private theorem exists_foldlM
    (each : ∀ name ∈ names, ∀ order, ∃ result, step order name = some result) (order : List String) :
    ∃ result, names.foldlM step order = some result := by
  induction names generalizing order with
  | nil => exact ⟨order, rfl⟩
  | cons name rest ih =>
      obtain ⟨here, later⟩ := List.forall_mem_cons.mp each
      obtain ⟨middle, first⟩ := here order
      obtain ⟨result, remaining⟩ := ih later middle
      exact ⟨result, by rw [List.foldlM_cons, first]; exact remaining⟩

end Walk

variable {names : List String}

theorem visit_inside {inside : String → Prop}
    (closed : ∀ name, inside name → ∀ source ∈ graph.sources name, inside source)
    {fuel : Nat} {path order result : List String} {name : String}
    (visited : graph.visit fuel path order name = some result) (start : inside name)
    (listed : ∀ other ∈ order, inside other) : ∀ other ∈ result, inside other := by
  induction fuel generalizing path order name result with
  | zero => cases visited
  | succ fuel ih =>
      simp only [visit] at visited
      split at visited
      · cases visited
      · split at visited
        · cases visited
          exact listed
        · simp only [Option.bind_eq_bind, Option.bind_eq_some_iff, Option.pure_def,
            Option.some.injEq] at visited
          obtain ⟨middle, walked, rfl⟩ := visited
          have all : ∀ other ∈ middle, inside other :=
            foldlM_keeps (fun source feeds _ _ visited listed =>
              ih visited (closed name start source feeds) listed) walked listed
          exact List.forall_mem_append.mpr ⟨all, List.forall_mem_singleton.mpr start⟩

/-! ## Cycles -/

def LeadsTo (graph : Graph) (source target : String) : Prop :=
  ∃ edge ∈ graph.edges, edge.fromNode = source ∧ edge.toNode = target

/-- Edges lead from the name back to it. -/
def OnCycle (graph : Graph) (name : String) : Prop :=
  Relation.TransGen graph.LeadsTo name name

/-- A node, or a name from which edges lead to a node. -/
def Upstream (graph : Graph) (name : String) : Prop :=
  ∃ node ∈ graph.names, Relation.ReflTransGen graph.LeadsTo name node

theorem mem_sources_iff_leadsTo {source name : String} :
    source ∈ graph.sources name ↔ graph.LeadsTo source name := by
  simp only [mem_sources, LeadsTo, and_comm]

theorem upstream_of_mem {name : String} (node : name ∈ graph.names) : graph.Upstream name :=
  ⟨name, node, .refl⟩

theorem Upstream.source {name source : String} (upstream : graph.Upstream name)
    (feeds : source ∈ graph.sources name) : graph.Upstream source := by
  obtain ⟨node, inside, leads⟩ := upstream
  exact ⟨node, inside, .head (mem_sources_iff_leadsTo.mp feeds) leads⟩

theorem Upstream.mem {name : String} (upstream : graph.Upstream name) :
    name ∈ graph.names ++ graph.edges.map Edge.fromNode := by
  obtain ⟨node, inside, leads⟩ := upstream
  rcases leads.cases_head with rfl | ⟨next, ⟨edge, member, rfl, -⟩, -⟩
  · exact List.mem_append_left _ inside
  · exact List.mem_append_right _ (List.mem_map_of_mem member)

theorem Ordered.mem_before (ordered : graph.Ordered names) {before after : List String}
    {name other : String} (split : names = before ++ name :: after)
    (leads : Relation.TransGen graph.LeadsTo other name) : other ∈ before := by
  induction leads using Relation.TransGen.head_induction_on with
  | single leads =>
      exact ordered.sourcesFirst before name after split _ (mem_sources_iff_leadsTo.mpr leads)
  | head leads _ earlier =>
      exact (split ▸ ordered).source_mem earlier (mem_sources_iff_leadsTo.mpr leads)

theorem Ordered.not_onCycle (ordered : graph.Ordered names) {name : String} (listed : name ∈ names) :
    ¬graph.OnCycle name := by
  obtain ⟨before, after, split⟩ := List.append_of_mem listed
  exact fun cycle => ordered.not_mem_before split (ordered.mem_before split cycle)

/-- The path of a walk that has come to a name: edges lead from the name to all of it. -/
structure Ascends (graph : Graph) (path : List String) (name : String) : Prop where
  nodup : path.Nodup
  upstream : ∀ other ∈ path, graph.Upstream other
  leads : ∀ other ∈ path, Relation.TransGen graph.LeadsTo name other

namespace Ascends

variable {path : List String} {name source : String}

theorem nil (graph : Graph) (name : String) : graph.Ascends [] name :=
  ⟨List.nodup_nil, by simp, by simp⟩

theorem cons (ascends : graph.Ascends path name) (offPath : name ∉ path)
    (upstream : graph.Upstream name) (feeds : source ∈ graph.sources name) :
    graph.Ascends (name :: path) source := by
  have leads := mem_sources_iff_leadsTo.mp feeds
  refine ⟨List.nodup_cons.mpr ⟨offPath, ascends.nodup⟩,
    List.forall_mem_cons.mpr ⟨upstream, ascends.upstream⟩, ?_⟩
  exact List.forall_mem_cons.mpr
    ⟨.single leads, fun other inside => .head leads (ascends.leads other inside)⟩

theorem length_le (ascends : graph.Ascends path name) :
    path.length ≤ graph.nodes.length + graph.edges.length := by
  have included := List.subperm_of_subset ascends.nodup fun other inside =>
    (ascends.upstream other inside).mem
  simpa [names] using included.length_le

end Ascends

/-- A walk goes through where no name that it can reach lies on a cycle: a name met again
would be on one, and the fuel is not used up before that. -/
theorem exists_visit (acyclic : ∀ name, graph.Upstream name → ¬graph.OnCycle name) {fuel : Nat}
    {path : List String} {name : String} (ascends : graph.Ascends path name)
    (upstream : graph.Upstream name)
    (enough : graph.nodes.length + graph.edges.length < fuel + path.length) (order : List String) :
    ∃ result, graph.visit fuel path order name = some result := by
  induction fuel generalizing path name order with
  | zero =>
      have := ascends.length_le
      omega
  | succ fuel ih =>
      have offPath : name ∉ path := fun inside =>
        acyclic name upstream (ascends.leads name inside)
      simp only [visit, if_neg offPath]
      split
      · exact ⟨order, rfl⟩
      · have sources : ∀ source ∈ graph.sources name, ∀ order,
            ∃ result, graph.visit fuel (name :: path) order source = some result := by
          intro source feeds order
          refine ih (ascends.cons offPath upstream feeds) (upstream.source feeds) ?_ order
          rw [List.length_cons]
          omega
        obtain ⟨listed, walked⟩ := exists_foldlM sources order
        exact ⟨listed ++ [name], by rw [walked]; rfl⟩

theorem exists_walk {bound : Nat} (enough : graph.nodes.length + graph.edges.length < bound)
    (acyclic : ∀ name, graph.Upstream name → ¬graph.OnCycle name) :
    ∃ names, graph.walk bound = some names :=
  exists_foldlM (fun name node order =>
    exists_visit acyclic (.nil graph name) (upstream_of_mem node) enough order) []

theorem Ordered.mem_of_upstream (ordered : graph.Ordered names)
    (all : ∀ name ∈ graph.names, name ∈ names) {name : String} (upstream : graph.Upstream name) :
    name ∈ names := by
  obtain ⟨node, inside, leads⟩ := upstream
  rcases Relation.reflTransGen_iff_eq_or_transGen.mp leads with rfl | leads
  · exact all _ inside
  · obtain ⟨before, after, split⟩ := List.append_of_mem (all node inside)
    exact split ▸ List.mem_append_left _ (ordered.mem_before split leads)

theorem Ordered.acyclic (ordered : graph.Ordered names) (all : ∀ name ∈ graph.names, name ∈ names) :
    ∀ name, graph.Upstream name → ¬graph.OnCycle name :=
  fun _ upstream => ordered.not_onCycle (ordered.mem_of_upstream all upstream)

/-- Where some ordered list holds the nodes, the walk finds an order. -/
theorem exists_order? (ordered : graph.Ordered names) (all : ∀ name ∈ graph.names, name ∈ names) :
    ∃ order, graph.order? = some order :=
  exists_walk (Nat.lt_succ_self _) (ordered.acyclic all)

theorem order?_eq_none_iff :
    graph.order? = none ↔ ∃ name, graph.Upstream name ∧ graph.OnCycle name := by
  constructor
  · intro failed
    by_contra acyclic
    push Not at acyclic
    obtain ⟨names, found⟩ := exists_walk (Nat.lt_succ_self _) acyclic
    exact nomatch failed.symm.trans found
  · rintro ⟨name, upstream, cycle⟩
    cases found : graph.order? with
    | none => rfl
    | some names =>
        obtain ⟨ordered, all⟩ := order?_sound found
        exact absurd cycle (ordered.acyclic all name upstream)

theorem mem_order?_iff (found : graph.order? = some names) {name : String} :
    name ∈ names ↔ graph.Upstream name := by
  obtain ⟨ordered, all⟩ := order?_sound found
  have walk : ∀ node ∈ graph.names, ∀ order result,
      graph.visit (graph.nodes.length + graph.edges.length + 1) [] order node = some result →
      (∀ other ∈ order, graph.Upstream other) → ∀ other ∈ result, graph.Upstream other :=
    fun node inside _ _ visited listed =>
      visit_inside (fun _ upstream _ => upstream.source) visited (upstream_of_mem inside) listed
  exact ⟨foldlM_keeps walk found (by simp) name, ordered.mem_of_upstream all⟩

/-- Where edges begin at nodes, a cycle passes through nodes. -/
theorem order?_eq_none_iff_onCycle
    (sourceExists : ∀ edge ∈ graph.edges, edge.fromNode ∈ graph.names) :
    graph.order? = none ↔ ∃ name, graph.OnCycle name := by
  rw [order?_eq_none_iff]
  refine exists_congr fun name => and_iff_right_of_imp fun cycle => ?_
  obtain ⟨_, ⟨edge, member, rfl, -⟩, -⟩ := Relation.TransGen.head'_iff.mp cycle
  exact upstream_of_mem (sourceExists edge member)

theorem upstream_iff_mem (sourceExists : ∀ edge ∈ graph.edges, edge.fromNode ∈ graph.names)
    {name : String} : graph.Upstream name ↔ name ∈ graph.names := by
  refine ⟨fun upstream => ?_, upstream_of_mem⟩
  rcases List.mem_append.mp upstream.mem with inside | source
  · exact inside
  · obtain ⟨edge, member, rfl⟩ := List.mem_map.mp source
    exact sourceExists edge member

theorem mem_names_of_order? (sourceExists : ∀ edge ∈ graph.edges, edge.fromNode ∈ graph.names)
    (found : graph.order? = some names) : ∀ name ∈ names, name ∈ graph.names :=
  fun _ listed => (upstream_iff_mem sourceExists).mp ((mem_order?_iff found).mp listed)

theorem perm_names_of_order? (distinct : graph.names.Nodup)
    (sourceExists : ∀ edge ∈ graph.edges, edge.fromNode ∈ graph.names)
    (found : graph.order? = some names) : names.Perm graph.names := by
  obtain ⟨ordered, all⟩ := order?_sound found
  exact (List.perm_ext_iff_of_nodup ordered.nodup distinct).mpr fun name =>
    ⟨mem_names_of_order? sourceExists found name, all name⟩

/-! ## The bound on paths -/

private theorem foldlM_mono {step step' : List String → String → Option (List String)}
    (each : ∀ order name result, step order name = some result → step' order name = some result)
    {order result : List String} (walked : names.foldlM step order = some result) :
    names.foldlM step' order = some result := by
  induction names generalizing order with
  | nil => exact walked
  | cons name rest ih =>
      rw [List.foldlM_cons, Option.bind_eq_bind, Option.bind_eq_some_iff] at walked
      obtain ⟨middle, first, remaining⟩ := walked
      rw [List.foldlM_cons, each order name middle first]
      exact ih remaining

theorem visit_mono {fuel more : Nat} (le : fuel ≤ more) {path order result : List String}
    {name : String} (visited : graph.visit fuel path order name = some result) :
    graph.visit more path order name = some result := by
  induction fuel generalizing more path order name result with
  | zero => cases visited
  | succ fuel ih =>
      obtain ⟨more, rfl⟩ : ∃ bound, more = bound + 1 := ⟨more - 1, by omega⟩
      simp only [visit] at visited ⊢
      split at visited
      · cases visited
      · rename_i offPath
        rw [if_neg offPath]
        split at visited
        · rename_i listed
          rw [if_pos listed, visited]
        · rename_i unlisted
          simp only [Option.bind_eq_bind, Option.bind_eq_some_iff, Option.pure_def,
            Option.some.injEq] at visited
          obtain ⟨listed, walked, rfl⟩ := visited
          rw [if_neg unlisted, foldlM_mono (fun _ _ _ => ih (by omega)) walked]
          rfl

/-- The paths of a walk stay below the bound that is set for them: any greater one gives
the same order. -/
theorem walk_eq_order? {bound : Nat} (enough : graph.nodes.length + graph.edges.length < bound) :
    graph.walk bound = graph.order? := by
  cases found : graph.order? with
  | some names => exact foldlM_mono (fun _ _ _ => visit_mono enough) found
  | none =>
      cases walked : graph.walk bound with
      | none => rfl
      | some names =>
          obtain ⟨name, upstream, cycle⟩ := order?_eq_none_iff.mp found
          obtain ⟨ordered, all⟩ := walk_sound walked
          exact absurd cycle (ordered.acyclic all name upstream)

/-- A list of the nodes and of all that is upstream of them, each once and sources first. -/
structure ListsUpstream (graph : Graph) (names : List String) : Prop where
  nodup : names.Nodup
  mem_iff : ∀ name, name ∈ names ↔ graph.Upstream name
  sourceBefore : ∀ edge ∈ graph.edges, graph.Upstream edge.toNode →
    ∃ before after, names = before ++ edge.toNode :: after ∧ edge.fromNode ∈ before

/-- The walk ends whatever the edges are, within the bound on its paths. It fails exactly
where a cycle lies upstream of the nodes, and else lists what is upstream, sources first. -/
theorem order?_exact (graph : Graph) :
    (∀ bound, graph.nodes.length + graph.edges.length < bound → graph.walk bound = graph.order?) ∧
    (graph.order? = none ↔ ∃ name, graph.Upstream name ∧ graph.OnCycle name) ∧
    (∀ names, graph.order? = some names → graph.ListsUpstream names) ∧
    ((∀ edge ∈ graph.edges, edge.fromNode ∈ graph.names ∧ edge.toNode ∈ graph.names) →
      ∀ name, graph.Upstream name ↔ name ∈ graph.names) := by
  refine ⟨fun _ => walk_eq_order?, order?_eq_none_iff, fun names found => ?_, fun joined name => ?_⟩
  · obtain ⟨ordered, -⟩ := order?_sound found
    refine ⟨ordered.nodup, fun name => mem_order?_iff found, fun edge inside upstream => ?_⟩
    obtain ⟨before, after, split⟩ := List.append_of_mem ((mem_order?_iff found).mpr upstream)
    have feeds : edge.fromNode ∈ graph.sources edge.toNode :=
      mem_sources.mpr ⟨edge, inside, rfl, rfl⟩
    exact ⟨before, after, split, ordered.sourcesFirst before _ after split _ feeds⟩
  · exact upstream_iff_mem fun edge inside => (joined edge inside).1

/-- A name that only an edge mentions is listed, and a cycle that leads to no node is not met. -/
example : order? ⟨"Loose", [⟨"sum", ⟨"Add", 1⟩, "Add", []⟩],
    [⟨"ghost", "Out", "sum", "A"⟩, ⟨"ghost", "Out", "sum", "A"⟩, ⟨"ring", "Out", "ring", "A"⟩]⟩ =
      some ["ghost", "sum"] := by
  decide +kernel

end ShadingGraph.Graph
