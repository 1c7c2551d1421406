import MvvmSymbols.Pass

/-!
What a generation pass takes from the walk, and what from the compilation. The
walk decides the candidates, which are its class declarations, however the host
hands the nodes over. The compilation and the configuration decide the context, and
whether there is a pass at all. Neither side has a part in what the other decides.
-/

namespace MvvmSymbols

def SyntaxNode.site? : SyntaxNode → Option DeclarationSite
  | .classDeclaration site => some site
  | .other _ => none

/-- What a host hands over at one time. -/
inductive Delivery where
  | node (n : SyntaxNode)
  | batch (ns : List SyntaxNode)
deriving DecidableEq

/-- The nodes of a delivery, in the order of the walk. -/
def Delivery.nodes : Delivery → List SyntaxNode
  | .node n => [n]
  | .batch ns => ns

namespace Collector

def receive (c : Collector) : Delivery → Collector
  | .node n => c.visit n
  | .batch ns => c.visitAll ns

def ofWalk (ds : List Delivery) : Collector := ds.foldl receive {}

theorem visit_candidates (c : Collector) (n : SyntaxNode) :
    (c.visit n).candidates = c.candidates ++ n.site?.toList := by
  cases n with
  | classDeclaration site => rfl
  | other kind => exact (List.append_nil _).symm

/-- Visiting adds the class declarations at the end, and takes nothing away. -/
theorem visitAll_candidates (c : Collector) (ns : List SyntaxNode) :
    (c.visitAll ns).candidates = c.candidates ++ ns.filterMap SyntaxNode.site? := by
  induction ns generalizing c with
  | nil => simp [visitAll]
  | cons n ns ih =>
      have hrest := ih (c.visit n)
      rw [visit_candidates] at hrest
      refine hrest.trans ?_
      cases hsite : n.site? <;> simp [hsite]

/-- A single node is received as a batch of one. -/
theorem receive_eq_visitAll (c : Collector) (d : Delivery) : c.receive d = c.visitAll d.nodes := by
  cases d <;> rfl

/-- Deliveries one after another are received as one walk. -/
theorem foldl_receive (c : Collector) (ds : List Delivery) :
    ds.foldl receive c = c.visitAll (ds.flatMap Delivery.nodes) := by
  induction ds generalizing c with
  | nil => rfl
  | cons d ds ih =>
      rw [List.foldl_cons, receive_eq_visitAll, ih, List.flatMap_cons]
      exact List.foldl_append.symm

theorem ofWalk_eq_visitAll (ds : List Delivery) :
    ofWalk ds = visitAll {} (ds.flatMap Delivery.nodes) :=
  foldl_receive {} ds

end Collector

namespace Pass

variable {u : Universe} {collector : Collector} {config : Config}

/-- A pass is a resolution with the candidates laid beside it. -/
theorem outcome_execute :
    (execute u collector config).outcome =
      (Context.resolve u config).outcome.map fun context =>
        { context, candidates := collector.candidates } := by
  rw [execute, Resolution.outcome_bind]
  cases (Context.resolve u config).outcome <;> rfl

/-- There is a pass iff there is a context, and the pass has that context. -/
theorem execute_eq_ok_iff {p : Pass} :
    (execute u collector config).outcome = .ok p ↔
      p.candidates = collector.candidates ∧ (Context.resolve u config).outcome = .ok p.context := by
  obtain ⟨context, candidates⟩ := p
  rw [outcome_execute]
  cases (Context.resolve u config).outcome with
  | error e => simp [Except.map]
  | ok c => simp [Except.map, and_comm, eq_comm]

theorem execute_eq_error_iff {e : ResolveError} :
    (execute u collector config).outcome = .error e ↔
      (Context.resolve u config).outcome = .error e := by
  rw [outcome_execute]
  cases (Context.resolve u config).outcome <;> simp [Except.map]

theorem strategies_congr {p p' : Pass} (h : p'.context = p.context) :
    p'.strategies = p.strategies := by
  simp only [strategies, h]

end Pass

/-- A walk is told by its nodes: how they are split into deliveries leaves no trace
in the collector, whose candidates are the class declarations among them, in order
and with all repetitions. A pass fails as the resolution of its universe does, and
else has the context of that resolution and the candidates of the walk. So another
walk makes a pass with the same context and strategies, and another universe or
configuration one with the same candidates. -/
theorem pass_joins_walk_and_resolution (ds : List Delivery) (u : Universe) (config : Config) :
    let collector := Collector.ofWalk ds
    let execute (ds : List Delivery) (u : Universe) (config : Config) :=
      (Pass.execute u (Collector.ofWalk ds) config).outcome
    collector.candidates = (ds.flatMap Delivery.nodes).filterMap SyntaxNode.site? ∧
    (∀ ds', ds'.flatMap Delivery.nodes = ds.flatMap Delivery.nodes →
      Collector.ofWalk ds' = collector) ∧
    (∀ e, execute ds u config = .error e ↔ (Context.resolve u config).outcome = .error e) ∧
    (∀ p, execute ds u config = .ok p ↔ p.candidates = collector.candidates ∧
      (Context.resolve u config).outcome = .ok p.context) ∧
    (∀ ds' p p', execute ds u config = .ok p → execute ds' u config = .ok p' →
      p'.context = p.context ∧ p'.strategies = p.strategies) ∧
    ∀ u' config' p p', execute ds u config = .ok p → execute ds u' config' = .ok p' →
      p'.candidates = p.candidates := by
  intro collector execute
  refine ⟨?_, ?_, fun _ => Pass.execute_eq_error_iff, fun _ => Pass.execute_eq_ok_iff, ?_, ?_⟩
  · have hwalk := Collector.visitAll_candidates {} (ds.flatMap Delivery.nodes)
    rw [← Collector.ofWalk_eq_visitAll] at hwalk
    exact hwalk
  · intro ds' hnodes
    rw [Collector.ofWalk_eq_visitAll, hnodes, ← Collector.ofWalk_eq_visitAll]
  · intro ds' p p' hp hp'
    obtain ⟨-, hcontext⟩ := Pass.execute_eq_ok_iff.mp hp
    obtain ⟨-, hcontext'⟩ := Pass.execute_eq_ok_iff.mp hp'
    rw [hcontext] at hcontext'
    have hsame : p'.context = p.context := (Except.ok.inj hcontext').symm
    exact ⟨hsame, Pass.strategies_congr hsame⟩
  · intro u' config' p p' hp hp'
    obtain ⟨hcandidates, -⟩ := Pass.execute_eq_ok_iff.mp hp
    obtain ⟨hcandidates', -⟩ := Pass.execute_eq_ok_iff.mp hp'
    exact hcandidates'.trans hcandidates.symm

/-- Empty batches and repeated declarations. -/
example :
    let site : DeclarationSite := ⟨"Order", "Shop.cs", 3, 1, ["[Generate]"], true⟩
    let declared := SyntaxNode.classDeclaration site
    (Collector.ofWalk [.batch [], .node declared, .batch [.other "method", declared]]).candidates =
      [site, site] := by
  decide

end MvvmSymbols
