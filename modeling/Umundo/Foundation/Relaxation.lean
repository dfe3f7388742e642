import Mathlib.Algebra.Order.BigOperators.Group.Finset
import Mathlib.Order.Bounds.Basic
import Mathlib.Order.Lattice.Nat
import Umundo.Foundation.Checked

namespace Umundo
namespace Foundation

/-!
# Distances that are lowered along links

Nodes lead to other nodes, and it costs something to enter a node.  The distance of a node is
lowered, and then the distances of the nodes it leads to, and so on.  A node may be entered
again while its successors are still being visited, and there may be cycles that cost nothing.

It ends because every distance that is lowered makes the sum of all distances smaller.  What
is left then is the cost of a cheapest path.  The argument asks nothing of the order: a distance
that was changed is *tight*, which means that no link could lower another one, and what is
tight stays tight until it is changed again.

Where entering a node costs at most one, the cost of a cheapest path is less than the number of
nodes: every smaller cost is the least one of a node on the way.
-/

variable {Node : Type}

/-- A path, and what it costs to enter its nodes without the first one. -/
inductive Path (Leads : Node -> Node -> Prop) (cost : Node -> Nat) (start : Node) : Node -> Nat -> Prop where
  | here : Path Leads cost start start 0
  | step {node successor : Node} {total : Nat} (path : Path Leads cost start node total)
      (link : Leads node successor) : Path Leads cost start successor (total + cost successor)

/-- A node is there, and has a successor. -/
def Leads (next : Node -> Option (List Node)) (node successor : Node) : Prop :=
  Exists fun successors => next node = some successors ∧ successor ∈ successors

section

variable (next : Node -> Option (List Node)) (cost : Node -> Nat)

/-- No link of a node lowers a distance. -/
def Tight (distance : Node -> Nat) (node : Node) : Prop :=
  forall successor, Leads next node successor -> distance successor ≤ distance node + cost successor

/-- Distances become lower, and what has changed is tight. -/
structure Lowered (before after : Node -> Nat) : Prop where
  le : forall node, after node ≤ before node
  tight : forall node, after node = before node ∨ Tight next cost after node

/-- A distance that was lowered is known to be the cost of something. -/
structure Justified (initial : Node -> Nat) (known : Node -> Nat -> Prop) (distance : Node -> Nat) : Prop where
  le : forall node, distance node ≤ initial node
  known : forall node, distance node < initial node -> known node (distance node)

/-- A finite part of the nodes that no link leaves. -/
def Closed (nodes : Finset Node) : Prop :=
  forall node, node ∈ nodes -> Exists fun successors => next node = some successors ∧
    forall successor, successor ∈ successors -> successor ∈ nodes

variable {next cost}

theorem Closed.mem {nodes : Finset Node} (closed : Closed next nodes) {node successor : Node} (member : node ∈ nodes)
    (link : Leads next node successor) : successor ∈ nodes := by
  obtain ⟨successors, there, inside⟩ := closed node member
  obtain ⟨_, there', listed⟩ := link
  cases there.symm.trans there'
  exact inside successor listed

namespace Lowered

variable {before middle after : Node -> Nat}

theorem refl (distance : Node -> Nat) : Lowered next cost distance distance :=
  ⟨fun _ => Nat.le_refl _, fun _ => .inl rfl⟩

theorem trans (first : Lowered next cost before middle) (second : Lowered next cost middle after) :
    Lowered next cost before after := by
  refine ⟨fun node => Nat.le_trans (second.le node) (first.le node), fun node => ?_⟩
  obtain unchanged | tight := second.tight node
  · obtain same | tight := first.tight node
    · exact .inl (unchanged.trans same)
    · refine .inr fun successor link => ?_
      calc after successor
          ≤ middle successor := second.le successor
        _ ≤ middle node + cost successor := tight successor link
        _ = after node + cost successor := by rw [unchanged]
  · exact .inr tight

theorem sum_le (lowered : Lowered next cost before after) (nodes : Finset Node) :
    ∑ node ∈ nodes, after node ≤ ∑ node ∈ nodes, before node :=
  Finset.sum_le_sum fun node _ => lowered.le node

end Lowered

variable {nodes : Finset Node} {initial distance : Node -> Nat} {known : Node -> Nat -> Prop}

section

variable [DecidableEq Node]

variable (next cost) in
/-- Lower the distance of a node, if it is not as low already, and then of its successors.  So
many nodes may be visited at the same time. -/
def relax : Nat -> (Node -> Nat) -> Node -> Nat -> Option (Node -> Nat)
  | 0, _, _, _ => none
  | depth + 1, distance, node, value =>
      if value < distance node then
        (next node).bind fun successors =>
          successors.foldlM (fun distance successor =>
            relax depth distance successor (distance node + cost successor))
            (Function.update distance node value)
      else
        some distance

/-- The sum of all distances becomes smaller. -/
theorem sum_update_lt {node : Node} {value : Nat} (member : node ∈ nodes) (lower : value < distance node) :
    ∑ other ∈ nodes, Function.update distance node value other < ∑ other ∈ nodes, distance other := by
  refine Finset.sum_lt_sum ?_ ⟨node, member, ?_⟩
  · intro other _
    rw [Function.update_apply]
    split
    next same => exact same ▸ Nat.le_of_lt lower
    next => exact Nat.le_refl _
  · rw [Function.update_self]
    exact lower

theorem Justified.update {node : Node} {value : Nat} (justified : Justified initial known distance)
    (lower : value < distance node) (cause : known node value) :
    Justified initial known (Function.update distance node value) := by
  refine ⟨fun other => ?_, fun other changed => ?_⟩
  · rw [Function.update_apply]
    split
    next same => exact same ▸ Nat.le_trans (Nat.le_of_lt lower) (justified.le node)
    next => exact justified.le other
  · by_cases same : other = node
    · rw [same, Function.update_self]
      exact cause
    · rw [Function.update_of_ne same] at changed ⊢
      exact justified.known other changed

/-- What is ensured for a node that is visited. -/
structure Relaxed (next : Node -> Option (List Node)) (cost : Node -> Nat) (initial : Node -> Nat)
    (known : Node -> Nat -> Prop) (before : Node -> Nat) (node : Node) (value : Nat)
    (after : Node -> Nat) : Prop where
  lowered : Lowered next cost before after
  justified : Justified initial known after
  reached : after node ≤ value

/-- The successors are visited one after the other.  Meanwhile the node may become lower; if it
does, then it is tight anyhow, and if it does not, then every successor was visited with it. -/
theorem relax_successors {depth : Nat} {node : Node} {successors : List Node}
    (visits : forall distance successor value, successor ∈ successors ->
      ∑ other ∈ nodes, distance other < depth -> known successor value ->
      Justified initial known distance ->
        Ensures (relax next cost depth distance successor value)
          (Relaxed next cost initial known distance successor value))
    (extend : forall successor total, successor ∈ successors -> known node total ->
      known successor (total + cost successor))
    (bounded : ∑ other ∈ nodes, distance other < depth) (justified : Justified initial known distance)
    (lower : distance node < initial node) :
    Ensures (successors.foldlM (fun distance successor =>
        relax next cost depth distance successor (distance node + cost successor)) distance) fun after =>
      Lowered next cost distance after ∧ Justified initial known after ∧
        forall successor, successor ∈ successors -> after node = distance node ->
          after successor ≤ after node + cost successor := by
  induction successors generalizing distance with
  | nil => exact .done ⟨.refl distance, justified, fun _ member => absurd member List.not_mem_nil⟩
  | cons successor rest ih =>
      rw [List.foldlM_cons]
      refine .bind (visits distance successor _ List.mem_cons_self bounded
        (extend successor _ List.mem_cons_self (justified.known node lower)) justified) fun middle relaxed => ?_
      have still : middle node < initial node := Nat.lt_of_le_of_lt (relaxed.lowered.le node) lower
      refine (ih (fun distance other value member => visits distance other value (List.mem_cons_of_mem _ member))
        (fun other total member => extend other total (List.mem_cons_of_mem _ member))
        (Nat.lt_of_le_of_lt (relaxed.lowered.sum_le nodes) bounded) relaxed.justified still).mono ?_
      rintro after ⟨lowered, justified', visited⟩
      refine ⟨relaxed.lowered.trans lowered, justified', ?_⟩
      intro other member unchanged
      have between : middle node = distance node :=
        Nat.le_antisymm (relaxed.lowered.le node) (unchanged ▸ lowered.le node)
      obtain rfl | later := List.mem_cons.mp member
      · calc after other
            ≤ middle other := lowered.le other
          _ ≤ distance node + cost other := relaxed.reached
          _ = after node + cost other := by rw [unchanged]
      · exact visited other later (unchanged.trans between.symm)

/-- A visit ends, and everything that it has changed is tight. -/
theorem relax_spec (closed : Closed next nodes)
    (extend : forall node successor total, known node total -> Leads next node successor ->
      known successor (total + cost successor))
    {depth : Nat} {distance : Node -> Nat} {node : Node} {value : Nat} (member : node ∈ nodes)
    (bounded : ∑ other ∈ nodes, distance other < depth) (cause : known node value)
    (justified : Justified initial known distance) :
    Ensures (relax next cost depth distance node value)
      (Relaxed next cost initial known distance node value) := by
  induction depth generalizing distance node value with
  | zero => exact absurd bounded (Nat.not_lt_zero _)
  | succ depth ih =>
      rw [relax]
      split
      next lower =>
        obtain ⟨successors, there, inside⟩ := closed node member
        refine .found there ?_
        have start := sum_update_lt member lower
        refine (relax_successors (fun distance successor value member => ih (inside successor member))
          (fun successor total member cause => extend node successor total cause ⟨successors, there, member⟩)
          (by omega) (justified.update lower cause) ?_).mono ?_
        · rw [Function.update_self]
          exact Nat.lt_of_lt_of_le lower (justified.le node)
        · rintro after ⟨lowered, justified', visited⟩
          have reached : after node ≤ value := by
            have := lowered.le node
            rwa [Function.update_self] at this
          refine ⟨⟨fun other => ?_, fun other => ?_⟩, justified', reached⟩
          · by_cases same : other = node
            · exact same ▸ Nat.le_trans reached (Nat.le_of_lt lower)
            · have := lowered.le other
              rwa [Function.update_of_ne same] at this
          · obtain unchanged | tight := lowered.tight other
            · by_cases same : other = node
              · -- the successors were visited with the distance that the node still has
                subst same
                refine .inr fun successor link => ?_
                obtain ⟨_, there', listed⟩ := link
                cases there.symm.trans there'
                exact visited successor listed unchanged
              · exact .inl (by rwa [Function.update_of_ne same] at unchanged)
            · exact .inr tight
      next enough => exact .done ⟨.refl distance, justified, Nat.not_lt.mp enough⟩

/-- Several nodes are visited one after the other. -/
theorem relax_starts (closed : Closed next nodes)
    (extend : forall node successor total, known node total -> Leads next node successor ->
      known successor (total + cost successor))
    {starts : List Node} (inside : forall start, start ∈ starts -> start ∈ nodes)
    (cause : forall start, start ∈ starts -> known start 0) {depth : Nat} {distance : Node -> Nat}
    (bounded : ∑ node ∈ nodes, distance node < depth) (justified : Justified initial known distance) :
    Ensures (starts.foldlM (fun distance start => relax next cost depth distance start 0) distance) fun after =>
      Lowered next cost distance after ∧ Justified initial known after ∧
        forall start, start ∈ starts -> after start ≤ 0 := by
  induction starts generalizing distance with
  | nil => exact .done ⟨.refl distance, justified, fun _ member => absurd member List.not_mem_nil⟩
  | cons start rest ih =>
      rw [List.foldlM_cons]
      refine .bind (relax_spec closed extend (inside start List.mem_cons_self) bounded
        (cause start List.mem_cons_self) justified) fun middle relaxed => ?_
      refine (ih (fun other member => inside other (List.mem_cons_of_mem _ member))
        (fun other member => cause other (List.mem_cons_of_mem _ member))
        (Nat.lt_of_le_of_lt (relaxed.lowered.sum_le nodes) bounded) relaxed.justified).mono ?_
      rintro after ⟨lowered, justified', reached⟩
      refine ⟨relaxed.lowered.trans lowered, justified', ?_⟩
      intro other member
      obtain rfl | later := List.mem_cons.mp member
      · exact Nat.le_trans (lowered.le other) relaxed.reached
      · exact reached other later

end

/-- A path stays inside, and no distance along it is higher than its cost. -/
theorem Path.bound {after : Node -> Nat} {top : Nat} (closed : Closed next nodes)
    (high : forall node, node ∈ nodes -> initial node = top) (lowered : Lowered next cost initial after)
    {start node : Node} {total : Nat} (path : Path (Leads next) cost start node total)
    (member : start ∈ nodes) (reached : after start ≤ 0) : node ∈ nodes ∧ after node ≤ total := by
  induction path with
  | here => exact ⟨member, reached⟩
  | step path link ih =>
      next node successor total =>
      obtain ⟨member, bound⟩ := ih
      have member' := closed.mem member link
      refine ⟨member', ?_⟩
      obtain unchanged | tight := lowered.tight node
      · calc after successor
            ≤ initial successor := lowered.le successor
          _ = after node := by rw [high successor member', unchanged, high node member]
          _ ≤ total + cost successor := by omega
      · calc after successor
            ≤ after node + cost successor := tight successor link
          _ ≤ total + cost successor := by omega

/-- What is left is the cost of a cheapest path, where it is less than what there was before. -/
theorem relax_least [DecidableEq Node] (closed : Closed next nodes) {starts : List Node}
    (inside : forall start, start ∈ starts -> start ∈ nodes) {top depth : Nat}
    (high : forall node, node ∈ nodes -> initial node = top) (bounded : ∑ node ∈ nodes, initial node < depth) :
    Ensures (starts.foldlM (fun distance start => relax next cost depth distance start 0) initial) fun after =>
      forall node, initial node = top ->
        IsLeast (insert top {total | Exists fun start => start ∈ starts ∧ Path (Leads next) cost start node total})
          (after node) := by
  let known (node : Node) (total : Nat) : Prop :=
    Exists fun start => start ∈ starts ∧ Path (Leads next) cost start node total
  have extend (node successor : Node) (total : Nat) (cause : known node total)
      (link : Leads next node successor) : known successor (total + cost successor) := by
    obtain ⟨start, member, path⟩ := cause
    exact ⟨start, member, path.step link⟩
  have justified : Justified initial known initial :=
    ⟨fun _ => Nat.le_refl _, fun _ changed => absurd changed (Nat.lt_irrefl _)⟩
  refine (relax_starts closed extend inside (fun start member => ⟨start, member, .here⟩) bounded justified).mono ?_
  rintro after ⟨lowered, justified, reached⟩ node untouched
  refine ⟨?_, ?_⟩
  · obtain same | changed := Nat.eq_or_lt_of_le (justified.le node)
    · exact .inl (same.trans untouched)
    · exact .inr (justified.known node changed)
  · rintro total (rfl | ⟨start, member, path⟩)
    · exact untouched ▸ lowered.le node
    · exact (path.bound closed high lowered (inside start member) (reached start member)).2

/-- Where a path leads, a path leads that costs less than there are nodes. -/
theorem Path.exists_lt_card (closed : Closed next nodes) (cheap : forall node, cost node ≤ 1)
    {start node : Node} {total : Nat} (path : Path (Leads next) cost start node total) (member : start ∈ nodes) :
    Exists fun least => least < nodes.card ∧ Path (Leads next) cost start node least := by
  let least (node : Node) : Nat := sInf {total | Path (Leads next) cost start node total}
  -- one link makes the least cost greater by at most one, so none is left out on the way
  have levels : node ∈ nodes ∧ forall level, level ≤ least node -> level ∈ nodes.image least := by
    induction path with
    | here =>
        have zero : least start = 0 := Nat.le_zero.mp (Nat.sInf_le .here)
        exact ⟨member, fun level below => Finset.mem_image.mpr ⟨start, member, by omega⟩⟩
    | step path link ih =>
        next node successor total =>
        obtain ⟨inside, before⟩ := ih
        have cheapest : Path (Leads next) cost start node (least node) := Nat.sInf_mem ⟨total, path⟩
        have further : least successor ≤ least node + cost successor := Nat.sInf_le (cheapest.step link)
        have inside' := closed.mem inside link
        refine ⟨inside', fun level below => ?_⟩
        by_cases passed : level ≤ least node
        · exact before level passed
        · have dear := cheap successor
          exact Finset.mem_image.mpr ⟨successor, inside', by omega⟩
  refine ⟨least node, ?_, Nat.sInf_mem ⟨total, path⟩⟩
  calc least node + 1
      = (Finset.range (least node + 1)).card := (Finset.card_range _).symm
    _ ≤ (nodes.image least).card :=
        Finset.card_le_card fun level below => levels.2 level (Nat.lt_succ_iff.mp (Finset.mem_range.mp below))
    _ ≤ nodes.card := Finset.card_image_le

end

end Foundation
end Umundo
