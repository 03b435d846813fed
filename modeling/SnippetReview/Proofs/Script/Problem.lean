import Mathlib.Data.List.Basic
import SnippetReview.Script.Tree

/-!
The first problem of a syntax tree. The search for it goes down into the first child that has a
problem and never looks at the others. Main statement: the path that it takes is the only one of its
kind, and where the flags of a tree agree with each other, the search passes over no problem: what
stands before its result in pre-order and has a problem is an ancestor of the result. A search that
may call itself only so often finds the same node or none, depending on `searchDepth`.
-/

set_option autoImplicit false

namespace SnippetReview.SyntaxTree

/-- Whether a node is missing, or something in it is wrong. -/
def hasProblem (tree : SyntaxTree) : Bool :=
  tree.isMissing || tree.hasError

def FirstWithProblem (node : SyntaxTree) (index : Nat) (child : SyntaxTree) : Prop :=
  ∃ front back, node.children = front ++ child :: back ∧ front.length = index ∧
    child.hasProblem = true ∧ ∀ other ∈ front, other.hasProblem = false

/-- The path from the root of the tree to `last` goes through first children with a problem, none of
them missing, and ends at a missing node below the root or where no child has a problem. -/
structure LeadsToProblem (tree : SyntaxTree) (path : List Nat) (last : SyntaxTree) : Prop where
  reaches : tree.descend? path = some last
  first : ∀ front index back, path = front ++ index :: back →
    ∃ node child, tree.descend? front = some node ∧ node.FirstWithProblem index child
  present : ∀ front back node, path = front ++ back → front ≠ [] → back ≠ [] →
    tree.descend? front = some node → node.isMissing = false
  stops : (path ≠ [] ∧ last.isMissing = true) ∨ ∀ child ∈ last.children, child.hasProblem = false

/-- The flags of a tree agree: a node has an error if one of its children has a problem. -/
inductive IsConsistent : SyntaxTree → Prop where
  | node {span : Span} {isMissing hasError : Bool} {children : List SyntaxTree}
      (flagged : ∀ child ∈ children, child.hasProblem = true → hasError = true)
      (below : ∀ child ∈ children, IsConsistent child) :
      IsConsistent (.node span isMissing hasError children)

mutual

/-- The nodes of a tree in pre-order, each with the path to it. -/
def preorder : SyntaxTree → List (List Nat × SyntaxTree)
  | node span isMissing hasError children =>
    ([], node span isMissing hasError children) :: preorderAmong 0 children

/-- The nodes in and below some children, the first of which has the given index. -/
def preorderAmong (index : Nat) : List SyntaxTree → List (List Nat × SyntaxTree)
  | [] => []
  | child :: rest =>
    child.preorder.map (fun entry => (index :: entry.1, entry.2)) ++ preorderAmong (index + 1) rest

end

def IsAbove (path other : List Nat) : Prop :=
  ∃ index rest, other = path ++ index :: rest

/-- In pre-order, only ancestors of `last`, which is at the path, have a problem before it. -/
def OnlyAncestorsBefore (tree : SyntaxTree) (path : List Nat) (last : SyntaxTree) : Prop :=
  ∃ before after, tree.preorder = before ++ (path, last) :: after ∧
    ∀ entry ∈ before, entry.2.hasProblem = true → IsAbove entry.1 path

/-- What holds of a node if it holds of its children holds of every tree. -/
@[elab_as_elim]
theorem children_induction {motive : SyntaxTree → Prop}
    (node : ∀ (span : Span) (isMissing hasError : Bool) (children : List SyntaxTree),
      (∀ child ∈ children, motive child) → motive (.node span isMissing hasError children)) :
    ∀ tree, motive tree
  | .node span isMissing hasError children =>
    node span isMissing hasError children fun child _ => children_induction node child
termination_by tree => sizeOf tree
decreasing_by
  rename_i hchild
  have hsize := List.sizeOf_lt_of_mem hchild
  simp only [SyntaxTree.node.sizeOf_spec]
  omega

section Descend

variable {tree node child last : SyntaxTree} {index : Nat} {path : List Nat}

@[simp] theorem descend?_nil (tree : SyntaxTree) : tree.descend? [] = some tree := by
  cases tree
  rfl

@[simp] theorem descend?_cons (tree : SyntaxTree) (index : Nat) (path : List Nat) :
    tree.descend? (index :: path) = tree.children[index]?.bind fun child => child.descend? path := by
  cases tree
  rfl

private theorem FirstWithProblem.getElem? (h : node.FirstWithProblem index child) :
    node.children[index]? = some child := by
  obtain ⟨front, back, hsplit, rfl, -, -⟩ := h
  rw [hsplit, List.getElem?_append_right (Nat.le_refl _), Nat.sub_self, List.getElem?_cons_zero]

private theorem FirstWithProblem.descend?_cons (h : node.FirstWithProblem index child)
    (path : List Nat) :
    node.descend? (index :: path) = child.descend? path := by
  rw [SyntaxTree.descend?_cons, h.getElem?, Option.bind_some]

private theorem FirstWithProblem.hasProblem (h : node.FirstWithProblem index child) :
    child.hasProblem = true := by
  obtain ⟨_, _, -, -, hproblem, -⟩ := h
  exact hproblem

private theorem FirstWithProblem.unique {other : SyntaxTree} {place : Nat}
    (h : node.FirstWithProblem index child) (h' : node.FirstWithProblem place other) :
    index = place ∧ child = other := by
  obtain ⟨front, back, hsplit, rfl, hproblem, hclean⟩ := h
  obtain ⟨front', back', hsplit', rfl, hproblem', hclean'⟩ := h'
  rw [hsplit] at hsplit'
  obtain ⟨cut, hfront, hrest⟩ | ⟨cut, hfront, hrest⟩ := List.append_eq_append_iff.mp hsplit'
  all_goals
    cases cut with
    | nil => simp_all
    | cons first cut => simp_all

private theorem FirstWithProblem.not_forall (h : node.FirstWithProblem index child) :
    ¬ ∀ child ∈ node.children, child.hasProblem = false := by
  intro hclean
  have hfalse := hclean child (List.mem_of_getElem? h.getElem?)
  rw [h.hasProblem] at hfalse
  cases hfalse

end Descend

section Path

variable {tree child last : SyntaxTree} {index : Nat} {path : List Nat}

private theorem leadsToProblem_nil_iff : tree.LeadsToProblem [] last ↔
    last = tree ∧ ∀ child ∈ tree.children, child.hasProblem = false := by
  constructor
  · intro h
    have hlast := h.reaches
    rw [descend?_nil, Option.some.injEq] at hlast
    obtain ⟨hne, -⟩ | hclean := h.stops
    · exact absurd rfl hne
    · exact ⟨hlast.symm, hlast ▸ hclean⟩
  · rintro ⟨rfl, hclean⟩
    exact {
      reaches := descend?_nil last
      first := by simp
      present := by simp_all
      stops := Or.inr hclean }

/-- A path steps down to the first child with a problem. There it ends if the child is missing, and
else it goes on like a path from that child. -/
private theorem LeadsToProblem.exists_step (h : tree.LeadsToProblem (index :: path) last) :
    ∃ child, tree.FirstWithProblem index child ∧
      ((child.isMissing = true ∧ path = [] ∧ last = child) ∨
        (child.isMissing = false ∧ child.LeadsToProblem path last)) := by
  obtain ⟨root, child, hroot, hstep⟩ := h.first [] index path rfl
  rw [descend?_nil, Option.some.injEq] at hroot
  subst hroot
  have hreaches := h.reaches
  rw [hstep.descend?_cons] at hreaches
  refine ⟨child, hstep, ?_⟩
  cases hmissing : child.isMissing with
  | true =>
    have hend : path = [] := by
      by_contra hne
      have hpresent := h.present [index] path child rfl (List.cons_ne_nil _ _) hne
        (by rw [hstep.descend?_cons, descend?_nil])
      rw [hmissing] at hpresent
      cases hpresent
    rw [hend, descend?_nil, Option.some.injEq] at hreaches
    exact Or.inl ⟨rfl, hend, hreaches.symm⟩
  | false =>
    refine Or.inr ⟨rfl, hreaches, ?_, ?_, ?_⟩
    · rintro front next back rfl
      obtain ⟨node, below, hnode, hbelow⟩ := h.first (index :: front) next back rfl
      rw [hstep.descend?_cons] at hnode
      exact ⟨node, below, hnode, hbelow⟩
    · rintro front back node rfl - hback hnode
      exact h.present (index :: front) back node rfl (List.cons_ne_nil _ _) hback
        (by rw [hstep.descend?_cons, hnode])
    · obtain ⟨-, hlast⟩ | hclean := h.stops
      · refine Or.inl ⟨?_, hlast⟩
        rintro rfl
        rw [descend?_nil, Option.some.injEq] at hreaches
        rw [hreaches, hlast] at hmissing
        cases hmissing
      · exact Or.inr hclean

private theorem FirstWithProblem.leadsToProblem_of_isMissing
    (hstep : tree.FirstWithProblem index child)
    (hmissing : child.isMissing = true) : tree.LeadsToProblem [index] child where
  reaches := by rw [hstep.descend?_cons, descend?_nil]
  first front next back hsplit := by
    cases front with
    | nil =>
      cases hsplit
      exact ⟨tree, child, descend?_nil tree, hstep⟩
    | cons place front => simp at hsplit
  present front back node hsplit hfront hback _ := by
    cases front with
    | nil => exact absurd rfl hfront
    | cons place front => simp_all
  stops := Or.inl ⟨List.cons_ne_nil _ _, hmissing⟩

private theorem FirstWithProblem.leadsToProblem (hstep : tree.FirstWithProblem index child)
    (hpresent : child.isMissing = false) (h : child.LeadsToProblem path last) :
    tree.LeadsToProblem (index :: path) last where
  reaches := by rw [hstep.descend?_cons, h.reaches]
  first front next back hsplit := by
    cases front with
    | nil =>
      cases hsplit
      exact ⟨tree, child, descend?_nil tree, hstep⟩
    | cons place front =>
      rw [List.cons_append, List.cons.injEq] at hsplit
      obtain ⟨rfl, hsplit⟩ := hsplit
      obtain ⟨node, below, hnode, hbelow⟩ := h.first front next back hsplit
      exact ⟨node, below, by rw [hstep.descend?_cons, hnode], hbelow⟩
  present front back node hsplit hfront hback hnode := by
    cases front with
    | nil => exact absurd rfl hfront
    | cons place front =>
      rw [List.cons_append, List.cons.injEq] at hsplit
      obtain ⟨rfl, hsplit⟩ := hsplit
      rw [hstep.descend?_cons] at hnode
      cases front with
      | nil =>
        rw [descend?_nil, Option.some.injEq] at hnode
        exact hnode ▸ hpresent
      | cons next front =>
        exact h.present (next :: front) back node hsplit (List.cons_ne_nil _ _) hback hnode
  stops := h.stops.imp_left fun hlast => ⟨List.cons_ne_nil _ _, hlast.2⟩

private theorem LeadsToProblem.unique {other : SyntaxTree} {path' : List Nat}
    (h : tree.LeadsToProblem path last) (h' : tree.LeadsToProblem path' other) :
    path = path' ∧ last = other := by
  induction path generalizing tree path' with
  | nil =>
    obtain ⟨rfl, hclean⟩ := leadsToProblem_nil_iff.mp h
    cases path' with
    | nil => exact ⟨rfl, (leadsToProblem_nil_iff.mp h').1.symm⟩
    | cons place path' =>
      obtain ⟨child, hstep, -⟩ := h'.exists_step
      exact absurd hclean hstep.not_forall
  | cons index path ih =>
    obtain ⟨child, hstep, hcases⟩ := h.exists_step
    cases path' with
    | nil => exact absurd (leadsToProblem_nil_iff.mp h').2 hstep.not_forall
    | cons place path' =>
      obtain ⟨child', hstep', hcases'⟩ := h'.exists_step
      obtain ⟨rfl, rfl⟩ := hstep.unique hstep'
      obtain ⟨hmissing, rfl, rfl⟩ | ⟨hpresent, hpath⟩ := hcases
      · obtain ⟨-, rfl, rfl⟩ | ⟨hpresent, -⟩ := hcases'
        · exact ⟨rfl, rfl⟩
        · rw [hmissing] at hpresent
          cases hpresent
      · obtain ⟨hmissing, -, -⟩ | ⟨-, hpath'⟩ := hcases'
        · rw [hmissing] at hpresent
          cases hpresent
        · obtain ⟨rfl, rfl⟩ := ih hpath hpath'
          exact ⟨rfl, rfl⟩

private theorem problemPathAmong_of_clean {children : List SyntaxTree}
    (hclean : ∀ child ∈ children, child.hasProblem = false) (index : Nat) :
    problemPathAmong index children = [] ∧ firstProblemAmong children = none := by
  induction children generalizing index with
  | nil => simp [problemPathAmong, firstProblemAmong]
  | cons child rest ih =>
    rw [List.forall_mem_cons] at hclean
    obtain ⟨hmissing, herror⟩ := Bool.or_eq_false_iff.mp hclean.1
    simpa [problemPathAmong, firstProblemAmong, hmissing, herror] using ih hclean.2 (index + 1)

private theorem problemPathAmong_append {front : List SyntaxTree}
    (hclean : ∀ other ∈ front, other.hasProblem = false) (index : Nat) (back : List SyntaxTree) :
    problemPathAmong index (front ++ back) = problemPathAmong (index + front.length) back ∧
      firstProblemAmong (front ++ back) = firstProblemAmong back := by
  induction front generalizing index with
  | nil => simp
  | cons other front ih =>
    rw [List.forall_mem_cons] at hclean
    obtain ⟨hmissing, herror⟩ := Bool.or_eq_false_iff.mp hclean.1
    obtain ⟨hpath, hproblem⟩ := ih hclean.2 (index + 1)
    constructor
    · simp only [List.cons_append, problemPathAmong, hmissing, herror, hpath, List.length_cons]
      simp only [Bool.false_eq_true, if_false]
      rw [Nat.add_assoc, Nat.add_comm 1]
    · simp only [List.cons_append, firstProblemAmong, hmissing, herror, hproblem]
      simp

/-- The search takes a path that leads to a problem, and finds what the path leads to. -/
private theorem leadsToProblem_problemPath (tree : SyntaxTree) :
    tree.LeadsToProblem tree.problemPath tree.firstProblem := by
  induction tree using children_induction with
  | node span isMissing hasError children ih =>
    rw [problemPath, firstProblem]
    cases hfind : children.find? hasProblem with
    | none =>
      have hclean : ∀ child ∈ children, child.hasProblem = false := by
        simpa using hfind
      obtain ⟨hpath, hproblem⟩ := problemPathAmong_of_clean hclean 0
      rw [hpath, hproblem]
      exact leadsToProblem_nil_iff.mpr ⟨rfl, hclean⟩
    | some child =>
      obtain ⟨hchild, front, back, rfl, hclean⟩ := List.find?_eq_some_iff_append.mp hfind
      simp only [Bool.not_eq_true'] at hclean
      obtain ⟨hpath, hproblem⟩ := problemPathAmong_append hclean 0 (child :: back)
      have hstep : FirstWithProblem (.node span isMissing hasError (front ++ child :: back))
          front.length child := ⟨front, back, rfl, rfl, hchild, hclean⟩
      rw [hpath, hproblem, Nat.zero_add]
      cases hmissing : child.isMissing with
      | true =>
        rw [problemPathAmong, firstProblemAmong, if_pos hmissing, if_pos hmissing]
        exact hstep.leadsToProblem_of_isMissing hmissing
      | false =>
        have herror : child.hasError = true := by
          simpa [SyntaxTree.hasProblem, hmissing] using hchild
        simp only [problemPathAmong, firstProblemAmong, hmissing, herror, if_true, if_false,
          Bool.false_eq_true]
        exact hstep.leadsToProblem hmissing (ih child (by simp))

end Path

section Consistent

variable {tree child node last : SyntaxTree} {index : Nat} {path : List Nat}

private theorem IsConsistent.of_mem_children (h : tree.IsConsistent)
    (hchild : child ∈ tree.children) :
    child.IsConsistent := by
  cases h with
  | node _ below => exact below child hchild

private theorem IsConsistent.hasProblem_of_mem_children (h : tree.IsConsistent)
    (hchild : child ∈ tree.children) (hproblem : child.hasProblem = true) :
    tree.hasProblem = true := by
  cases h with
  | node flagged _ => exact Bool.or_eq_true_iff.mpr (Or.inr (flagged child hchild hproblem))

private theorem IsConsistent.of_descend? (h : tree.IsConsistent)
    (hnode : tree.descend? path = some node) :
    node.IsConsistent := by
  induction path generalizing tree with
  | nil =>
    rw [descend?_nil, Option.some.injEq] at hnode
    exact hnode ▸ h
  | cons index path ih =>
    rw [descend?_cons, Option.bind_eq_some_iff] at hnode
    obtain ⟨child, hchild, hnode⟩ := hnode
    exact ih (h.of_mem_children (List.mem_of_getElem? hchild)) hnode

private theorem IsConsistent.hasProblem_eq_false (h : tree.IsConsistent)
    (hclean : tree.hasProblem = false)
    (hnode : tree.descend? path = some node) : node.hasProblem = false := by
  induction path generalizing tree with
  | nil =>
    rw [descend?_nil, Option.some.injEq] at hnode
    exact hnode ▸ hclean
  | cons index path ih =>
    rw [descend?_cons, Option.bind_eq_some_iff] at hnode
    obtain ⟨child, hchild, hnode⟩ := hnode
    have hmem := List.mem_of_getElem? hchild
    refine ih (h.of_mem_children hmem) ?_ hnode
    by_contra hproblem
    rw [h.hasProblem_of_mem_children hmem (by simpa using hproblem)] at hclean
    cases hclean

end Consistent

section Preorder

variable {tree child node last : SyntaxTree} {index : Nat} {path : List Nat}

private theorem preorder_eq (tree : SyntaxTree) :
    tree.preorder = ([], tree) :: preorderAmong 0 tree.children := by
  cases tree
  rw [preorder, children]

private theorem preorderAmong_append (index : Nat) (front back : List SyntaxTree) :
    preorderAmong index (front ++ back) =
      preorderAmong index front ++ preorderAmong (index + front.length) back := by
  induction front generalizing index with
  | nil => simp [preorderAmong]
  | cons child front ih =>
    rw [List.cons_append, preorderAmong, preorderAmong, ih, List.append_assoc, List.length_cons,
      Nat.add_assoc, Nat.add_comm 1]

private theorem mem_preorderAmong_iff {children : List SyntaxTree} :
    (path, node) ∈ preorderAmong index children ↔ ∃ place rest child,
      path = (index + place) :: rest ∧ children[place]? = some child ∧
        (rest, node) ∈ child.preorder := by
  induction children generalizing index with
  | nil => simp [preorderAmong]
  | cons first children ih =>
    rw [preorderAmong, List.mem_append, List.mem_map, ih]
    constructor
    · rintro (⟨⟨rest, node⟩, hmem, ⟨⟩⟩ | ⟨place, rest, child, rfl, hchild, hmem⟩)
      · exact ⟨0, rest, first, rfl, rfl, hmem⟩
      · exact ⟨place + 1, rest, child, by rw [Nat.add_assoc, Nat.add_comm 1], hchild, hmem⟩
    · rintro ⟨place, rest, child, rfl, hchild, hmem⟩
      cases place with
      | zero =>
        rw [List.getElem?_cons_zero, Option.some.injEq] at hchild
        exact Or.inl ⟨(rest, node), hchild ▸ hmem, rfl⟩
      | succ place =>
        exact Or.inr ⟨place, rest, child, by rw [Nat.add_assoc, Nat.add_comm 1], hchild, hmem⟩

/-- Pre-order lists what can be reached, and nothing else. -/
private theorem mem_preorder_iff :
    (path, node) ∈ tree.preorder ↔ tree.descend? path = some node := by
  induction tree using children_induction generalizing path with
  | node span isMissing hasError children ih =>
    rw [preorder, List.mem_cons, mem_preorderAmong_iff]
    cases path with
    | nil => simp [eq_comm]
    | cons index path =>
      rw [descend?_cons, Option.bind_eq_some_iff]
      constructor
      · rintro (hroot | ⟨place, rest, child, hpath, hchild, hmem⟩)
        · cases hroot
        · rw [Nat.zero_add, List.cons.injEq] at hpath
          obtain ⟨rfl, rfl⟩ := hpath
          exact ⟨child, hchild, (ih child (List.mem_of_getElem? hchild)).mp hmem⟩
      · rintro ⟨child, hchild, hnode⟩
        exact Or.inr ⟨index, path, child, by rw [Nat.zero_add], hchild,
          (ih child (List.mem_of_getElem? hchild)).mpr hnode⟩

private theorem FirstWithProblem.onlyAncestorsBefore (hstep : tree.FirstWithProblem index child)
    (hconsistent : tree.IsConsistent) (h : child.OnlyAncestorsBefore path last) :
    tree.OnlyAncestorsBefore (index :: path) last := by
  obtain ⟨front, back, hsplit, rfl, -, hclean⟩ := hstep
  obtain ⟨before, after, hlist, habove⟩ := h
  refine ⟨([], tree) :: (preorderAmong 0 front ++
      before.map fun entry => (front.length :: entry.1, entry.2)),
    after.map (fun entry => (front.length :: entry.1, entry.2)) ++
      preorderAmong (front.length + 1) back, ?_, ?_⟩
  · rw [preorder_eq, hsplit, preorderAmong_append, Nat.zero_add, preorderAmong, hlist]
    simp
  · intro entry hentry hproblem
    rw [List.mem_cons, List.mem_append, List.mem_map] at hentry
    obtain rfl | hfront | ⟨below, hbelow, rfl⟩ := hentry
    · exact ⟨front.length, path, rfl⟩
    · -- The children passed by have no problem, so there is none below them either.
      obtain ⟨place, rest, other, -, hother, hmem⟩ := mem_preorderAmong_iff.mp hfront
      have hpassed := List.mem_of_getElem? hother
      have hagree : other.IsConsistent := hconsistent.of_mem_children (by simp [hsplit, hpassed])
      rw [hagree.hasProblem_eq_false (hclean other hpassed) (mem_preorder_iff.mp hmem)] at hproblem
      cases hproblem
    · obtain ⟨next, rest, rfl⟩ := habove below hbelow hproblem
      exact ⟨next, rest, rfl⟩

private theorem LeadsToProblem.onlyAncestorsBefore (h : tree.LeadsToProblem path last)
    (hconsistent : tree.IsConsistent) : tree.OnlyAncestorsBefore path last := by
  have hroot : ∀ tree : SyntaxTree, tree.OnlyAncestorsBefore [] tree := fun tree =>
    ⟨[], preorderAmong 0 tree.children, preorder_eq tree, by simp⟩
  induction path generalizing tree with
  | nil =>
    obtain ⟨rfl, -⟩ := leadsToProblem_nil_iff.mp h
    exact hroot last
  | cons index path ih =>
    obtain ⟨child, hstep, hcases⟩ := h.exists_step
    refine hstep.onlyAncestorsBefore hconsistent ?_
    obtain ⟨-, rfl, rfl⟩ | ⟨-, hpath⟩ := hcases
    · exact hroot last
    · exact ih hpath (hconsistent.of_mem_children (List.mem_of_getElem? hstep.getElem?))

private theorem LeadsToProblem.hasProblem_below_eq_false (h : tree.LeadsToProblem path last)
    (hconsistent : tree.IsConsistent) (hpresent : last.isMissing = false) {below : List Nat}
    (hne : below ≠ []) (hnode : last.descend? below = some node) : node.hasProblem = false := by
  obtain ⟨-, hmissing⟩ | hclean := h.stops
  · rw [hpresent] at hmissing
    cases hmissing
  · cases below with
    | nil => exact absurd rfl hne
    | cons index below =>
      rw [descend?_cons, Option.bind_eq_some_iff] at hnode
      obtain ⟨child, hchild, hnode⟩ := hnode
      have hmem := List.mem_of_getElem? hchild
      exact ((hconsistent.of_descend? h.reaches).of_mem_children hmem).hasProblem_eq_false
        (hclean child hmem) hnode

/-- The search for the first problem takes the only path that leads to a problem. If the flags of the
tree agree, then only ancestors of what it finds have a problem before that in pre-order, and nothing
below it has one unless it is missing. -/
theorem firstProblem_is_leftmost (tree : SyntaxTree) :
    (∀ path last, tree.LeadsToProblem path last ↔
      path = tree.problemPath ∧ last = tree.firstProblem) ∧
    (tree.IsConsistent →
      tree.OnlyAncestorsBefore tree.problemPath tree.firstProblem ∧
      (tree.firstProblem.isMissing = false → ∀ below node, below ≠ [] →
        tree.firstProblem.descend? below = some node → node.hasProblem = false)) := by
  have hleads := leadsToProblem_problemPath tree
  refine ⟨fun path last => ⟨fun h => h.unique hleads, ?_⟩, fun hconsistent => ⟨?_, ?_⟩⟩
  · rintro ⟨rfl, rfl⟩
    exact hleads
  · exact hleads.onlyAncestorsBefore hconsistent
  · intro hpresent below node hne hnode
    exact hleads.hasProblem_below_eq_false hconsistent hpresent hne hnode

/-- An error inside of an error, with something missing further to the right. -/
theorem firstProblem_is_leftmost_of_nested_errors :
    let span : Span := ⟨0, 0, 0, 0⟩
    let inner : SyntaxTree := .node span false true [.node span false false []]
    let tree : SyntaxTree := .node span false true [.node span false false [],
      .node span false true [.node span false false [], inner, .node span true false []],
      .node span true true []]
    tree.IsConsistent ∧ tree.LeadsToProblem [1, 1] inner ∧ tree.OnlyAncestorsBefore [1, 1] inner ∧
      ∀ below node, below ≠ [] → inner.descend? below = some node → node.hasProblem = false := by
  intro span inner tree
  have hleaf : ∀ isMissing hasError, (SyntaxTree.node span isMissing hasError []).IsConsistent :=
    fun _ _ => .node (by simp) (by simp)
  have hinner : inner.IsConsistent := .node (by simp) (by simpa using hleaf false false)
  have htree : tree.IsConsistent :=
    .node (by simp) (by simpa [hleaf] using .node (by simp) (by simpa [hleaf] using hinner))
  obtain ⟨hunique, hleftmost⟩ := firstProblem_is_leftmost tree
  obtain ⟨honly, hbelow⟩ := hleftmost htree
  have hpath : tree.problemPath = [1, 1] := rfl
  have hproblem : tree.firstProblem = inner := rfl
  rw [hpath, hproblem] at honly
  rw [hproblem] at hbelow
  exact ⟨htree, (hunique _ _).mpr ⟨hpath.symm, hproblem.symm⟩, honly, hbelow rfl⟩

end Preorder

section Depth

/-- The search for the first problem by so many calls of itself, if they are enough. -/
def firstProblemWithin? : Nat → SyntaxTree → Option SyntaxTree
  | 0, _ => none
  | calls + 1, tree =>
    match tree.children.find? hasProblem with
    | none => some tree
    | some child => if child.isMissing then some child else child.firstProblemWithin? calls

private theorem firstProblemAmong_eq (children : List SyntaxTree) :
    firstProblemAmong children = (children.find? hasProblem).map fun child =>
      if child.isMissing then child else child.firstProblem := by
  induction children with
  | nil => rfl
  | cons child rest ih =>
    rw [firstProblemAmong, ih, List.find?_cons, hasProblem]
    cases hmissing : child.isMissing with
    | true => simp [hmissing]
    | false => cases child.hasError <;> simp [hmissing]

private theorem searchDepthAmong_eq (children : List SyntaxTree) :
    searchDepthAmong children = ((children.find? hasProblem).map fun child =>
      if child.isMissing then 0 else child.searchDepth).getD 0 := by
  induction children with
  | nil => rfl
  | cons child rest ih =>
    rw [searchDepthAmong, ih, List.find?_cons, hasProblem]
    cases hmissing : child.isMissing with
    | true => simp [hmissing]
    | false => cases child.hasError <;> simp [hmissing]

theorem firstProblemWithin?_eq (calls : Nat) (tree : SyntaxTree) :
    tree.firstProblemWithin? calls =
      if tree.searchDepth ≤ calls then some tree.firstProblem else none := by
  induction calls generalizing tree with
  | zero =>
    obtain ⟨span, isMissing, hasError, children⟩ := tree
    exact (if_neg (Nat.not_succ_le_zero _)).symm
  | succ calls ih =>
    obtain ⟨span, isMissing, hasError, children⟩ := tree
    rw [firstProblemWithin?, searchDepth, firstProblem, searchDepthAmong_eq, firstProblemAmong_eq]
    simp only [SyntaxTree.children, Nat.add_le_add_iff_right]
    cases children.find? hasProblem with
    | none => rfl
    | some child =>
      simp only [Option.map_some, Option.getD_some]
      cases child.isMissing with
      | true => simp
      | false => simp [ih]

end Depth

end SnippetReview.SyntaxTree
