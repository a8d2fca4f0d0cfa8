import PocketCalculator.Proofs.ExpressionTexts
import PocketCalculator.Proofs.Precedence

/-!
# Expressions as trees

Tokens in reverse Polish order can be read on a stack of trees instead of a stack of numbers. From
an expression they leave one tree. Its numerals and operators stand, from left to right, in the
order of the expression, and operators of one precedence lean to the left. So no two expressions
have the same tokens in reverse Polish order. Main statement: `reversePolishTexts_tree`.

## Main definitions

* `SyntaxTree` — numerals joined by operators, with the grouping made explicit.
* `SyntaxTree.IsGrouped` — grouping by precedence and from the left.
* `trees` — the stack machine that builds trees.
-/

namespace PocketCalculator

inductive SyntaxTree where
  | leaf (n : Numeral)
  | node (o : Operator) (left right : SyntaxTree)
deriving DecidableEq

namespace SyntaxTree

/-- The tokens of a tree, an operator between what it joins. -/
def inorder : SyntaxTree → List Token
  | .leaf n => [.number n]
  | .node o left right => left.inorder ++ .operator o :: right.inorder

/-- The tree itself and all that is below its operator. -/
def subtrees : SyntaxTree → List SyntaxTree
  | .leaf n => [.leaf n]
  | .node o left right => .node o left right :: (left.subtrees ++ right.subtrees)

/-- Neither a sum nor a difference anywhere in the tree. -/
def IsProduct (t : SyntaxTree) : Prop :=
  ∀ o left right, node o left right ∈ t.subtrees → o.isAdditive = false

/-- Operators of one precedence lean to the left, and products do not reach over sums. -/
structure IsGrouped (t : SyntaxTree) : Prop where
  factor : ∀ o left right, node o left right ∈ t.subtrees → o.isAdditive = false →
    ∃ n, right = leaf n
  summand : ∀ o left right, node o left right ∈ t.subtrees → o.isAdditive = true →
    right.IsProduct
  product : ∀ o left right, node o left right ∈ t.subtrees → o.isAdditive = false →
    (node o left right).IsProduct

/-! ## Trees put together -/

theorem isProduct_leaf (n : Numeral) : (leaf n).IsProduct := by
  intro o left right h
  simp [subtrees] at h

theorem isGrouped_leaf (n : Numeral) : (leaf n).IsGrouped := by
  constructor <;> intro o left right h <;> simp [subtrees] at h

theorem mem_subtrees_node {o p : Operator} {l r left right : SyntaxTree}
    (h : node p left right ∈ (node o l r).subtrees) :
    (p = o ∧ left = l ∧ right = r) ∨ node p left right ∈ l.subtrees ∨
      node p left right ∈ r.subtrees := by
  rw [subtrees, List.mem_cons, List.mem_append] at h
  exact h.imp_left SyntaxTree.node.inj

theorem IsProduct.node {o : Operator} {l r : SyntaxTree} (ho : o.isAdditive = false)
    (hl : l.IsProduct) (hr : r.IsProduct) : (node o l r).IsProduct := by
  intro p left right h
  rcases mem_subtrees_node h with ⟨rfl, -, -⟩ | h | h
  · exact ho
  · exact hl p left right h
  · exact hr p left right h

/-- A numeral joins a product on its right. -/
theorem IsGrouped.node_tight {o : Operator} {l : SyntaxTree} (ho : o.isAdditive = false)
    (hl : l.IsGrouped) (hproduct : l.IsProduct) (n : Numeral) :
    (SyntaxTree.node o l (leaf n)).IsGrouped := by
  have hleaf := isGrouped_leaf n
  constructor <;> intro p left right h hp <;>
    rcases mem_subtrees_node h with ⟨rfl, rfl, rfl⟩ | h | h
  · exact ⟨n, rfl⟩
  · exact hl.factor p left right h hp
  · exact hleaf.factor p left right h hp
  · exact isProduct_leaf n
  · exact hl.summand p left right h hp
  · exact hleaf.summand p left right h hp
  · exact hproduct.node ho (isProduct_leaf n)
  · exact hl.product p left right h hp
  · exact hleaf.product p left right h hp

/-- A product joins a sum on its right. -/
theorem IsGrouped.node_additive {o : Operator} {l r : SyntaxTree} (ho : o.isAdditive = true)
    (hl : l.IsGrouped) (hr : r.IsGrouped) (hproduct : r.IsProduct) :
    (SyntaxTree.node o l r).IsGrouped := by
  constructor <;> intro p left right h hp <;>
    rcases mem_subtrees_node h with ⟨rfl, rfl, rfl⟩ | h | h
  · exact absurd (ho.symm.trans hp) (by decide)
  · exact hl.factor p left right h hp
  · exact hr.factor p left right h hp
  · exact hproduct
  · exact hl.summand p left right h hp
  · exact hr.summand p left right h hp
  · exact absurd (ho.symm.trans hp) (by decide)
  · exact hl.product p left right h hp
  · exact hr.product p left right h hp

end SyntaxTree

open SyntaxTree

/-! ## The tree of a term -/

def Term.tree (t : Term) : SyntaxTree :=
  t.factors.foldl (fun left p => .node p.1 left (.leaf p.2)) (.leaf t.first)

theorem inorder_foldl_factors (fs : List (Operator × Numeral)) (t : SyntaxTree) :
    (fs.foldl (fun left p => node p.1 left (leaf p.2)) t).inorder =
      t.inorder ++ Expression.pairTokens fs := by
  induction fs generalizing t with
  | nil => simp [Expression.pairTokens]
  | cons p fs ih =>
    rw [List.foldl_cons, ih]
    simp [inorder, Expression.pairTokens]

theorem Term.inorder_tree (t : Term) : t.tree.inorder = t.tokens :=
  inorder_foldl_factors t.factors (leaf t.first)

theorem Term.IsProduct.tree {t : Term} (h : t.IsProduct) :
    t.tree.IsProduct ∧ t.tree.IsGrouped := by
  have hfold (fs : List (Operator × Numeral)) (hfs : ∀ p ∈ fs, p.1.isAdditive = false)
      (l : SyntaxTree) (hproduct : l.IsProduct) (hgrouped : l.IsGrouped) :
      (fs.foldl (fun left p => node p.1 left (leaf p.2)) l).IsProduct ∧
        (fs.foldl (fun left p => node p.1 left (leaf p.2)) l).IsGrouped := by
    induction fs generalizing l with
    | nil => exact ⟨hproduct, hgrouped⟩
    | cons p fs ih =>
      obtain ⟨hp, hfs⟩ := List.forall_mem_cons.1 hfs
      exact ih hfs _ (hproduct.node hp (isProduct_leaf p.2)) (hgrouped.node_tight hp hproduct p.2)
  exact hfold t.factors h _ (isProduct_leaf t.first) (isGrouped_leaf t.first)

/-! ## The tree of a sum -/

def TermSum.tree (s : TermSum) : SyntaxTree :=
  s.summands.foldl (fun left p => .node p.1 left p.2.tree) s.first.tree

theorem TermSum.inorder_tree (s : TermSum) : s.tree.inorder = s.tokens := by
  have hfold (ss : List (Operator × Term)) (l : SyntaxTree) :
      (ss.foldl (fun left p => node p.1 left p.2.tree) l).inorder =
        l.inorder ++ ss.flatMap fun p => .operator p.1 :: p.2.tokens := by
    induction ss generalizing l with
    | nil => simp
    | cons p ss ih =>
      rw [List.foldl_cons, ih]
      simp [inorder, Term.inorder_tree]
  rw [tree, hfold, Term.inorder_tree]
  rfl

theorem TermSum.IsCut.isGrouped_tree {s : TermSum} (h : s.IsCut) : s.tree.IsGrouped := by
  have hfold (ss : List (Operator × Term))
      (hss : ∀ p ∈ ss, p.1.isAdditive = true ∧ p.2.IsProduct) (l : SyntaxTree)
      (hl : l.IsGrouped) : (ss.foldl (fun left p => node p.1 left p.2.tree) l).IsGrouped := by
    induction ss generalizing l with
    | nil => exact hl
    | cons p ss ih =>
      obtain ⟨⟨hp, hterm⟩, hss⟩ := List.forall_mem_cons.1 hss
      obtain ⟨hproduct, hgrouped⟩ := hterm.tree
      exact ih hss _ (hl.node_additive hp hgrouped hproduct)
  exact hfold s.summands h.2 _ h.1.tree.2

/-! ## Reading on a stack of trees -/

/-- Numerals are leaves, and an operator joins the two trees on top of the stack. -/
def trees : Arithmetic SyntaxTree Unit where
  ofNumeral := .leaf
  apply o left right := .ok (.node o left right)
  missingOperand := ()

theorem term_trees (t : Term) : trees.term t = .ok t.tree :=
  List.foldlM_pure

theorem sum_trees (s : TermSum) : trees.sum s = .ok s.tree := by
  have hsummand : trees.summand = fun left p => pure (node p.1 left p.2.tree) := by
    funext left p
    rw [Arithmetic.summand, term_trees]
    rfl
  rw [Arithmetic.sum, term_trees, hsummand]
  exact List.foldlM_pure

theorem run_trees (e : Expression) :
    trees.run (reversePolish e.tokens) [] = .ok [e.terms.tree] := by
  rw [trees.run_reversePolish, sum_trees]
  rfl

/-- The words of the grammar are the tokens of expressions. -/
theorem isExpressionRow_iff (ts : List String) :
    IsExpressionRow ts ↔ ∃ e : Expression, Token.texts e.tokens = ts := by
  rw [← readTokens_joinTexts_iff, readTokens_eq_ok_iff]
  constructor
  · rintro ⟨e, -, he⟩
    exact ⟨e, he⟩
  · rintro ⟨e, rfl⟩
    exact ⟨e, Expression.ofText_joinTexts e, rfl⟩

/-- The tokens of an expression in reverse Polish order leave one tree on the stack. It has the
tokens of the expression from left to right and is grouped by precedence and from the left, so that
the expression can be told from its reverse Polish order. -/
theorem reversePolishTexts_tree {ts : List String} (h : IsExpressionRow ts) :
    (∃ ps tree, reversePolishTexts ts = .ok (Token.texts ps) ∧
      trees.run ps [] = .ok [tree] ∧ Token.texts tree.inorder = ts ∧
      tree.IsGrouped) ∧
    ∀ us, IsExpressionRow us → reversePolishTexts us = reversePolishTexts ts → us = ts := by
  have hinorder (e : Expression) : e.terms.tree.inorder = e.tokens := by
    rw [TermSum.inorder_tree, e.tokens_terms]
  obtain ⟨e, rfl⟩ := (isExpressionRow_iff ts).1 h
  refine ⟨⟨reversePolish e.tokens, e.terms.tree, reversePolishTexts_texts e.tokens, run_trees e,
    congrArg Token.texts (hinorder e), e.isCut_terms.isGrouped_tree⟩, ?_⟩
  intro us hus heq
  obtain ⟨e', rfl⟩ := (isExpressionRow_iff us).1 hus
  rw [reversePolishTexts_texts, reversePolishTexts_texts] at heq
  have hpolish : reversePolish e'.tokens = reversePolish e.tokens :=
    Token.texts_injective (Except.ok.inj heq)
  -- The same tokens leave the same tree, and the tree holds the expression.
  have htree : e'.terms.tree = e.terms.tree := by
    have hrun := run_trees e'
    rw [hpolish, run_trees e] at hrun
    exact (List.singleton_inj.1 (Except.ok.inj hrun)).symm
  rw [← hinorder e', htree, hinorder e]

theorem reversePolishTexts_tree_differences :
    let ts := ["9", "-", "4", "-", "2", "*", "3", "/", "6"]
    let n (d : Digit) : SyntaxTree := .leaf (.ofDigit d)
    let tree : SyntaxTree := .node .sub (.node .sub (n 9) (n 4))
      (.node .div (.node .mul (n 2) (n 3)) (n 6))
    IsExpressionRow ts ∧
      (∃ ps, reversePolishTexts ts = .ok (Token.texts ps) ∧
        trees.run ps [] = .ok [tree] ∧ Token.texts tree.inorder = ts ∧
        tree.IsGrouped) ∧
      ∀ us, IsExpressionRow us → reversePolishTexts us = reversePolishTexts ts → us = ts := by
  intro ts n tree
  let e : Expression := ⟨.ofDigit 9, [(.sub, .ofDigit 4), (.sub, .ofDigit 2), (.mul, .ofDigit 3),
    (.div, .ofDigit 6)]⟩
  have hrow : IsExpressionRow ts := (isExpressionRow_iff ts).2 ⟨e, by rfl⟩
  obtain ⟨⟨ps, t, hps, hrun, hinorder, hgrouped⟩, hinjective⟩ :=
    reversePolishTexts_tree hrow
  have htokens : ps = reversePolish e.tokens :=
    Token.texts_injective (Except.ok.inj (hps.symm.trans (by rfl)))
  obtain rfl : t = tree := by
    rw [htokens] at hrun
    exact (List.singleton_inj.1 (Except.ok.inj hrun)).symm
  exact ⟨hrow, ⟨ps, hps, hrun, hinorder, hgrouped⟩, hinjective⟩

end PocketCalculator
