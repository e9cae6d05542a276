import CppIdioms.Proofs.Correspondence
import Mathlib.Order.Monotone.Basic

/-!
# Changes of a tree that the rules do not see

Three changes of a tree that have a known effect on its report: parentheses around an expression
change nothing, a unit may be taken apart into its declarations, and moving lines moves the
findings. Each change gives trees that are alike, so what is left is to say how the trees correspond
and what that means for the order of the findings.

## Contents

* `Step.plug`, `Cursor.replaceBy`: the tree with another node in the place of one.
* `Node.only`: the unit that holds one declaration only.
* `Span.mapLines`, `Node.mapLines`: other line numbers.

## Main statements

* `parens_keep_report`: parentheses around an expression.
* `unit_report_eq_merge`: the declarations of a unit, one by one and in another order.
* `mapLines_moves_report`: line numbers that are mapped in order.
-/

namespace CppIdioms

/-! ## §1 Parentheses around an expression -/

/-- The parent with another child in the place that the step comes from. -/
def Step.plug (s : Step) (n : Node) : Node :=
  { s.parent with children := s.parent.children.set s.position (s.role, n) }

/-- The tree in which a node stands in the place of the cursor. -/
def Cursor.replaceBy (c : Cursor) (n : Node) : Node := c.path.foldl (fun below s => s.plug below) n

/-- An item is replaced by one that is mapped to the same. -/
theorem map_set_eq_map {α β : Type} {f : α → β} {xs : List α} {i : Nat} {x y : α}
    (holds : xs[i]? = some y) (h : f x = f y) : (xs.set i x).map f = xs.map f := by
  obtain ⟨hlt, rfl⟩ := List.getElem?_eq_some_iff.1 holds
  conv_rhs => rw [← List.set_getElem_self hlt]
  rw [List.map_set, List.map_set, h]

/-- A node that replaces itself changes nothing. -/
theorem Leads.foldl_plug_self {root n : Node} {path : List Step} (h : Leads root n path) :
    path.foldl (fun below s => s.plug below) n = root := by
  induction h with
  | here => rfl
  | @up parent n role position path holds _ ih =>
    have hsame : Step.plug ⟨parent, role, position⟩ n = parent := by
      obtain ⟨hlt, hget⟩ := List.getElem?_eq_some_iff.1 holds
      cases parent
      rw [Step.plug, ← hget, List.set_getElem_self]
    rw [List.foldl_cons, hsame, ih]

/-- One child is replaced by one that reads alike. -/
theorem AlikeChildren.set {k : Kind} {cs : List (String × Node)} {position : Nat} {role : String}
    {n n' : Node} (holds : cs[position]? = some (role, n)) (halike : Alike id n n')
    (bare : k.readsBare role → n'.attrs = n.attrs) :
    AlikeChildren id k cs (cs.set position (role, n')) := by
  induction cs generalizing position with
  | nil => cases holds
  | cons c cs ih =>
    cases position with
    | zero =>
      cases holds
      have hrest : AlikeChildren id k cs (cs.map fun c => (c.1, id c.2)) :=
        .of_map fun c _ => ⟨(Twin.refl c.2).alike, rfl⟩
      exact .cons halike bare (by simpa using hrest)
    | succ position =>
      obtain ⟨role', m⟩ := c
      exact .cons (Twin.refl m).alike (fun _ => rfl) (ih holds)

/-- A child that reads alike makes a tree that reads alike, if it is not read as it stands. -/
theorem Leads.alike_foldl_plug {root n n' : Node} {path : List Step} (h : Leads root n path)
    (halike : Alike id n n')
    (bare : ∀ s ∈ path.head?, s.parent.kind.readsBare s.role → n'.attrs = n.attrs) :
    Alike id root (path.foldl (fun below s => s.plug below) n') := by
  induction h generalizing n' with
  | here => exact halike
  | @up parent n role position path holds _ ih =>
    have hparent : Alike id parent (Step.plug ⟨parent, role, position⟩ n') :=
      .node rfl rfl rfl (.set holds halike (bare ⟨parent, role, position⟩ rfl))
    -- From here on up the attributes are those of the ancestors themselves.
    exact ih hparent fun _ _ _ => rfl

/-- Putting an expression in parentheses that have its place and its type does not change the
report, wherever the expression stands in the tree, unless it is what a range-for loop binds or a
parameter of a constructor. -/
theorem parens_keep_report (made used : Settings) (requested : List Value) (root : Node) (c : Cursor)
    (hc : c ∈ (Cursor.root root).walk) (hexpression : c.node.kind.isExpression)
    (hbinding : ¬(c.parent?.map (·.kind) = some .rangeForStatement ∧ c.role? = some "binding"))
    (hparameter : ¬(c.parent?.map (·.kind) = some .constructorDecl ∧ c.role? = some "parameters")) :
    c.replaceBy c.node = root ∧ ∃ report : Report,
      ((Engine.withAllRules made used).analyze root requested .absent).result = .ok report ∧
      ((Engine.withAllRules made used).analyze (c.replaceBy c.node.inParens) requested
        .absent).result = .ok report := by
  have hleads : Leads root c.node c.path := by
    rw [Cursor.walk_eq_preorder] at hc
    exact Cursor.mem_preorder_root.1 hc
  have hbare : ∀ s ∈ c.path.head?, s.parent.kind.readsBare s.role →
      c.node.inParens.attrs = c.node.attrs := by
    intro s hs hreads
    rw [Option.mem_def] at hs
    rw [Cursor.parent?, Cursor.role?, hs] at hbinding hparameter
    simp only [Kind.readsBare, Bool.or_eq_true, Bool.and_eq_true, beq_iff_eq] at hreads
    rcases hreads with ⟨hkind, hrole⟩ | ⟨hkind, hrole⟩
    · exact absurd ⟨by simp [hkind], by simp [hrole]⟩ hbinding
    · exact absurd ⟨by simp [hkind], by simp [hrole]⟩ hparameter
  have halike : Alike id root (c.replaceBy c.node.inParens) :=
    hleads.alike_foldl_plug (.parens hexpression (Twin.refl c.node).alike) hbare
  refine ⟨hleads.foldl_plug_self, _, Engine.analyze_eq_foundBelow _ _ _, ?_⟩
  rw [Engine.analyze_alike made used requested halike]
  exact congrArg (fun fs => Except.ok (Report.ofFindings fs)) (List.map_id _)

/-- A post-increment that is a statement of its own is reported, in parentheses as without. -/
theorem parens_keep_discarded_postfix :
    let operand : Node := ⟨.declRefExpr, ⟨"a.cpp", 3, 3, 3, 5⟩,
      [(.str "name", .str "it"),
       (.str "type", .map [(.str "spelling", .str "Iter"), (.str "category", .str "class")])], []⟩
    let increment : Node := ⟨.postIncrementExpr, ⟨"a.cpp", 3, 3, 3, 7⟩, [], [("operand", operand)]⟩
    let root : Node := ⟨.exprStatement, ⟨"a.cpp", 3, 3, 3, 8⟩, [], [("expr", increment)]⟩
    let wrapped : Node :=
      ⟨.exprStatement, ⟨"a.cpp", 3, 3, 3, 8⟩, [], [("expr", increment.inParens)]⟩
    ∃ report : Report, report.findings.map (·.rule) = ["R04"] ∧
      ((Engine.withAllRules {} {}).analyze root [] .absent).result = .ok report ∧
      ((Engine.withAllRules {} {}).analyze wrapped [] .absent).result = .ok report := by
  intro operand increment root wrapped
  let c : Cursor := ⟨increment, [⟨root, "expr", 0⟩]⟩
  have hc : c ∈ (Cursor.root root).walk := by
    rw [Cursor.walk_eq_preorder]
    exact Cursor.mem_preorder_root.2 (.up rfl .here)
  obtain ⟨_, report, hreport, hwrapped⟩ :=
    parens_keep_report {} {} [] root c hc rfl (by decide) (by decide)
  refine ⟨report, ?_, hreport, hwrapped⟩
  rw [Engine.eq_of_analyze hreport]
  decide +kernel

/-! ## §2 The declarations of a unit -/

/-- The unit that holds one declaration only, under its role. -/
def Node.only (unit : Node) (declaration : String × Node) : Node :=
  { unit with children := [declaration] }

section Unit

variable (made used : Settings) (requested : List Value) {unit : Node}

/-- No rule looks at whole units, so that all is found below their declarations. -/
theorem foundBelow_children_of_unit (hunit : unit.kind = .translationUnit) :
    foundBelow (keptOfAll made used requested) [Cursor.root unit]
      = foundBelow (keptOfAll made used requested) (Cursor.root unit).children := by
  have hnone : foundAt (keptOfAll made used requested) (Cursor.root unit) = [] := by
    refine foundAt_eq_nil fun d hd => ?_
    rw [show (Cursor.root unit).node.kind = .translationUnit from hunit]
    exact (builtin_looksAt made d (Catalog.mem_of_mem_kept hd)).2
  rw [foundBelow_cons, hnone, List.nil_append, List.append_nil]

/-- What is found in a unit is found in its declarations, each on its own. -/
theorem foundBelow_unit (hunit : unit.kind = .translationUnit) :
    foundBelow (keptOfAll made used requested) [Cursor.root unit]
      = unit.children.flatMap fun d =>
          foundBelow (keptOfAll made used requested) [Cursor.root (unit.only d)] := by
  -- Hanging from the whole unit or from the one that holds it alone, a declaration hangs alike.
  have hone : ∀ (d : String × Node) (position : Nat),
      foundBelow (keptOfAll made used requested) [Cursor.root (unit.only d)]
        = foundBelow (keptOfAll made used requested) [⟨d.2, [⟨unit, d.1, position⟩]⟩] := by
    intro d position
    have halike : Cursor.Alike id ⟨d.2, [⟨unit, d.1, position⟩]⟩ ⟨d.2, [⟨unit.only d, d.1, 0⟩]⟩ :=
      ⟨(Twin.refl d.2).alike, .step rfl ⟨rfl, rfl, fun hkind => absurd hunit hkind⟩ (.root _)⟩
    have hfound := foundBelow_keptOfAll made used requested (.cons halike .nil)
    rw [foundBelow_children_of_unit made used requested (show (unit.only d).kind = _ from hunit)]
    exact hfound.trans (List.map_id _)
  rw [foundBelow_children_of_unit made used requested hunit, foundBelow_eq_flatMap, Cursor.children,
    List.flatMap_map]
  conv_rhs => rw [← List.zipIdx_map_fst 0 unit.children, List.flatMap_map]
  exact List.flatMap_congr fun d _ => (hone d.1 d.2).symm

end Unit

/-- The report of a unit is the merged report of its declarations, each of them alone in a unit with
the place and the attributes of the whole one. So the declarations of a unit may stand in any
order. -/
theorem unit_report_eq_merge (made used : Settings) (requested : List Value) (unit : Node)
    (hunit : unit.kind = .translationUnit) :
    let result (n : Node) := ((Engine.withAllRules made used).analyze n requested .absent).result
    (∃ parts : List Report,
      List.Forall₂ (fun d part => result (unit.only d) = .ok part) unit.children parts ∧
      result unit = .ok (Report.merge parts)) ∧
    ∀ reordered : List (String × Node), reordered.Perm unit.children →
      result { unit with children := reordered } = result unit := by
  intro result
  let found (n : Node) := foundBelow (keptOfAll made used requested) [Cursor.root n]
  have hresult : ∀ n, result n = .ok (Report.ofFindings (found n)) := fun n =>
    Engine.analyze_eq_foundBelow _ n requested
  refine ⟨⟨unit.children.map fun d => Report.ofFindings (found (unit.only d)), ?_, ?_⟩, ?_⟩
  · rw [List.forall₂_map_right_iff, List.forall₂_same]
    exact fun d _ => hresult _
  · rw [hresult, Report.merge_ofFindings]
    exact congrArg (fun fs => Except.ok (Report.ofFindings fs))
      (foundBelow_unit made used requested hunit)
  · intro reordered hperm
    have hfound : (found { unit with children := reordered }).Perm (found unit) := by
      have hwhole : found unit = unit.children.flatMap fun d => found (unit.only d) :=
        foundBelow_unit made used requested hunit
      have hother : found { unit with children := reordered }
          = reordered.flatMap fun d => found (unit.only d) :=
        @foundBelow_unit made used requested { unit with children := reordered } hunit
      rw [hwhole, hother]
      exact hperm.flatMap_right _
    rw [hresult, hresult, Report.ofFindings_eq_of_perm _ hfound]
    exact keysTell_keptOfAll made used requested _

/-- Two enumerations of a unit: each adds its finding, and they may change places. -/
theorem unit_of_two_enums :
    let first : Node := ⟨.enumDecl, ⟨"a.cpp", 2, 1, 2, 9⟩, [(.str "name", .str "A")], []⟩
    let second : Node := ⟨.enumDecl, ⟨"a.cpp", 3, 1, 3, 9⟩, [(.str "name", .str "B")], []⟩
    let unit (children : List (String × Node)) : Node :=
      ⟨.translationUnit, ⟨"a.cpp", 1, 1, 4, 1⟩, [], children⟩
    let result (n : Node) := ((Engine.withAllRules {} {}).analyze n [] .absent).result
    ∃ parts : List Report, parts.map (·.findings.map (·.span.line)) = [[2], [3]] ∧
      result (unit [("declarations", first), ("declarations", second)]) = .ok (Report.merge parts) ∧
      result (unit [("declarations", second), ("declarations", first)])
        = result (unit [("declarations", first), ("declarations", second)]) := by
  intro first second unit result
  obtain ⟨⟨parts, hparts, hmerge⟩, hreorder⟩ := unit_report_eq_merge {} {} []
    (unit [("declarations", first), ("declarations", second)]) rfl
  refine ⟨parts, ?_, hmerge, hreorder _ (.swap _ _ _)⟩
  obtain ⟨p, _, hp, hrest, rfl⟩ := List.forall₂_cons_left_iff.1 hparts
  obtain ⟨q, _, hq, hnil, rfl⟩ := List.forall₂_cons_left_iff.1 hrest
  rw [List.forall₂_nil_left_iff.1 hnil, Engine.eq_of_analyze hp, Engine.eq_of_analyze hq]
  decide +kernel

/-! ## §3 Line numbers -/

/-- The place on other lines. -/
def Span.mapLines (f : Int → Int) (s : Span) : Span :=
  { s with line := f s.line, endLine := f s.endLine }

mutual

/-- The tree on other lines. -/
def Node.mapLines (f : Int → Int) : Node → Node
  | ⟨kind, span, attrs, children⟩ => ⟨kind, span.mapLines f, attrs, mapLinesAll f children⟩

/-- The children of a node on other lines. -/
def Node.mapLinesAll (f : Int → Int) : List (String × Node) → List (String × Node)
  | [] => []
  | c :: cs => mapLinesOne f c :: mapLinesAll f cs

/-- A child on other lines, under its role. -/
def Node.mapLinesOne (f : Int → Int) : String × Node → String × Node
  | (role, n) => (role, mapLines f n)

end

theorem Node.mapLinesAll_eq (f : Int → Int) (cs : List (String × Node)) :
    Node.mapLinesAll f cs = cs.map fun c => (c.1, c.2.mapLines f) := by
  induction cs with
  | nil => rw [mapLinesAll, List.map_nil]
  | cons c cs ih =>
    obtain ⟨role, n⟩ := c
    rw [mapLinesAll, mapLinesOne, ih, List.map_cons]

theorem Node.alike_mapLines (f : Int → Int) (n : Node) :
    Alike (Span.mapLines f) n (n.mapLines f) := by
  induction hsize : n.size using Nat.strongRecOn generalizing n with
  | ind size ih =>
    obtain ⟨kind, span, attrs, children⟩ := n
    rw [mapLines, mapLinesAll_eq]
    refine .node rfl rfl rfl (.of_map fun c hc => ?_)
    have hattrs : (c.2.mapLines f).attrs = c.2.attrs := by
      cases c.2
      rw [mapLines]
    exact ⟨ih _ (hsize ▸ Node.size_child_lt hc) c.2 rfl, hattrs⟩

section Order

variable {f : Int → Int} (hf : ∀ x y, x < y → f x < f y)
include hf

theorem Finding.key_moved_mapLines (a b : Finding) :
    (a.moved (Span.mapLines f)).key = (b.moved (Span.mapLines f)).key ↔ a.key = b.key := by
  have hinjective : Function.Injective f := StrictMono.injective fun x y => hf x y
  obtain ⟨_, ⟨_, _, _, _, _⟩, _, _⟩ := a
  obtain ⟨_, ⟨_, _, _, _, _⟩, _, _⟩ := b
  simp [key, moved, Span.mapLines, hinjective.eq_iff]

theorem Finding.precedes_moved_mapLines (a b : Finding) :
    (a.moved (Span.mapLines f)).precedes (b.moved (Span.mapLines f)) = a.precedes b := by
  have hmono : StrictMono f := fun x y => hf x y
  have hcompare : ∀ x y : Int, Ord.compare (f x) (f y) = Ord.compare x y := by
    intro x y
    rw [← cmp_eq_compare, ← cmp_eq_compare, hmono.cmp_map_eq]
  simp only [precedes, compare, moved, Span.mapLines, hcompare]

end Order

/-- What is read off a report does not depend on the places of its findings. -/
theorem Report.reading_moved (move : Span → Span) (r : Report) :
    let moved : Report := ⟨r.findings.map (Finding.moved move)⟩
    (∀ s, moved.count s = r.count s) ∧ moved.total = r.total ∧ moved.byRule = r.byRule ∧
      moved.passed = r.passed ∧ moved.exitCode = r.exitCode := by
  intro moved
  have hcount : ∀ s, moved.count s = r.count s := fun s => List.countP_map
  refine ⟨hcount, ?_, ?_, ?_, ?_⟩
  · rw [total, total, hcount, hcount, hcount]
  · simp only [byRule, moved, List.map_map, List.countP_map]
    rfl
  · simp only [passed, moved, List.any_map]
    rfl
  · simp only [exitCode, moved, List.map_map]
    rfl

/-- Line numbers that are mapped in order move the findings with them and change nothing else. -/
theorem mapLines_moves_report (made used : Settings) (requested : List Value) (root : Node)
    {f : Int → Int} (hf : ∀ x y, x < y → f x < f y) :
    let result (n : Node) := ((Engine.withAllRules made used).analyze n requested .absent).result
    ∃ report moved : Report, result root = .ok report ∧ result (root.mapLines f) = .ok moved ∧
      moved.findings = report.findings.map (fun g => { g with span := g.span.mapLines f }) ∧
      (∀ s, moved.count s = report.count s) ∧ moved.total = report.total ∧
      moved.byRule = report.byRule ∧ moved.passed = report.passed ∧
      moved.exitCode = report.exitCode := by
  intro result
  have hmoved := Engine.analyze_alike made used requested (root.alike_mapLines f)
  rw [Report.ofFindings_map (Finding.key_moved_mapLines hf) (Finding.precedes_moved_mapLines hf)]
    at hmoved
  exact ⟨_, _, Engine.analyze_eq_foundBelow _ root requested, hmoved, rfl, Report.reading_moved _ _⟩

/-- Twice as many lines, and seven more in front. -/
theorem mapLines_of_two_enums :
    let first : Node := ⟨.enumDecl, ⟨"a.cpp", 2, 1, 2, 9⟩, [(.str "name", .str "A")], []⟩
    let second : Node := ⟨.enumDecl, ⟨"a.cpp", 3, 1, 5, 9⟩, [(.str "name", .str "B")], []⟩
    let unit : Node := ⟨.translationUnit, ⟨"a.cpp", 1, 1, 6, 1⟩, [],
      [("declarations", first), ("declarations", second)]⟩
    let f : Int → Int := fun line => 2 * line + 7
    (∀ x y, x < y → f x < f y) ∧ ∃ report moved : Report,
      ((Engine.withAllRules {} {}).analyze unit [] .absent).result = .ok report ∧
      ((Engine.withAllRules {} {}).analyze (unit.mapLines f) [] .absent).result = .ok moved ∧
      report.findings.map (fun g => (g.span.line, g.span.endLine)) = [(2, 2), (3, 5)] ∧
      moved.findings.map (fun g => (g.span.line, g.span.endLine)) = [(11, 11), (13, 17)] := by
  intro first second unit f
  have hf : ∀ x y, x < y → f x < f y := by
    intro x y hxy
    change 2 * x + 7 < 2 * y + 7
    omega
  obtain ⟨report, moved, hreport, hmoved, hfindings, _⟩ := mapLines_moves_report {} {} [] unit hf
  refine ⟨hf, report, moved, hreport, hmoved, ?_⟩
  rw [hfindings, Engine.eq_of_analyze hreport, Report.findings_ofFindings (by decide +kernel)]
  decide +kernel

end CppIdioms
