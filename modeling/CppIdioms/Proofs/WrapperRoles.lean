import CppIdioms.Proofs.Invariance
import CppIdioms.Proofs.RoleIndifference

/-!
# The role below a wrapper

A wrapper shows its only child, so the role that the child hangs under should not matter to a report.
Two trees that differ in the role below one wrapper become the same tree when the two roles are merged,
and detectors that ignore the renaming find the same in both.

What is left is the rule about narrowing: its way from an initializer to a narrowing conversion follows
`operand`, where all other ways through wrappers take the only child. It reads nothing above a
declaration, so what it finds is compared node by node, along the way up from the wrapper.

## Contents

* `Renaming.merging`: two roles become one.
* `Cursor.onInitializer`: the node stands in the initializer of a variable, within wrappers at most.
* `narrowingReading`, `narrowingFound`: what is learnt from an initializer, and found at a node.
* `NarrowingAlike`: a node in the place of another one, as far as narrowing is concerned.

## Main statements

* `Leads.rehang_foldl_plug`: trees that differ in the role below one wrapper are renamed to the same.
* `NarrowingAlike.plug`, `NarrowingAlike.found_foldl_plug`: one step up, and the whole way to the root.
* `wrapper_role_keeps_report`: the role below a wrapper, and what it matters to.
-/

namespace CppIdioms

open CppIdioms.Rules

/-! ## §1 Another role below one wrapper -/

/-- One role takes the place of another, for children of a kind. -/
def Renaming.merging (k : Kind) (role role' : String) : Renaming :=
  fun child r => if child = k ∧ r = role' then role else r

/-- Merging two roles keeps a third one apart, unless it is one of the two. -/
theorem Renaming.merging_eq_iff {k child : Kind} {role role' other : String}
    (h : child = k → (role = other ↔ role' = other)) (r : String) :
    merging k role role' child r = other ↔ r = other := by
  unfold merging
  split
  · next hmerged =>
    obtain ⟨hchild, rfl⟩ := hmerged
    exact h hchild
  · rfl

/-- The tree below a wrapper after its role has been changed, renamed. -/
theorem Node.rehang_other_role {w x : Node} {role : String} (hwrapper : w.kind.isWrapper)
    (hx : w.children = [(role, x)]) (role' : String) :
    Node.rehang (.merging x.kind role role') { w with children := [(role', x)] } =
      w.rehang (.merging x.kind role role') := by
  have hmerged : ∀ r, r = role ∨ r = role' → Renaming.merging x.kind role role' x.kind r = role := by
    intro r hr
    unfold Renaming.merging
    rcases hr with rfl | rfl <;> simp
  rw [rehang_eq, rehang_eq _ w]
  simp [hx, hook, isSome_wrapped?, hwrapper, hmerged]

theorem Step.rehang_plug {ρ : Renaming} {parent n n' : Node} {role : String} {position : Nat}
    (holds : parent.children[position]? = some (role, n)) (h : n'.rehang ρ = n.rehang ρ) :
    (Step.plug ⟨parent, role, position⟩ n').rehang ρ = parent.rehang ρ := by
  have hkind : n'.kind = n.kind := by
    rw [← Node.kind_rehang ρ n', h, Node.kind_rehang]
  have hhook : (Step.plug ⟨parent, role, position⟩ n').hook ρ = parent.hook ρ := by
    funext child r
    rw [Node.hook, Node.hook, Node.isSome_wrapped?, Node.isSome_wrapped?, Step.plug]
    simp only [List.length_set]
  have hchildren : (parent.children.set position (role, n')).map
      (fun c => (parent.hook ρ c.2.kind c.1, c.2.rehang ρ))
        = parent.children.map fun c => (parent.hook ρ c.2.kind c.1, c.2.rehang ρ) :=
    map_set_eq_map holds (by rw [hkind, h])
  rw [Node.rehang_eq, Node.rehang_eq ρ parent, hhook]
  simp only [Step.plug, hchildren]

/-- Nodes that are renamed to the same make trees that are renamed to the same. -/
theorem Leads.rehang_foldl_plug {ρ : Renaming} {root n n' : Node} {path : List Step}
    (h : Leads root n path) (hn : n'.rehang ρ = n.rehang ρ) :
    (path.foldl (fun below s => s.plug below) n').rehang ρ = root.rehang ρ := by
  induction h generalizing n' with
  | here => exact hn
  | up holds _ ih => exact ih (Step.rehang_plug holds hn)

/-! ## §2 Narrowing conversions -/

/-- The node stands in the initializer of a variable, within wrappers at most. -/
def Cursor.onInitializer (c : Cursor) : Bool :=
  match c.climb.path with
  | s :: _ => s.parent.kind == .variableDecl && s.role == "init"
  | [] => false

/-- What is learnt about a narrowing conversion: that there is one, and the attributes of what it
converts. -/
def narrowingReading (n : Node) : Option (Option Entries) :=
  (narrowingCast? n).map fun cast => (cast.child? "operand").map (·.attrs)

theorem narrowingReading_congr {n n' : Node} (hkind : n'.kind = n.kind) (hattrs : n'.attrs = n.attrs)
    (hchild : n'.child? "operand" = n.child? "operand") : narrowingReading n' = narrowingReading n := by
  unfold narrowingReading
  rw [narrowingCast?_eq, narrowingCast?_eq n, hkind, has_congr hattrs, hchild]
  split
  · rfl
  · split
    · rw [Option.map_some, Option.map_some, hchild]
    · rfl

theorem sourceType_congr {i i' : Node} (hattrs : i'.attrs = i.attrs)
    (h : narrowingReading i' = narrowingReading i) :
    sourceType (some i') (narrowingCast? i') = sourceType (some i) (narrowingCast? i) := by
  unfold narrowingReading at h
  unfold sourceType
  cases hcast : narrowingCast? i with
  | none =>
    rw [hcast, Option.map_none, Option.map_eq_none_iff] at h
    simp only [h, typeAt_congr hattrs]
  | some cast =>
    rw [hcast, Option.map_some] at h
    obtain ⟨cast', hcast', hoperand⟩ := Option.map_eq_some_iff.1 h
    simp only [hcast']
    cases hchild : cast.child? "operand" with
    | none =>
      rw [hchild, Option.map_none, Option.map_eq_none_iff] at hoperand
      simp only [hoperand]
    | some operand =>
      rw [hchild, Option.map_some] at hoperand
      obtain ⟨operand', hchild', hoperand'⟩ := Option.map_eq_some_iff.1 hoperand
      simp only [hchild', typeAt_congr hoperand']

/-- Narrowing is found by the node itself, its initializer and what is learnt about that. -/
theorem narrowingInit_inspect_congr {c c' : Cursor} (hspan : c'.node.span = c.node.span)
    (hattrs : c'.node.attrs = c.node.attrs)
    (hinit : Option.Rel (fun i i' : Node => i'.attrs = i.attrs ∧ narrowingReading i' = narrowingReading i)
      (c.node.child? "init") (c'.node.child? "init")) :
    narrowingInit.inspect c' = narrowingInit.inspect c := by
  have hfinding : ∀ message, narrowingInitRule.finding c'.node message
      = narrowingInitRule.finding c.node message := fun message => by
    rw [Rule.finding, Rule.finding, hspan]
  obtain ⟨hc, hc'⟩ | ⟨i, i', hc, hc', hi, hreading⟩ := rel_cases hinit
  · simp only [narrowingInit, hc, hc', attr_congr hattrs, has_congr hattrs, typeAt_congr hattrs,
      nameOr_congr hattrs, hfinding]
  · have hsome : (narrowingCast? i').isNone = (narrowingCast? i).isNone := by
      have h := congrArg Option.isNone hreading
      rwa [narrowingReading, narrowingReading, Option.isNone_map, Option.isNone_map] at h
    simp only [narrowingInit, hc, hc', Option.bind_some, attr_congr hattrs, has_congr hattrs,
      typeAt_congr hattrs, nameOr_congr hattrs, hfinding, hsome, sourceType_congr hi hreading]

/-- What the rule finds at a node; the way up to it does not matter. -/
def narrowingFound (n : Node) : List Finding :=
  if n.kind = .variableDecl then narrowingInit.found (Cursor.root n) else []

theorem map_narrowingFound_walk (n : Node) :
    n.walk.map narrowingFound
      = narrowingFound n :: n.children.flatMap fun c => c.2.walk.map narrowingFound := by
  rw [Node.walk_eq, List.map_cons, List.flatMap_map, List.map_flatMap]

/-- The first child under a role, after one child has been replaced: it is the same, or it is the one
that was replaced. -/
theorem Step.child?_plug {parent n : Node} {role : String} {position : Nat}
    (holds : parent.children[position]? = some (role, n)) (n' : Node) (r : String) :
    (Step.plug ⟨parent, role, position⟩ n').child? r = parent.child? r ∨
      (r = role ∧ parent.child? r = some n ∧ (Step.plug ⟨parent, role, position⟩ n').child? r = some n') := by
  unfold Step.plug Node.child?
  generalize parent.children = cs at holds
  induction cs generalizing position with
  | nil => cases holds
  | cons c cs ih =>
    cases position with
    | zero =>
      cases holds
      by_cases hr : role = r
      · exact .inr ⟨hr.symm, by simp [hr], by simp [hr]⟩
      · exact .inl (by simp [hr])
    | succ position =>
      by_cases hr : c.1 = r
      · exact .inl (by simp [hr])
      · simpa [hr] using ih holds

/-- A node in the place of another one, on the way up to the root: it looks the same from outside,
nothing else about narrowing is found below it, and nothing else is learnt from it either, unless it is
a wrapper that stands in no initializer. -/
structure NarrowingAlike (path : List Step) (n n' : Node) : Prop where
  kind : n'.kind = n.kind
  span : n'.span = n.span
  attrs : n'.attrs = n.attrs
  reading : narrowingReading n' = narrowingReading n ∨
    (n.kind.isWrapper ∧ Cursor.onInitializer ⟨n, path⟩ = false)
  found : n'.walk.map narrowingFound = n.walk.map narrowingFound

namespace NarrowingAlike

variable {parent n n' : Node} {role : String} {position : Nat} {path : List Step}

/-- What is learnt from the parent. -/
theorem reading_plug (holds : parent.children[position]? = some (role, n))
    (h : NarrowingAlike (⟨parent, role, position⟩ :: path) n n') :
    narrowingReading (Step.plug ⟨parent, role, position⟩ n') = narrowingReading parent ∨
      (parent.kind.isWrapper ∧ Cursor.onInitializer ⟨parent, path⟩ = false) := by
  have hplug : (Step.plug ⟨parent, role, position⟩ n').kind = parent.kind ∧
      (Step.plug ⟨parent, role, position⟩ n').attrs = parent.attrs := ⟨rfl, rfl⟩
  cases hwrapper : parent.kind.isWrapper with
  | false =>
    left
    unfold narrowingReading
    rw [narrowingCast?_eq, narrowingCast?_eq parent, hplug.1, hwrapper]
    rfl
  | true =>
    rcases h.reading with hreading | ⟨_, hoff⟩
    · left
      rcases Step.child?_plug holds n' "operand" with hsame | ⟨_, hn, hn'⟩
      · exact narrowingReading_congr hplug.1 hplug.2 hsame
      · unfold narrowingReading at hreading ⊢
        rw [narrowingCast?_eq, narrowingCast?_eq parent, hplug.1, has_congr hplug.2, hwrapper, hn, hn']
        split
        · rfl
        · split
          · simp only [Option.map_some, hn, hn', h.attrs]
          · exact hreading
    · -- The wrappers around a node stand where the node stands.
      refine .inr ⟨rfl, ?_⟩
      unfold Cursor.onInitializer Cursor.climb at hoff ⊢
      rwa [Cursor.climbFrom, if_pos hwrapper] at hoff

/-- What is found at the parent. -/
theorem narrowingFound_plug (holds : parent.children[position]? = some (role, n))
    (h : NarrowingAlike (⟨parent, role, position⟩ :: path) n n') :
    narrowingFound (Step.plug ⟨parent, role, position⟩ n') = narrowingFound parent := by
  have hplug : (Step.plug ⟨parent, role, position⟩ n').kind = parent.kind := rfl
  rw [narrowingFound, narrowingFound, hplug]
  by_cases hkind : parent.kind = .variableDecl
  · have hinspect : narrowingInit.inspect (Cursor.root (Step.plug ⟨parent, role, position⟩ n'))
        = narrowingInit.inspect (Cursor.root parent) := by
      refine narrowingInit_inspect_congr rfl rfl ?_
      change Option.Rel _ (parent.child? "init")
        ((Step.plug ⟨parent, role, position⟩ n').child? "init")
      rcases Step.child?_plug holds n' "init" with hsame | ⟨hrole, hn, hn'⟩
      · rw [hsame]
        cases parent.child? "init" with
        | none => exact .none
        | some i => exact .some ⟨rfl, rfl⟩
      · rw [hn, hn']
        refine .some ⟨h.attrs, ?_⟩
        rcases h.reading with hreading | ⟨_, hoff⟩
        · exact hreading
        · -- The variable is no wrapper, so that its initializer is where the node stands.
          exfalso
          simp [Cursor.onInitializer, Cursor.climb, Cursor.climbFrom, hkind, ← hrole,
            Kind.isWrapper] at hoff
    rw [if_pos hkind, if_pos hkind, Detector.found, hinspect, Detector.found]
  · rw [if_neg hkind, if_neg hkind]

theorem found_plug (holds : parent.children[position]? = some (role, n))
    (h : NarrowingAlike (⟨parent, role, position⟩ :: path) n n') :
    (Step.plug ⟨parent, role, position⟩ n').walk.map narrowingFound
      = parent.walk.map narrowingFound := by
  obtain ⟨hlt, hget⟩ := List.getElem?_eq_some_iff.1 holds
  have hchildren : (parent.children.set position (role, n')).map (fun c => c.2.walk.map narrowingFound)
      = parent.children.map fun c => c.2.walk.map narrowingFound := by
    rw [List.map_set, h.found]
    conv_rhs => rw [← List.set_getElem_self hlt, hget, List.map_set]
  rw [map_narrowingFound_walk, map_narrowingFound_walk parent, h.narrowingFound_plug holds,
    List.flatMap_def, List.flatMap_def, ← hchildren]
  rfl

theorem plug (holds : parent.children[position]? = some (role, n))
    (h : NarrowingAlike (⟨parent, role, position⟩ :: path) n n') :
    NarrowingAlike path parent (Step.plug ⟨parent, role, position⟩ n') :=
  ⟨rfl, rfl, rfl, h.reading_plug holds, h.found_plug holds⟩

/-- Up to the root, nothing else is found. -/
theorem found_foldl_plug {root : Node} (hleads : Leads root n path) (h : NarrowingAlike path n n') :
    (path.foldl (fun below s => s.plug below) n').walk.map narrowingFound
      = root.walk.map narrowingFound := by
  induction hleads generalizing n' with
  | here => exact h.found
  | up holds _ ih => exact ih (h.plug holds)

/-- Another role below a wrapper, unless it takes an initializer to or from `operand`. -/
theorem of_role {w x : Node} {role role' : String} {path : List Step} (hwrapper : w.kind.isWrapper)
    (hx : w.children = [(role, x)])
    (h : Cursor.onInitializer ⟨w, path⟩ → (role = "operand" ↔ role' = "operand")) :
    NarrowingAlike path w { w with children := [(role', x)] } where
  kind := rfl
  span := rfl
  attrs := rfl
  reading := by
    cases hon : Cursor.onInitializer ⟨w, path⟩ with
    | false => exact .inr ⟨hwrapper, rfl⟩
    | true =>
      left
      have hchild : Node.child? { w with children := [(role', x)] } "operand" = w.child? "operand" := by
        unfold Node.child?
        by_cases hrole : role = "operand"
        · simp [hx, hrole, (h hon).1 hrole]
        · have hrole' : role' ≠ "operand" := fun hrole' => hrole ((h hon).2 hrole')
          simp [hx, hrole, hrole']
      exact narrowingReading_congr rfl rfl hchild
  found := by
    have hnone : ∀ m : Node, m.kind.isWrapper → narrowingFound m = [] := by
      intro m hm
      unfold narrowingFound
      rw [if_neg]
      intro hkind
      rw [hkind] at hm
      cases hm
    rw [map_narrowingFound_walk, map_narrowingFound_walk w, hnone w hwrapper,
      hnone { w with children := [(role', x)] } hwrapper, hx]
    rfl

end NarrowingAlike

/-! ## §3 Reports -/

section Reports

variable (made used : Settings) (requested : List Value)

/-- What the kept rules find at cursors that are renamed to the same, if the same is found about
narrowing. -/
theorem foundAt_of_rehang_eq {ρ : Renaming} {c c' : Cursor} (hρ : c'.rehang ρ = c.rehang ρ)
    (hscope : ∀ d ∈ scopeDetectors, d ∈ keptOfAll made used requested → d.IgnoresRoles ρ)
    (hnarrowing : narrowingInit ∈ keptOfAll made used requested →
      narrowingFound c'.node = narrowingFound c.node) :
    foundAt (keptOfAll made used requested) c' = foundAt (keptOfAll made used requested) c := by
  have hkind : c'.node.kind = c.node.kind := by
    have hnode := congrArg (·.node.kind) hρ
    simpa using hnode
  rw [foundAt, foundAt, hkind]
  refine List.flatMap_congr fun d hd => ?_
  obtain ⟨hd, hlooks⟩ := List.mem_filter.1 hd
  by_cases hd' : d = narrowingInit
  · subst hd'
    have hvariable : c.node.kind = .variableDecl := List.mem_singleton.1 (Detector.mem_kinds hlooks)
    have hfound := hnarrowing hd
    rwa [narrowingFound, narrowingFound, if_pos hvariable, if_pos (hkind.trans hvariable)] at hfound
  · have hignores : d.IgnoresRoles ρ := by
      by_cases hmem : d ∈ scopeDetectors
      · exact hscope d hmem hd
      · exact builtin_ignoresRoles ρ made (Catalog.mem_of_mem_kept hd) hmem hd'
    rw [Detector.found, Detector.found, ← hignores c hlooks, ← hignores c' (hkind ▸ hlooks), hρ]

/-- Lists that are mapped to the same by two functions are mapped to the same by both at once. -/
theorem map_pair_eq {α β γ : Type} {f : α → β} {g : α → γ} {xs ys : List α} (hf : xs.map f = ys.map f)
    (hg : xs.map g = ys.map g) : xs.map (fun x => (f x, g x)) = ys.map fun x => (f x, g x) := by
  rw [← List.zip_map', ← List.zip_map', hf, hg]

/-- Walks on which the same is told of every cursor find the same, if that decides what is found. -/
theorem foundBelow_eq_of_map_eq {ds : List Detector} {β : Type} {told : Cursor → β} {c c' : Cursor}
    (hmap : c'.preorder.map told = c.preorder.map told)
    (htold : ∀ d d', told d' = told d → foundAt ds d' = foundAt ds d) :
    foundBelow ds [c'] = foundBelow ds [c] := by
  have hpaired : List.Forall₂ (fun d' d => told d' = told d) c'.preorder c.preorder := by
    have hsame : List.Forall₂ Eq (c'.preorder.map told) (c.preorder.map told) := by
      rw [List.forall₂_eq_eq_eq]
      exact hmap
    exact List.forall₂_map_right_iff.1 (List.forall₂_map_left_iff.1 hsame)
  unfold foundBelow
  rw [List.flatMap_singleton, List.flatMap_singleton]
  generalize c'.preorder = cs', c.preorder = cs at hpaired
  induction hpaired with
  | nil => rfl
  | cons h _ ih => rw [List.flatMap_cons, List.flatMap_cons, htold _ _ h, ih]

/-- What the kept rules find in trees that are renamed to the same. -/
theorem foundBelow_of_rehang_eq {ρ : Renaming} {root root' : Node} (hρ : root'.rehang ρ = root.rehang ρ)
    (hscope : ∀ d ∈ scopeDetectors, d ∈ keptOfAll made used requested → d.IgnoresRoles ρ)
    (hnarrowing : narrowingInit ∈ keptOfAll made used requested →
      root'.walk.map narrowingFound = root.walk.map narrowingFound) :
    foundBelow (keptOfAll made used requested) [Cursor.root root']
      = foundBelow (keptOfAll made used requested) [Cursor.root root] := by
  have hrehang : (Cursor.root root').preorder.map (Cursor.rehang ρ)
      = (Cursor.root root).preorder.map (Cursor.rehang ρ) := by
    rw [← Cursor.preorder_rehang, ← Cursor.preorder_rehang, Cursor.root_rehang, Cursor.root_rehang, hρ]
  by_cases hkept : narrowingInit ∈ keptOfAll made used requested
  · have hwalk : (Cursor.root root').preorder.map (fun c => narrowingFound c.node)
        = (Cursor.root root).preorder.map fun c => narrowingFound c.node := by
      have hfound := hnarrowing hkept
      rw [Node.walk, Node.walk, Cursor.walk_eq_preorder, Cursor.walk_eq_preorder, List.map_map,
        List.map_map] at hfound
      exact hfound
    refine foundBelow_eq_of_map_eq (map_pair_eq hrehang hwalk) fun c c' htold => ?_
    obtain ⟨hcursor, hfound⟩ := Prod.mk.inj htold
    exact foundAt_of_rehang_eq made used requested hcursor hscope fun _ => hfound
  · refine foundBelow_eq_of_map_eq hrehang fun c c' hcursor => ?_
    exact foundAt_of_rehang_eq made used requested hcursor hscope fun hd => absurd hd hkept

end Reports

/-- The role of the only child of a wrapper may be changed to any other, and the report stays the same:
unless the child is a declaration that a kept rule asks the scope of, and one of the two roles is
`parameters`; or the rule about narrowing is kept, the wrapper stands in the initializer of a variable,
and one of the two roles is `operand`. -/
theorem wrapper_role_keeps_report (made used : Settings) (requested : List Value) (root : Node)
    (c : Cursor) (hc : c ∈ (Cursor.root root).walk) (hwrapper : c.node.kind.isWrapper)
    (role role' : String) (x : Node) (hx : c.node.children = [(role, x)])
    (hscope : ∀ d ∈ scopeDetectors,
      d.rule.id ∉ (Engine.withAllRules made used).skipped requested → d.looksAt x.kind →
        (role = "parameters" ↔ role' = "parameters"))
    (hinit : narrowingInitRule.id ∉ (Engine.withAllRules made used).skipped requested →
      c.onInitializer → (role = "operand" ↔ role' = "operand")) :
    ∃ report : Report,
      ((Engine.withAllRules made used).analyze root requested .absent).result = .ok report ∧
      ((Engine.withAllRules made used).analyze
        (c.replaceBy { c.node with children := [(role', x)] }) requested .absent).result
          = .ok report := by
  have hleads : Leads root c.node c.path := by
    rw [Cursor.walk_eq_preorder] at hc
    exact Cursor.mem_preorder_root.1 hc
  have hkept : ∀ d ∈ keptOfAll made used requested,
      d.rule.id ∉ (Engine.withAllRules made used).skipped requested := fun d hd => by
    simpa using (List.mem_filter.1 hd).2
  refine ⟨_, Engine.analyze_eq_foundBelow _ root requested, ?_⟩
  rw [Engine.analyze_eq_foundBelow]
  refine congrArg (fun found => Except.ok (Report.ofFindings found)) ?_
  refine foundBelow_of_rehang_eq made used requested
    (hleads.rehang_foldl_plug (Node.rehang_other_role hwrapper hx role')) (fun d hd hmem => ?_) fun hd => ?_
  · refine scopeDetectors_ignoreRoles _ hd fun k hlooks => Renaming.merging_eq_iff fun hk => ?_
    exact hscope d hd (hkept d hmem) (hk ▸ hlooks)
  · exact NarrowingAlike.found_foldl_plug hleads (.of_role hwrapper hx (hinit (hkept _ hd)))

/-- A discarded post-increment in parentheses is reported, whatever its role in them. -/
theorem wrapper_role_of_discarded_postfix :
    let operand : Node := ⟨.declRefExpr, ⟨"a.cpp", 3, 4, 3, 6⟩,
      [(.str "name", .str "it"),
       (.str "type", .map [(.str "spelling", .str "Iter"), (.str "category", .str "class")])], []⟩
    let increment : Node := ⟨.postIncrementExpr, ⟨"a.cpp", 3, 4, 3, 8⟩, [], [("operand", operand)]⟩
    let root (role : String) : Node := ⟨.exprStatement, ⟨"a.cpp", 3, 3, 3, 10⟩, [],
      [("expr", ⟨.parenExpr, ⟨"a.cpp", 3, 3, 3, 9⟩, [], [(role, increment)]⟩)]⟩
    ∃ report : Report, report.findings.map (·.rule) = ["R04"] ∧
      ((Engine.withAllRules {} {}).analyze (root "operand") [] .absent).result = .ok report ∧
      ((Engine.withAllRules {} {}).analyze (root "inner") [] .absent).result = .ok report := by
  intro operand increment root
  let wrapper : Node := ⟨.parenExpr, ⟨"a.cpp", 3, 3, 3, 9⟩, [], [("operand", increment)]⟩
  let c : Cursor := ⟨wrapper, [⟨root "operand", "expr", 0⟩]⟩
  have hc : c ∈ (Cursor.root (root "operand")).walk := by
    rw [Cursor.walk_eq_preorder]
    exact Cursor.mem_preorder_root.2 (.up rfl .here)
  obtain ⟨report, hreport, hother⟩ := wrapper_role_keeps_report {} {} [] (root "operand") c hc rfl
    "operand" "inner" increment rfl (fun _ _ _ _ => by decide) (fun _ hon => by cases hon)
  refine ⟨report, ?_, hreport, hother⟩
  rw [Engine.eq_of_analyze hreport]
  decide +kernel

/-- Two places where the role below a wrapper decides: a narrowing conversion in the parentheses of an
initializer, and an array in the parentheses of a statement. -/
theorem wrapper_role_hides_findings :
    let double : Node := ⟨.literal, ⟨"a.cpp", 1, 10, 1, 10⟩,
      [(.str "value", .str "3.7"), (.str "type", .str "double")], []⟩
    let cast : Node := ⟨.implicitCastExpr, ⟨"a.cpp", 1, 10, 1, 10⟩, [(.str "narrowing", .bool true)],
      [("operand", double)]⟩
    let declared (role : String) : Node := ⟨.variableDecl, ⟨"a.cpp", 1, 1, 1, 1⟩,
      [(.str "name", .str "n"), (.str "type", .str "int"), (.str "init_style", .str "assignment")],
      [("init", ⟨.parenExpr, ⟨"a.cpp", 1, 9, 1, 9⟩, [], [(role, cast)]⟩)]⟩
    let array : Node := ⟨.rawArrayDecl, ⟨"a.cpp", 2, 3, 2, 9⟩, [(.str "name", .str "a")], []⟩
    let block (role : String) : Node := ⟨.compoundStatement, ⟨"a.cpp", 2, 1, 2, 12⟩, [],
      [("statements", ⟨.parenExpr, ⟨"a.cpp", 2, 2, 2, 10⟩, [], [(role, array)]⟩)]⟩
    let rules (n : Node) := ((Engine.withAllRules {} {}).analyze n [] .absent).result.map
      fun report => report.findings.map (·.rule)
    rules (declared "operand") = .ok ["R10"] ∧ rules (declared "inner") = .ok [] ∧
      rules (block "operand") = .ok ["R05"] ∧ rules (block "parameters") = .ok [] := by
  intro double cast declared array block rules
  have hrules : ∀ n, rules n = .ok ((Report.ofFindings
      (foundBelow (keptOfAll {} {} []) [Cursor.root n])).findings.map (·.rule)) := by
    intro n
    simp only [rules, Engine.analyze_eq_foundBelow]
    rfl
  rw [hrules, hrules, hrules, hrules]
  decide +kernel

end CppIdioms
