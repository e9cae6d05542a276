import CppIdioms.Proofs.CommaTrees
import CppIdioms.Proofs.SwitchChains
import CppIdioms.Proofs.TypeShorthand

/-!
# New objects and their owners

Whether a new object is reported depends on what stands above it. The way goes up through parentheses and
implicit conversions, however many there are, to the first other node, and it is the role under which the
last of the wrappers hangs there that counts. A constructor of a smart pointer owns its arguments, and so
does a smart pointer that is reset to them. In a tree whose types can be read none of these questions fails,
so each new object is either let go or in the report.

## Contents

* `SpellsSmartPointer`: spellings of smart pointers.
* `TakesOwnership`, `HandedOver`: who owns an argument, and new objects that are such arguments.
* `Node.ReadsTypes`, `Node.TypesRead`: the types of a node can be read, and those of a whole tree.

## Main statements

* `Cursor.outer?_eq_find?`: the step above the wrappers is the first one whose parent is no wrapper.
* `handedOver_iff_outer?`, `answers_isHandedOver`: the question that the rule asks, and its answer.
* `raw_ownership_reported`: which new objects are let go, and that all else is in the report.
-/

namespace CppIdioms

open CppIdioms.Text CppIdioms.Rules

/-! ## §1 Smart pointers -/

/-- The spelling, without const and outer blanks, is one of the names or goes on behind it with template
arguments. -/
def SpellsSmartPointer (spelling : String) : Prop :=
  ∃ name ∈ ["std::unique_ptr", "std::shared_ptr", "unique_ptr", "shared_ptr"],
    trim (erase "const ".toList spelling.toList) = name.toList ∨
      ∃ rest, trim (erase "const ".toList spelling.toList) = name.toList ++ '<' :: rest

theorem isSmartPointer_iff {spelling : String} :
    isSmartPointer spelling = true ↔ SpellsSmartPointer spelling := by
  have hgoesOn (name text : List Char) :
      (name ++ ['<']).isPrefixOf text = true ↔ ∃ rest, text = name ++ '<' :: rest := by
    rw [List.isPrefixOf_iff_prefix]
    simp [List.IsPrefix, eq_comm]
  simp only [isSmartPointer, smartPointers, List.any_eq_true, Bool.or_eq_true, beq_iff_eq, hgoesOn,
    SpellsSmartPointer]

theorem spellsSmartPointer_iff {t : Option CppType} :
    spellsSmartPointer t = true ↔ ∃ t', t = some t' ∧ SpellsSmartPointer t'.spelling := by
  cases t with
  | none => simp [spellsSmartPointer]
  | some t => simp [spellsSmartPointer, isSmartPointer_iff]

/-! ## §2 Owners -/

/-- What hangs from this step as an argument has an owner: a smart pointer that is constructed, or one that
is reset. -/
inductive TakesOwnership (s : Step) : Prop where
  | construct {t : CppType} (kind : s.parent.kind = .constructExpr)
      (type : s.parent.typeAt "type" = .ok (some t)) (smart : SpellsSmartPointer t.spelling)
  | reset {owner : Node} {t : CppType} (kind : s.parent.kind = .memberCallExpr)
      (method : s.parent.attr "method" = .str "reset") (object : s.parent.peeled? "object" = some owner)
      (type : owner.typeAt "type" = .ok (some t)) (smart : SpellsSmartPointer t.spelling)

/-- Going up through any number of parentheses and implicit conversions, the last of them, or the node
itself, is an argument that has an owner. -/
def HandedOver (c : Cursor) : Prop :=
  ∃ wrappers s rest, c.path = wrappers ++ s :: rest ∧
    (∀ w ∈ wrappers, w.parent.kind = .parenExpr ∨ w.parent.kind = .implicitCastExpr) ∧
    s.role = "arguments" ∧ TakesOwnership s

namespace TakesOwnership

variable {s : Step}

theorem not_isWrapper (h : TakesOwnership s) : s.parent.kind.isWrapper = false := by
  cases h with
  | construct kind type smart => simp [kind, Kind.isWrapper]
  | reset kind method object type smart => simp [kind, Kind.isWrapper]

theorem iff_of_construct (hkind : s.parent.kind = .constructExpr) {t : Option CppType}
    (ht : s.parent.typeAt "type" = .ok t) : TakesOwnership s ↔ spellsSmartPointer t = true := by
  rw [spellsSmartPointer_iff]
  constructor
  · intro h
    cases h with
    | @construct t' kind type smart => exact ⟨t', Except.ok.inj (ht.symm.trans type), smart⟩
    | reset kind method object type smart => simp [hkind] at kind
  · intro ⟨t', hsome, hsmart⟩
    exact .construct hkind (ht.trans (congrArg _ hsome)) hsmart

theorem iff_of_not_construct (hkind : s.parent.kind ≠ .constructExpr) : TakesOwnership s ↔
    (s.parent.kind = .memberCallExpr ∧ s.parent.attr "method" = .str "reset") ∧
      ∃ owner t, s.parent.peeled? "object" = some owner ∧ owner.typeAt "type" = .ok (some t) ∧
        SpellsSmartPointer t.spelling := by
  constructor
  · intro h
    cases h with
    | construct kind type smart => exact absurd kind hkind
    | reset kind method object type smart => exact ⟨⟨kind, method⟩, _, _, object, type, smart⟩
  · rintro ⟨⟨kind, method⟩, owner, t, object, type, smart⟩
    exact .reset kind method object type smart

end TakesOwnership

/-! ## §3 The way up -/

/-- Above the wrappers around a node stands the first step whose parent is no wrapper. -/
theorem Cursor.outer?_eq_find? (c : Cursor) :
    c.outer? = c.path.find? fun s => !s.parent.kind.isWrapper := by
  obtain ⟨n, path⟩ := c
  induction path generalizing n with
  | nil => rfl
  | cons s rest ih =>
    have hrest := ih s.parent
    simp only [Cursor.outer?, Cursor.climb] at hrest ⊢
    cases hwrapper : s.parent.kind.isWrapper with
    | true => simp [Cursor.climbFrom, hwrapper, hrest]
    | false => simp [Cursor.climbFrom, hwrapper]

/-- The owner, if there is one, stands above the wrappers. -/
theorem handedOver_iff_outer? {c : Cursor} :
    HandedOver c ↔ ∃ s ∈ c.outer?, s.role = "arguments" ∧ TakesOwnership s := by
  have hwrapper (w : Step) : (w.parent.kind = .parenExpr ∨ w.parent.kind = .implicitCastExpr) ↔
      w.parent.kind.isWrapper = true := by
    simp [Kind.isWrapper]
  simp only [Cursor.outer?_eq_find?, Option.mem_def, List.find?_eq_some_iff_append, HandedOver, hwrapper,
    Bool.not_not]
  constructor
  · rintro ⟨wrappers, s, rest, hpath, hwrappers, hrole, howner⟩
    exact ⟨s, ⟨by simp [howner.not_isWrapper], wrappers, rest, hpath, hwrappers⟩, hrole, howner⟩
  · rintro ⟨s, ⟨-, wrappers, rest, hpath, hwrappers⟩, hrole, howner⟩
    exact ⟨wrappers, s, rest, hpath, hwrappers, hrole, howner⟩

/-! ## §4 Readable types -/

/-- The types of a node that the rule asks for can be read. They may be missing. -/
def Node.ReadsTypes (n : Node) : Prop :=
  (∃ t, n.typeAt "type" = .ok t) ∧ ∃ t, n.typeAt "allocated_type" = .ok t

/-- So can those of a tree. -/
def Node.TypesRead (root : Node) : Prop := ∀ n ∈ root.walk, n.ReadsTypes

theorem Node.readsTypes_of_typeLike {n : Node} (htype : (n.attr "type").TypeLike)
    (hallocated : (n.attr "allocated_type").TypeLike) : n.ReadsTypes := by
  obtain ⟨t, ht, -⟩ := CppType.replies_ofValue htype
  obtain ⟨allocated, hallocated, -⟩ := CppType.replies_ofValue hallocated
  simp [ReadsTypes, typeAt, typeOf, ht, hallocated, Except.mapError]

/-- The ancestors of a node are in its tree. -/
theorem Leads.parent_mem_walk {root n : Node} {path : List Step} (h : Leads root n path) :
    ∀ s ∈ path, s.parent ∈ root.walk := by
  induction h with
  | here => simp
  | @up parent n role position path holds rest ih =>
    have hparent : ⟨parent, path⟩ ∈ (Cursor.root root).walk := Cursor.mem_walk_root.2 rest
    exact List.forall_mem_cons.2 ⟨List.mem_map_of_mem hparent, ih⟩

/-- Where the types at and above a node can be read, it can be told whether it is handed over. -/
theorem answers_isHandedOver {c : Cursor} (h : ∀ s ∈ c.path, s.parent.TypesRead) :
    Answers (fun b => b = true ↔ HandedOver c) (isHandedOver c) := by
  rw [handedOver_iff_outer?]
  have habove : ∀ s ∈ c.outer?, s.parent.TypesRead := fun s hs =>
    h s (List.mem_of_find?_eq_some (c.outer?_eq_find? ▸ hs))
  unfold isHandedOver
  unfold Cursor.outer? at habove ⊢
  cases hpath : c.climb.path with
  | nil => exact .ok (by simp)
  | cons s rest =>
    rw [hpath] at habove
    have htypes := habove s rfl
    simp only [List.head?_cons, Option.mem_some_iff, exists_eq_left']
    by_cases hrole : s.role = "arguments"
    · simp only [hrole, bne_self_eq_false, Bool.false_eq_true, if_false, true_and]
      split
      · next hconstruct =>
        obtain ⟨t, ht⟩ := (htypes s.parent s.parent.self_mem_walk).1
        rw [ht]
        exact .ok (TakesOwnership.iff_of_construct hconstruct ht).symm
      · next hother =>
        rw [TakesOwnership.iff_of_not_construct hother]
        split
        · next hreset =>
          rw [Bool.and_eq_true, decide_eq_true_eq, Value.isText_iff] at hreset
          simp only [hreset, and_self, true_and]
          -- The object is in the tree of the call, and so its type is among those that can be read.
          split
          · next owner howner =>
            obtain ⟨t, ht⟩ := (htypes owner (Node.mem_walk_of_peeled? howner)).1
            rw [ht]
            exact .ok (by simp [spellsSmartPointer_iff, howner, ht])
          · next hnone => exact .ok (by simp [hnone])
        · next hreset =>
          rw [Bool.and_eq_true, decide_eq_true_eq, Value.isText_iff] at hreset
          exact .ok (by simp [hreset])
    · rw [if_pos (by simpa using hrole)]
      exact .ok (by simp [hrole])

/-! ## §5 What is reported -/

theorem inspect_of_delete {c : Cursor} (hkind : c.node.kind = .deleteExpr) : rawOwnership.inspect c =
    .ok [rawOwnershipRule.finding c.node (deleteMessage c.node)] := by
  simp only [rawOwnership, hkind, if_true]
  rfl

/-- Of a new object nothing is said, or one thing. -/
theorem answers_inspect_of_new {c : Cursor} (hkind : c.node.kind = .newExpr) (hnode : c.node.ReadsTypes)
    (habove : ∀ s ∈ c.path, s.parent.TypesRead) :
    Answers (fun findings => (findings = [] ↔ c.node.has "placement" ∨ HandedOver c) ∧
        (findings ≠ [] → ∃ spelling, findings = [rawOwnershipRule.finding c.node (newMessage spelling)]))
      (rawOwnership.inspect c) := by
  simp only [rawOwnership, hkind, reduceCtorEq, if_false]
  split
  · next hplaced => exact .ok (by simp [hplaced])
  · next hplaced =>
    refine (answers_isHandedOver habove).bind fun handed hhanded => ?_
    cases handed with
    | true => exact .ok (by simp [hhanded.1 rfl])
    | false =>
      have hnot : ¬ HandedOver c := fun howner => by simpa using hhanded.2 howner
      obtain ⟨t, ht⟩ := hnode.2
      rw [ht]
      exact .ok ⟨by simp [hplaced, hnot], fun _ => ⟨_, rfl⟩⟩

theorem looksAt_rawOwnership {kind : Kind} (h : kind = .newExpr ∨ kind = .deleteExpr) :
    rawOwnership.looksAt kind := by
  simpa [Detector.looksAt, rawOwnership, rawOwnershipRule] using h

/-- In a tree whose types can be read, nothing is said about a new object exactly if it is placed in given
storage or handed over to a smart pointer. Every other one and every `delete` has a finding at its place in
the report, unless the rule is left out. -/
theorem raw_ownership_reported (made used : Settings) (requested : List Value) {root : Node}
    (hkept : "R14" ∉ (Engine.withAllRules made used).skipped requested) (htypes : root.TypesRead) :
    ∃ report, ((Engine.withAllRules made used).analyze root requested .absent).result = .ok report ∧
      ∀ c ∈ (Cursor.root root).walk,
        (c.node.kind = .newExpr →
          (rawOwnership.inspect c = .ok [] ↔ c.node.has "placement" ∨ HandedOver c) ∧
          (¬ (c.node.has "placement" ∨ HandedOver c) →
            ∃ spelling, rawOwnershipRule.finding c.node (newMessage spelling) ∈ report.findings)) ∧
        (c.node.kind = .deleteExpr →
          rawOwnershipRule.finding c.node (deleteMessage c.node) ∈ report.findings) := by
  have hreport := Engine.analyze_eq_foundBelow (.withAllRules made used) root requested
  have hbuiltin : rawOwnership ∈ builtinDetectors made := by simp [builtinDetectors]
  refine ⟨_, hreport, fun c hc => ⟨fun hnew => ?_, fun hdelete => ?_⟩⟩
  · have hnode : c.node.ReadsTypes := htypes _ (List.mem_map_of_mem hc)
    have habove : ∀ s ∈ c.path, s.parent.TypesRead := fun s hs n hn =>
      htypes n (Node.mem_walk_trans hn ((Cursor.mem_walk_root.1 hc).parent_mem_walk s hs))
    obtain ⟨findings, hinspect, hsilent, hone⟩ := answers_inspect_of_new hnew hnode habove
    have hlooks : rawOwnership.looksAt c.node.kind := looksAt_rawOwnership (.inl hnew)
    rw [hinspect, Except.ok.injEq]
    refine ⟨hsilent, fun hnot => ?_⟩
    obtain ⟨spelling, rfl⟩ := hone fun hnil => hnot (hsilent.1 hnil)
    exact ⟨spelling, subset_findings_builtin hreport hbuiltin hkept hc hlooks hinspect
      List.mem_cons_self⟩
  · have hlooks : rawOwnership.looksAt c.node.kind := looksAt_rawOwnership (.inr hdelete)
    exact subset_findings_builtin hreport hbuiltin hkept hc hlooks (inspect_of_delete hdelete)
      List.mem_cons_self

/-- An object in parentheses that a shared pointer is reset to, an object that nothing owns, and a
`delete`. -/
theorem raw_new_and_delete_beside_reset :
    let place (line : Int) : Span := ⟨"a.cpp", line, 3, line, 30⟩
    let object (line : Int) : Node :=
      ⟨.newExpr, place line, [(.str "allocated_type", .str "Widget")], []⟩
    let pointer : String := "const std::shared_ptr<Widget>"
    let owner : Node := ⟨.declRefExpr, place 1, [(.str "type", .str pointer)], []⟩
    let wrapped : Node := ⟨.parenExpr, place 1, [], [("operand", object 1)]⟩
    let reset : Node := ⟨.memberCallExpr, place 1, [(.str "method", .str "reset")],
      [("object", owner), ("arguments", wrapped)]⟩
    let delete : Node := ⟨.deleteExpr, place 3, [], []⟩
    let root : Node := ⟨.compoundStatement, place 1, [],
      [("statements", reset), ("statements", object 2), ("statements", delete)]⟩
    let owned : Cursor :=
      ⟨object 1, [⟨wrapped, "operand", 0⟩, ⟨reset, "arguments", 1⟩, ⟨root, "statements", 0⟩]⟩
    rawOwnership.inspect owned = .ok [] ∧
      ∃ report, ((Engine.withAllRules {} {}).analyze root [] .absent).result = .ok report ∧
        (∃ spelling, rawOwnershipRule.finding (object 2) (newMessage spelling) ∈ report.findings) ∧
        rawOwnershipRule.finding delete (deleteMessage delete) ∈ report.findings := by
  intro place object pointer owner wrapped reset delete root owned
  have hscalar : ∀ n ∈ root.walk, (n.attr "type").isScalar ∧ (n.attr "allocated_type").isScalar := by
    decide +kernel
  have hfits : ∀ n ∈ root.walk, (n.attr "type").ExtentsFit ∧ (n.attr "allocated_type").ExtentsFit := by
    decide +kernel
  have htypes : root.TypesRead := fun n hn =>
    Node.readsTypes_of_typeLike (.scalar (hscalar n hn).1 (hfits n hn).1)
      (.scalar (hscalar n hn).2 (hfits n hn).2)
  have hskipped : (Engine.withAllRules {} {}).skipped [] = [] := by decide +kernel
  obtain ⟨report, hreport, hall⟩ :=
    raw_ownership_reported {} {} [] (by simp [hskipped]) htypes
  have hreset : Leads root reset [⟨root, "statements", 0⟩] := .up rfl .here
  have hfirst := hall owned (Cursor.mem_walk_root.2 (.up rfl (.up rfl hreset)))
  have hsecond := hall ⟨object 2, [⟨root, "statements", 1⟩]⟩ (Cursor.mem_walk_root.2 (.up rfl .here))
  have hthird := hall ⟨delete, [⟨root, "statements", 2⟩]⟩ (Cursor.mem_walk_root.2 (.up rfl .here))
  have hobject : reset.peeled? "object" = some owner := congrArg some (Node.peel_of_wrapped?_eq_none rfl)
  obtain ⟨t, hread, hchars⟩ :=
    CppType.ofValue_str_of_fits (by decide +kernel : CppType.ExtentsFit pointer.toList)
  have htype : owner.typeAt "type" = .ok (some t) := by
    rw [Node.typeAt, Node.typeOf, show owner.attr "type" = .str pointer from rfl, hread]
    rfl
  have hspelling : t.spelling = pointer := by
    rw [CppType.spelling_of_ofChars hchars]
    decide +kernel
  have hsmart : SpellsSmartPointer t.spelling := by
    rw [hspelling]
    exact isSmartPointer_iff.1 (by decide +kernel)
  have howned : TakesOwnership ⟨reset, "arguments", 1⟩ := .reset rfl rfl hobject htype hsmart
  have hraw : ¬ HandedOver ⟨object 2, [⟨root, "statements", 1⟩]⟩ := by
    rw [handedOver_iff_outer?]
    rintro ⟨s, ⟨⟩, hrole, -⟩
    exact absurd hrole (by decide)
  refine ⟨(hfirst.1 rfl).1.2 (.inr ⟨[⟨wrapped, "operand", 0⟩], _, _, rfl, by simp [wrapped], rfl, howned⟩),
    report, hreport, (hsecond.1 rfl).2 (not_or.2 ⟨by decide +kernel, hraw⟩), hthird.2 rfl⟩

end CppIdioms
