import CppIdioms.Proofs.Answers
import CppIdioms.Proofs.Lifecycle
import CppIdioms.Proofs.Provenance
import CppIdioms.Proofs.Schedules
import CppIdioms.Proofs.TypeReading

/-!
# Detectors that never fail

A detector that fails is passed over, and its findings are missing without notice. Here the trees
are described on which none of the catalog does: their attributes are scalars, apart from a few that
may hold types, tokens or the chosen overload of a call. Nothing is asked of the shape of the tree. An
array extent with too many digits cannot be read, so a text that stands for a type has none.

## Contents

* `Value.isScalar`, `Value.TypeLike`, `Value.OverloadLike`, `Value.PlainAs`: what an attribute may
  hold.
* `Node.Plain`, `Cursor.Plain`: trees, and nodes with their surroundings.
* `Settings.Numeric`: settings whose numbers are numbers.
* `Detector.Robust`: a detector replies at every plain node.

## Main statements

* `CppType.replies_ofValue`: a type is read without a fault.
* `Node.Plain.replies_shape`: an expression has a shape.
* `answers_commonSubject`: a chain with a condition has a subject, or could not be a switch.
* `Run.Turns.gathered`: what a run has counted when its turns end, stopped or not.
* `builtin_detectors_never_fail`: no detector of the catalog fails, and an analysis counts none.
-/

namespace CppIdioms

open CppIdioms.Rules

/-! ## §1 Plain values -/

namespace Value

/-- Nothing, truth values, numbers and texts. -/
def isScalar : Value → Bool
  | .null | .bool _ | .int _ | .float _ | .str _ => true
  | _ => false

/-- Lists and mappings. -/
def isCompound : Value → Bool
  | .list _ | .map _ => true
  | _ => false

theorem isCompound_of_isScalar {v : Value} (h : v.isScalar) : v.isCompound = false := by
  cases v with
  | list items => cases h
  | map entries => cases h
  | _ => rfl

/-- The extents in a text have few enough digits. -/
def ExtentsFit : Value → Prop
  | .str s => CppType.ExtentsFit s.toList
  | _ => True

instance : DecidablePred ExtentsFit
  | .str s => inferInstanceAs (Decidable (CppType.ExtentsFit s.toList))
  | .null | .bool _ | .int _ | .float _ | .date _ _ | .list _ | .map _ | .set _ => .isTrue trivial

/-- A value that may stand for a type: a scalar, or a mapping in which the size is a whole number or
left out, and the element is such a value again. -/
inductive TypeLike : Value → Prop where
  | scalar {v : Value} (h : v.isScalar) (fits : v.ExtentsFit) : TypeLike v
  | mapping {fields : Entries}
      (size : fields.find "size" = .null ∨ ∃ n, fields.find "size" = .int n)
      (element : TypeLike (fields.find "element")) : TypeLike (.map fields)

/-- A mapping whose list of parameter types holds values that may stand for types. -/
def OverloadLike (v : Value) : Prop :=
  ∃ (overload : Entries) (parameters : List Value), v = .map overload ∧
    overload.find "parameter_types" = .list parameters ∧ ∀ p ∈ parameters, p.TypeLike

/-- What an attribute may hold, by its name. -/
def PlainAs (v : Value) : String → Prop
  | "type" | "allocated_type" | "underlying" => v.TypeLike
  | "tokens" => v.isScalar ∨ ∃ tokens : List String, v = .list (tokens.map .str)
  | "overload" => v.isScalar ∨ v.OverloadLike
  | "class_name" => ∃ name, v = .str name
  | _ => v.isScalar

theorem replies_isOneOf {v : Value} (h : v.isScalar) (texts : List String) :
    Replies (v.isOneOf texts) := by
  cases v with
  | list items => cases h
  | map entries => cases h
  | _ => exact replies_ok _

theorem replies_among {v : Value} (h : v.isScalar) (texts : List String) :
    Replies (v.among texts) := (replies_isOneOf h texts).mapError _

end Value

theorem replies_mappedSize {size : Value} (h : size = .null ∨ ∃ n, size = .int n)
    (category : Category) (spelling : String) : Replies (mappedSize size category spelling) := by
  rcases h with rfl | ⟨n, rfl⟩
  · simp only [mappedSize]
    split <;> exact replies_ok _
  · exact replies_ok _

/-- A type is read without a fault. -/
theorem CppType.replies_ofValue {v : Value} (h : v.TypeLike) : Replies (CppType.ofValue v) := by
  induction h with
  | @scalar v h fits =>
    cases v with
    | map fields => cases h
    | str text =>
      obtain ⟨t, ht⟩ := fits.exists_ofChars
      rw [ofValue, ofSpelling, ht]
      exact replies_ok _
    | _ =>
      simp only [ofValue]
      exact replies_ok _
  | @mapping fields size element ih =>
    rw [ofValue]
    obtain ⟨n, hsize, _⟩ := replies_mappedSize size
      (Category.ofName ((Entries.get? "category" fields).getD (.str "unresolved")).text)
      ((Entries.get? "spelling" fields).getD (.str "")).text
    simp only [hsize]
    split
    · exact replies_ok _
    · next v hv =>
      rw [Entries.find, hv] at ih
      obtain ⟨t, ht, _⟩ := ih
      rw [Option.getD_some] at ht
      rw [ht]
      exact replies_ok _

/-! ## §2 Plain trees -/

/-- Every attribute of every node of the tree holds what it may hold. -/
def Node.Plain (root : Node) : Prop :=
  ∀ n ∈ root.walk, ∀ name v, Entries.get? name n.attrs = some v → v.PlainAs name

/-- A tree is plain if the attributes of its root are and the trees of its children are. -/
theorem Node.plain_iff {n : Node} :
    n.Plain ↔ (∀ name v, Entries.get? name n.attrs = some v → v.PlainAs name) ∧
      ∀ role m, (role, m) ∈ n.children → m.Plain := by
  unfold Plain
  rw [Node.walk_eq, List.forall_mem_cons]
  refine and_congr_right' ⟨fun h role m hm d hd => ?_, fun h d hd => ?_⟩
  · exact h d (List.mem_flatMap.2 ⟨m, List.mem_map_of_mem hm, hd⟩)
  · obtain ⟨m, hm, hd⟩ := List.mem_flatMap.1 hd
    obtain ⟨⟨role, _⟩, hchild, rfl⟩ := List.mem_map.1 hm
    exact h role _ hchild d hd

namespace Node.Plain

variable {n m : Node}

theorem of_child (h : n.Plain) {role : String} (hm : (role, m) ∈ n.children) : m.Plain :=
  (Node.plain_iff.1 h).2 role m hm

theorem child? (h : n.Plain) {role : String} (hm : n.child? role = some m) : m.Plain := by
  obtain ⟨⟨role', c⟩, hc, rfl⟩ := Option.map_eq_some_iff.1 hm
  exact h.of_child (List.mem_of_find?_eq_some hc)

theorem childrenOf (h : n.Plain) {role : String} (hm : m ∈ n.childrenOf role) : m.Plain := by
  obtain ⟨⟨role', c⟩, hc, rfl⟩ := List.mem_map.1 hm
  exact h.of_child (List.mem_of_mem_filter hc)

theorem wrapped? (h : n.Plain) (hm : n.wrapped? = some m) : m.Plain :=
  fun d hd => h d (Node.mem_walk_of_wrapped? hm hd)

theorem peel (h : n.Plain) : n.peel.Plain := by
  induction hsize : n.size using Nat.strongRecOn generalizing n with
  | ind size ih =>
    cases hwrapped : n.wrapped? with
    | none => rwa [Node.peel_of_wrapped?_eq_none hwrapped]
    | some c =>
      rw [Node.peel_of_wrapped?_eq_some hwrapped]
      exact ih c.size (hsize ▸ size_wrapped?_lt hwrapped) (h.wrapped? hwrapped) rfl

theorem peeled? (h : n.Plain) {role : String} (hm : n.peeled? role = some m) : m.Plain := by
  obtain ⟨c, hc, rfl⟩ := Option.map_eq_some_iff.1 hm
  exact (h.child? hc).peel

theorem plainAs (h : n.Plain) {name : String} {v : Value}
    (hv : Entries.get? name n.attrs = some v) : v.PlainAs name :=
  (Node.plain_iff.1 h).1 name v hv

/-- An attribute is not set, or holds what it may hold. -/
theorem attr (h : n.Plain) (name : String) : n.attr name = .null ∨ (n.attr name).PlainAs name := by
  unfold Node.attr Entries.find
  cases hget : Entries.get? name n.attrs with
  | none => exact .inl rfl
  | some v => exact .inr (h.plainAs hget)

theorem isScalar_attr (h : n.Plain) {name : String}
    (hname : ∀ v : Value, v.PlainAs name → v.isScalar) : (n.attr name).isScalar := by
  rcases h.attr name with hnull | hplain
  · rw [hnull]
    rfl
  · exact hname _ hplain

theorem replies_typeAt (h : n.Plain) {name : String}
    (hname : ∀ v : Value, v.PlainAs name → v.TypeLike) : Replies (n.typeAt name) := by
  refine Answers.mapError (CppType.replies_ofValue ?_) _
  rcases h.attr name with hnull | hplain
  · rw [hnull]
    exact .scalar rfl trivial
  · exact hname _ hplain

theorem replies_type (h : n.Plain) : Replies (n.typeAt "type") := h.replies_typeAt fun _ => id

theorem replies_knownType (h : n.Plain) : Replies n.knownType := by
  rw [Node.knownType_eq]
  split
  · exact replies_ok _
  · exact h.replies_type.map fun _ _ => trivial

end Node.Plain

theorem Comparable.ofValue_of_isCompound {v : Value} (h : v.isCompound = false) :
    Comparable.ofValue v = .ok (.leaf v) := by
  cases v with
  | list items => cases h
  | map entries => cases h
  | _ => simp only [ofValue]

theorem replies_tellingAttributes {n : Node} {names : List String}
    (h : ∀ name ∈ names, ∀ v, Entries.get? name n.attrs = some v → v.isCompound = false) :
    Replies (tellingAttributes n names) := by
  induction names with
  | nil => exact replies_ok _
  | cons name names ih =>
    obtain ⟨hname, hnames⟩ := List.forall_mem_cons.1 h
    rw [tellingAttributes]
    cases hget : Entries.get? name n.attrs with
    | none => exact ih hnames
    | some v =>
      dsimp only
      rw [Comparable.ofValue_of_isCompound (hname v hget)]
      exact (ih hnames).map fun _ _ => trivial

/-- Listing shapes goes through if the attributes of all nodes can be compared, whatever is listed
already. -/
theorem replies_listShape (listed : List ShapePart) (tasks : List ShapeTask)
    (h : ∀ t ∈ tasks, ∀ m ∈ t.node.walk, Replies (tellingAttributes m shapeAttributes)) :
    Replies (listShape listed tasks) := by
  fun_induction listShape listed tasks with
  | case1 listed => exact replies_ok _
  | case2 listed t rest c hwrapped ih =>
    obtain ⟨ht, hrest⟩ := List.forall_mem_cons.1 h
    have hc : ∀ m ∈ c.walk, Replies (tellingAttributes m shapeAttributes) :=
      fun m hm => ht m (Node.mem_walk_of_wrapped? hwrapped hm)
    exact ih (List.forall_mem_cons.2 ⟨hc, hrest⟩)
  | case3 listed t rest _ f hattrs =>
    obtain ⟨attrs, hok, _⟩ := (List.forall_mem_cons.1 h).1 t.node t.node.self_mem_walk
    rw [hok] at hattrs
    cases hattrs
  | case4 listed t rest _ attrs _ ih =>
    obtain ⟨ht, hrest⟩ := List.forall_mem_cons.1 h
    refine ih fun t' ht' => ?_
    rcases List.mem_append.1 ht' with ht' | ht'
    · obtain ⟨⟨role, c⟩, hc, rfl⟩ := List.mem_map.1 ht'
      exact fun m hm => ht m (Node.mem_walk_of_child hc hm)
    · exact hrest t' ht'

/-- A tree whose nodes have attributes that can be compared has a shape. -/
theorem Node.replies_shape {n : Node}
    (h : ∀ m ∈ n.walk, Replies (tellingAttributes m shapeAttributes)) : Replies n.shape :=
  replies_listShape [] _ (List.forall_mem_singleton.2 h)

/-- A plain tree has a shape: the attributes that tell how a node is spelled hold scalars. -/
theorem Node.Plain.replies_shape {n : Node} (h : n.Plain) : Replies n.shape := by
  refine Node.replies_shape fun m hm => ?_
  refine replies_tellingAttributes fun name hname v hget => Value.isCompound_of_isScalar ?_
  have hplain := h m hm name v hget
  simp only [shapeAttributes, List.mem_cons, List.not_mem_nil, or_false] at hname
  rcases hname with rfl | rfl | rfl | rfl | rfl | rfl <;> exact hplain

/-- The node and all nodes on the way up are roots of plain trees. -/
structure Cursor.Plain (c : Cursor) : Prop where
  node : c.node.Plain
  above : ∀ step ∈ c.path, step.parent.Plain

/-- The detector replies at every node of a plain tree, in plain surroundings. -/
def Detector.Robust (d : Detector) : Prop := ∀ c : Cursor, c.Plain → Replies (d.inspect c)

/-! ## §3 Rules about declarations and casts -/

variable {n m : Node} {c : Cursor}

theorem namespaceImport_robust : namespaceImport.Robust := fun _ _ => replies_ok _

theorem flushingNewline_robust : flushingNewline.Robust := by
  intro c _
  simp only [flushingNewline]
  split
  · split <;> exact replies_ok _
  · exact replies_ok _

theorem macroConstant_robust : macroConstant.Robust := by
  intro c _
  simp only [macroConstant]
  split
  · exact replies_ok _
  · split <;> exact replies_ok _

theorem unscopedEnum_robust : unscopedEnum.Robust := by
  intro c _
  simp only [unscopedEnum]
  split
  · exact replies_ok _
  · split <;> exact replies_ok _

theorem castStyle_robust : castStyle.Robust := by
  intro c hc
  refine hc.node.replies_knownType.bind fun known _ => ?_
  cases known with
  | none => exact replies_ok _
  | some t => exact .unless trivial (replies_ok _)

theorem typedefAlias_robust : typedefAlias.Robust := by
  intro c hc
  refine .unless trivial ?_
  exact (hc.node.replies_typeAt fun _ => id).bind fun _ _ => replies_ok _

theorem rawArray_robust : rawArray.Robust := by
  intro c hc
  refine .unless trivial (.unless trivial ?_)
  exact hc.node.replies_type.bind fun _ _ => .unless trivial (replies_ok _)

theorem constLocal_robust : constLocal.Robust := by
  intro c hc
  refine .unless trivial (.unless trivial ?_)
  refine hc.node.replies_knownType.bind fun known _ => ?_
  cases known with
  | none => exact replies_ok _
  | some t => exact .unless trivial (replies_ok _)

/-- A narrowing conversion is a node of the initializer. -/
theorem Node.Plain.narrowingCast? (h : n.Plain) (hm : narrowingCast? n = some m) : m.Plain := by
  fun_induction Rules.narrowingCast? n with
  | case1 n => cases hm
  | case2 n =>
    cases hm
    exact h
  | case3 n _ _ operand hoperand ih => exact ih (h.child? hoperand) hm
  | case4 n => cases hm

theorem replies_sourceType {init cast : Option Node} (hinit : ∀ m ∈ init, m.Plain)
    (hcast : ∀ m ∈ cast, m.Plain) : Replies (sourceType init cast) := by
  have hreplies : ∀ source : Node, source.Plain →
      Replies (do return (← source.typeAt "type").filter (·.resolved)) :=
    fun source hsource => hsource.replies_type.bind fun _ _ => replies_ok _
  unfold sourceType
  cases cast with
  | none =>
    cases init with
    | none => exact replies_ok _
    | some source => exact hreplies source (hinit source rfl)
  | some n =>
    dsimp only
    cases hoperand : n.child? "operand" with
    | none => exact replies_ok _
    | some source => exact hreplies source ((hcast n rfl).child? hoperand)

theorem narrowingInit_robust : narrowingInit.Robust := by
  intro c hc
  refine (Value.replies_among (hc.node.isScalar_attr fun _ => id) _).bind fun _ _ => ?_
  have hinit : ∀ m ∈ c.node.child? "init", m.Plain := fun m hm => hc.node.child? hm
  refine .unless trivial (.unless trivial ?_)
  refine hc.node.replies_type.bind fun _ _ => ?_
  refine (replies_sourceType hinit ?_).bind fun _ _ => replies_ok _
  intro m hm
  obtain ⟨init, hi, hcast⟩ := Option.bind_eq_some_iff.1 hm
  exact (hinit init hi).narrowingCast? hcast

/-! ## §4 Rules with a threshold -/

/-- The numbers among the settings are numbers. -/
structure Settings.Numeric (s : Settings) : Prop where
  minBranches : s.minBranches.numeric?.isSome
  sizeThreshold : s.sizeThreshold.numeric?.isSome

theorem CppType.replies_isNonTrivial (t : CppType) {threshold : Value}
    (h : threshold.numeric?.isSome) : Replies (t.isNonTrivial threshold) := by
  obtain ⟨x, hx⟩ := Option.isSome_iff_exists.1 h
  unfold isNonTrivial Value.isBelow
  split
  · exact replies_ok _
  · rw [hx]
    split <;> exact replies_ok _

theorem copiedParameter_robust {threshold : Value} (h : threshold.numeric?.isSome) :
    (copiedParameter threshold).Robust := by
  intro c hc
  refine .unless trivial (.unless trivial ?_)
  refine hc.node.replies_knownType.bind fun known _ => ?_
  cases known with
  | none => exact replies_ok _
  | some t =>
    refine .unless trivial ?_
    exact ((t.replies_isNonTrivial h).mapError _).bind fun _ _ => .unless trivial (replies_ok _)

theorem copyingLoop_robust {threshold : Value} (h : threshold.numeric?.isSome) :
    (copyingLoop threshold).Robust := by
  intro c hc
  simp only [copyingLoop]
  split
  · exact replies_ok _
  · next binding hbinding =>
    refine .unless trivial ?_
    refine (hc.node.child? hbinding).replies_knownType.bind fun known _ => ?_
    cases known with
    | none => exact replies_ok _
    | some t =>
      refine .unless trivial ?_
      refine ((t.replies_isNonTrivial h).mapError _).bind fun _ _ => .unless trivial ?_
      split
      · exact replies_ok _
      · exact .unless trivial (replies_ok _)

/-! ## §5 Rules about operands and arguments -/

theorem replies_mayBeObject {container : Option Node} (h : ∀ m ∈ container, m.Plain) :
    Replies (mayBeObject container) := by
  cases container with
  | none => exact replies_ok _
  | some n =>
    refine (h n rfl).replies_type.bind fun t _ => ?_
    cases t <;> exact replies_ok _

theorem signedIndex_robust : signedIndex.Robust := by
  intro c hc
  simp only [signedIndex]
  split
  · exact replies_ok _
  · next index hindex =>
    refine .unless trivial ?_
    refine (hc.node.peeled? hindex).replies_knownType.bind fun known _ => ?_
    cases known with
    | none => exact replies_ok _
    | some t =>
      refine .unless trivial ?_
      have hcontainer := replies_mayBeObject fun m (hm : m ∈ c.node.peeled? "container") =>
        hc.node.peeled? hm
      exact hcontainer.bind fun _ _ => .unless trivial (replies_ok _)

theorem Node.Plain.replies_isNullMacro (h : n.Plain) : Replies (isNullMacro n) := by
  have hmacro : (n.peel.attr "macro").isScalar := h.peel.isScalar_attr fun _ => id
  exact (Value.replies_among hmacro _).bind fun _ _ => .unless trivial (replies_ok _)

theorem replies_anyNullMacro {ns : List Node} (h : ∀ n ∈ ns, n.Plain) :
    Replies (anyNullMacro ns) := by
  induction ns with
  | nil => exact replies_ok _
  | cons n ns ih =>
    obtain ⟨hn, hns⟩ := List.forall_mem_cons.1 h
    exact hn.replies_isNullMacro.bind fun _ _ => .unless trivial (ih hns)

/-- Arguments and parameters are gone through together, and either may end first. -/
theorem replies_nullFindings (callee : String) {ns : List Node} (hns : ∀ n ∈ ns, n.Plain)
    {ps : List Value} (hps : ∀ p ∈ ps, p.TypeLike) (position : Nat) :
    Replies (nullFindings callee position ns ps) := by
  induction ns generalizing position ps with
  | nil => cases ps <;> exact replies_ok _
  | cons n ns ih =>
    obtain ⟨hn, hns⟩ := List.forall_mem_cons.1 hns
    cases ps with
    | nil => exact hn.replies_isNullMacro.bind fun _ _ => ih hns hps _
    | cons p ps =>
      obtain ⟨hp, hps⟩ := List.forall_mem_cons.1 hps
      refine hn.replies_isNullMacro.bind fun isNull _ => ?_
      cases isNull with
      | false => exact ih hns hps _
      | true =>
        have htype : Replies (parameterType p) :=
          ((CppType.replies_ofValue hp).mapError _).bind fun _ _ => replies_ok _
        refine htype.bind fun t _ => (ih hns hps _).bind fun rest _ => ?_
        cases t.filter (·.isIntegral) <;> exact replies_ok _

/-- The parameter types of the chosen overload may stand for types. -/
theorem Node.Plain.parameters (h : n.Plain) {overload : Entries} {parameters : List Value}
    (hoverload : n.attr "overload" = .map overload)
    (hparameters : overload.find "parameter_types" = .list parameters) :
    ∀ p ∈ parameters, p.TypeLike := by
  have hattr := h.attr "overload"
  rw [hoverload] at hattr
  rcases hattr with hnull | hscalar | ⟨overload', parameters', hmap, hlist, htypes⟩
  · cases hnull
  · cases hscalar
  · cases hmap
    rw [hparameters] at hlist
    cases hlist
    exact htypes

theorem nullArgument_robust : nullArgument.Robust := by
  intro c hc
  have harguments : ∀ n ∈ c.node.childrenOf "arguments", n.Plain :=
    fun n hn => hc.node.childrenOf hn
  refine (replies_anyNullMacro harguments).bind fun _ _ => .unless trivial ?_
  split
  · next overload hoverload =>
    split
    · next parameters hparameters =>
      exact replies_nullFindings _ harguments (hc.node.parameters hoverload hparameters) 0
    · exact replies_ok _
  · exact replies_ok _

theorem Node.Plain.replies_isSizeCall (h : n.Plain) : Replies (isSizeCall n) := by
  refine .unless trivial ?_
  exact (Value.replies_among (h.isScalar_attr fun _ => id) _).bind fun _ _ => replies_ok _

/-- The call of the size is one of the two operands. -/
theorem answers_sizeSide {lhs rhs : Node} (hl : lhs.Plain) (hr : rhs.Plain) :
    Answers (fun side => ∀ s ∈ side, s.1.Plain) (sizeSide lhs rhs) := by
  refine hl.replies_isSizeCall.bind fun _ _ => ?_
  split
  · exact .ok (by rintro _ ⟨⟩; exact hl)
  · refine hr.replies_isSizeCall.bind fun _ _ => ?_
    split
    · exact .ok (by rintro _ ⟨⟩; exact hr)
    · exact .ok (by rintro _ ⟨⟩)

theorem Node.Plain.answers_sizeComparison (h : n.Plain) :
    Answers (fun s => ∀ comparison ∈ s, comparison.call.Plain) (sizeComparison n) := by
  have hnone : ∀ comparison ∈ (none : Option SizeComparison), comparison.call.Plain := by
    rintro _ ⟨⟩
  unfold sizeComparison
  split
  · next lhs rhs hlhs hrhs =>
    refine (answers_sizeSide (h.peeled? hlhs) (h.peeled? hrhs)).bind fun side hside => ?_
    cases side with
    | none => exact .ok hnone
    | some side =>
      obtain ⟨call, onLeft⟩ := side
      have hcall : call.Plain := hside _ rfl
      have hoperator : (n.attr "operator").isScalar := h.isScalar_attr fun _ => id
      dsimp only
      generalize n.attr "operator" = operator at hoperator
      split
      · refine .ok fun comparison hcomparison => ?_
        obtain ⟨asks, _, rfl⟩ := Option.map_eq_some_iff.1 hcomparison
        exact hcall
      · cases operator <;> first | exact .ok hnone | cases hoperator
  · exact .ok hnone

theorem emptinessTest_robust : emptinessTest.Robust := by
  intro c hc
  refine hc.node.answers_sizeComparison.bind fun comparison hcomparison => ?_
  cases comparison with
  | none => exact replies_ok _
  | some comparison =>
    dsimp only
    split
    · exact replies_ok _
    · next owner howner =>
      refine ((hcomparison _ rfl).peeled? howner).replies_knownType.bind fun known _ => ?_
      cases known with
      | none => exact replies_ok _
      | some t => exact .unless trivial (replies_ok _)

/-! ## §6 Rules about surroundings -/

/-- Above the wrappers around a node its surroundings are still plain. -/
theorem Cursor.Plain.climb (h : c.Plain) : c.climb.Plain := by
  obtain ⟨n, path⟩ := c
  induction path generalizing n with
  | nil => exact h
  | cons step rest ih =>
    obtain ⟨hstep, hrest⟩ := List.forall_mem_cons.1 h.above
    unfold Cursor.climb Cursor.climbFrom
    split
    · exact ih step.parent ⟨hstep, hrest⟩
    · exact h

theorem Cursor.Plain.replies_isDiscarded (h : c.Plain) : Replies (isDiscarded c) := by
  induction hlength : c.path.length using Nat.strongRecOn generalizing c with
  | ind length ih =>
    have hclimb := h.climb
    have hshort := c.length_climb_le
    rw [isDiscarded_eq]
    split
    · exact replies_ok _
    · next step rest hpath =>
      have habove := hclimb.above
      rw [hpath] at habove hshort
      obtain ⟨hparent, hrest⟩ := List.forall_mem_cons.1 habove
      rw [List.length_cons] at hshort
      -- On the right of a comma the question goes up to the comma itself.
      have hcomma := ih rest.length (by omega) (c := ⟨step.parent, rest⟩) ⟨hparent, hrest⟩ rfl
      dsimp only
      split
      · exact replies_ok _
      · split
        · exact replies_ok _
        · split
          · split
            · exact replies_ok _
            · exact hcomma
          · split
            · exact hparent.replies_type.map fun _ _ => trivial
            · exact replies_ok _

theorem discardedPostfix_robust : discardedPostfix.Robust := by
  intro c hc
  simp only [discardedPostfix]
  split
  · exact replies_ok _
  · next operand hoperand =>
    refine (hc.node.peeled? hoperand).replies_knownType.bind fun known _ => ?_
    cases known with
    | none => exact replies_ok _
    | some t =>
      refine .unless trivial ?_
      exact hc.replies_isDiscarded.bind fun _ _ => .unless trivial (replies_ok _)

theorem Cursor.Plain.replies_isHandedOver (h : c.Plain) : Replies (isHandedOver c) := by
  have hclimb := h.climb
  unfold isHandedOver
  split
  · exact replies_ok _
  · next step rest hpath =>
    have hparent : step.parent.Plain := hclimb.above step (hpath ▸ List.mem_cons_self)
    dsimp only
    split
    · exact replies_ok _
    · split
      · exact hparent.replies_type.map fun _ _ => trivial
      · split
        · split
          · next owner howner =>
            exact (hparent.peeled? howner).replies_type.map fun _ _ => trivial
          · exact replies_ok _
        · exact replies_ok _

theorem rawOwnership_robust : rawOwnership.Robust := by
  intro c hc
  refine .unless trivial (.unless trivial ?_)
  refine hc.replies_isHandedOver.bind fun _ _ => .unless trivial ?_
  exact (hc.node.replies_typeAt fun _ => id).bind fun _ _ => replies_ok _

/-- The class of a constructor is a text, or nothing. -/
theorem Cursor.Plain.constructedClass (h : c.Plain) :
    constructedClass c = .null ∨ ∃ name, constructedClass c = .str name := by
  unfold Rules.constructedClass
  split
  · exact .inr ⟨_, rfl⟩
  · have hname : (c.node.name?.map Value.str).getD .null = .null ∨
        ∃ name, (c.node.name?.map Value.str).getD .null = .str name := by
      cases c.node.name? with
      | none => exact .inl rfl
      | some name => exact .inr ⟨name, rfl⟩
    rcases h.node.attr "class_name" with hnull | ⟨className, hclass⟩
    · rw [hnull]
      exact hname
    · rw [hclass, Value.orElse]
      split
      · exact .inr ⟨className, rfl⟩
      · exact hname

theorem replies_copiesClass (t : CppType) {className : Value}
    (h : className = .null ∨ ∃ name, className = .str name) :
    Replies (copiesClass t className) := by
  unfold copiesClass
  split
  · rcases h with rfl | ⟨name, rfl⟩
    · exact replies_ok _
    · split <;> exact replies_ok _
  · exact replies_ok _

theorem implicitConversion_robust : implicitConversion.Robust := by
  intro c hc
  refine .unless trivial ?_
  split
  · exact replies_ok _
  · next parameter hparameter =>
    have hplain : parameter.Plain := by
      simp only [singleParameter?] at hparameter
      split at hparameter
      · cases hparameter
      · exact hc.node.childrenOf (List.mem_of_head? hparameter)
    refine hplain.replies_type.bind fun t _ => ?_
    cases t.filter (·.resolved) with
    | none => exact replies_ok _
    | some t =>
      refine (replies_copiesClass t hc.constructedClass).bind fun _ _ => ?_
      exact .unless trivial (.unless trivial (replies_ok _))

/-! ## §7 Chains -/

/-- The conditions of a chain are nodes of its tree. -/
theorem mem_walk_of_chainConditions? {conditions : List Node}
    (h : chainConditions? n = some conditions) : ∀ m ∈ conditions, m ∈ n.walk := by
  induction hsize : n.size using Nat.strongRecOn generalizing n conditions with
  | ind size ih =>
    rw [chainConditions?_eq] at h
    split at h
    · cases h
      exact List.forall_mem_nil _
    · split at h
      · cases h
      · split at h
        · cases h
        · next condition hcondition =>
          have hmem := Node.mem_walk_of_child? hcondition condition.self_mem_walk
          split at h
          · cases h
            exact List.forall_mem_singleton.2 hmem
          · next other hother =>
            obtain ⟨rest, hrest, rfl⟩ := Option.map_eq_some_iff.1 h
            refine List.forall_mem_cons.2 ⟨hmem, fun m hm => Node.mem_walk_of_child? hother ?_⟩
            exact ih other.size (hsize ▸ Node.size_child?_lt hother) hrest rfl m hm

theorem Node.Plain.chainConditions? {conditions : List Node} (h : n.Plain)
    (hconditions : chainConditions? n = some conditions) : ∀ m ∈ conditions, m.Plain :=
  fun m hm d hd => h d (Node.mem_walk_trans hd (mem_walk_of_chainConditions? hconditions m hm))

/-- The chain of an if-statement has a condition. -/
theorem chainConditions?_ne_nil (h : n.kind = .ifStatement) : chainConditions? n ≠ some [] := by
  rw [chainConditions?_eq, if_neg (not_not_intro h)]
  split
  · simp
  · split
    · simp
    · split <;> simp

theorem Node.Plain.replies_caseLabel? (h : n.Plain) : Replies (caseLabel? n) := by
  have hkind : (n.attrOr "literal_kind" (.str "integer")).isScalar := by
    unfold Node.attrOr
    cases hget : Entries.get? "literal_kind" n.attrs with
    | none => rfl
    | some v => exact h.plainAs hget
  unfold caseLabel?
  split
  · exact (Value.replies_among hkind _).bind fun _ _ => replies_ok _
  · split <;> exact replies_ok _

/-- The compared expression is a node of the condition. -/
theorem Node.Plain.answers_splitEquality (h : n.Plain) :
    Answers (fun split => ∀ s ∈ split, s.1.Plain) (splitEquality n) := by
  have hnone : ∀ s ∈ (none : Option (Node × CaseLabel)), s.1.Plain := by rintro _ ⟨⟩
  unfold splitEquality
  dsimp only
  split
  · split
    · next lhs rhs hlhs hrhs =>
      have hl := h.peel.peeled? hlhs
      have hr := h.peel.peeled? hrhs
      refine hl.replies_caseLabel?.bind fun left _ => hr.replies_caseLabel?.bind fun right _ => ?_
      split
      · exact .ok (by rintro _ ⟨⟩; exact hl)
      · exact .ok (by rintro _ ⟨⟩; exact hr)
      · exact .ok hnone
    · exact .ok hnone
  · exact .ok hnone

/-- A chain with a condition has a subject, or is none that could be a switch. -/
theorem answers_commonSubject {conditions : List Node} (h : ∀ m ∈ conditions, m.Plain)
    {first : Option (Node × List ShapePart)} (hfirst : ∀ f ∈ first, f.1.Plain)
    (hsome : first = none → conditions ≠ []) (seen : List CaseLabel) :
    Answers (fun subject => ∀ m ∈ subject, m.Plain) (commonSubject first seen conditions) := by
  have hnone : ∀ m ∈ (none : Option Node), m.Plain := by rintro _ ⟨⟩
  induction conditions generalizing first seen with
  | nil =>
    cases first with
    | none => exact absurd rfl (hsome rfl)
    | some f =>
      refine .ok ?_
      rintro _ ⟨⟩
      exact hfirst f rfl
  | cons condition rest ih =>
    obtain ⟨hcondition, hrest⟩ := List.forall_mem_cons.1 h
    refine hcondition.answers_splitEquality.bind fun split hsplit => ?_
    cases split with
    | none => exact .ok hnone
    | some split =>
      obtain ⟨subject, label⟩ := split
      have hsubject : subject.Plain := hsplit _ rfl
      refine (hsubject.replies_shape.mapError _).bind fun shape _ => ?_
      cases first with
      | none =>
        refine ih hrest ?_ (fun h => by cases h) _
        rintro _ ⟨⟩
        exact hsubject
      | some f =>
        dsimp only
        split
        · exact ih hrest hfirst (fun h => by cases h) _
        · exact .ok hnone

theorem Node.Plain.replies_isSwitchable (h : n.Plain) : Replies (isSwitchable n) := by
  refine h.replies_type.bind fun t _ => ?_
  cases t <;> exact replies_ok _

theorem Value.replies_exceeds {v : Value} (h : v.numeric?.isSome) (n : Int) :
    Replies (v.exceeds n) := by
  obtain ⟨x, hx⟩ := Option.isSome_iff_exists.1 h
  rw [Value.exceeds, hx]
  exact replies_ok _

/-- A chain that is gone through has a condition, since its head is an if-statement or since it is
long enough. -/
theorem replies_switchChain {minBranches : Value} (hmin : minBranches.numeric?.isSome)
    (hc : c.Plain) (h : c.node.kind = .ifStatement ∨ minBranches.exceeds 0 = .ok true) :
    Replies ((switchChain minBranches).inspect c) := by
  refine .unless trivial ?_
  split
  · exact replies_ok _
  · next conditions hconditions =>
    obtain ⟨tooShort, hexceeds, _⟩ := Value.replies_exceeds hmin conditions.length
    -- Without a condition there would be no subject to ask for.
    have hlong : tooShort = false → conditions ≠ [] := by
      rintro rfl rfl
      rcases h with hkind | hpositive
      · exact chainConditions?_ne_nil hkind hconditions
      · cases hpositive.symm.trans hexceeds
    simp only [hexceeds]
    cases tooShort with
    | true => exact replies_ok _
    | false =>
      refine (answers_commonSubject (hc.node.chainConditions? hconditions) (by rintro _ ⟨⟩)
        (fun _ => hlong rfl) []).bind fun subject hsubject => ?_
      cases subject with
      | none => exact replies_ok _
      | some subject =>
        refine (hsubject _ rfl).replies_isSwitchable.bind fun _ _ => ?_
        split <;> exact replies_ok _

/-! ## §8 The catalog -/

/-- All detectors but one reply anywhere. -/
theorem builtin_robust {s : Settings} (hs : s.Numeric) :
    ∀ d ∈ builtinDetectors s, d = switchChain s.minBranches ∨ d.Robust := by
  simp only [builtinDetectors, List.forall_mem_cons, List.not_mem_nil, false_implies, implies_true,
    and_true]
  exact ⟨.inr namespaceImport_robust, .inr flushingNewline_robust, .inl trivial,
    .inr discardedPostfix_robust, .inr rawArray_robust, .inr macroConstant_robust,
    .inr (copyingLoop_robust hs.sizeThreshold), .inr signedIndex_robust, .inr nullArgument_robust,
    .inr narrowingInit_robust, .inr constLocal_robust,
    .inr (copiedParameter_robust hs.sizeThreshold), .inr castStyle_robust, .inr rawOwnership_robust,
    .inr typedefAlias_robust, .inr unscopedEnum_robust, .inr emptinessTest_robust,
    .inr implicitConversion_robust⟩

theorem builtin_replies {s : Settings} (hs : s.Numeric) {d : Detector}
    (hd : d ∈ builtinDetectors s) (hc : c.Plain)
    (hlooks : d.looksAt c.node.kind ∨ s.minBranches.exceeds 0 = .ok true) :
    Replies (d.inspect c) := by
  rcases builtin_robust hs d hd with rfl | hrobust
  · refine replies_switchChain hs.minBranches hc (hlooks.imp_left fun hkind => ?_)
    exact List.mem_singleton.1 (Detector.mem_kinds hkind)
  · exact hrobust c hc

/-! ## §9 What an analysis counts -/

/-- In a plain tree every node has plain surroundings. -/
theorem Node.Plain.cursor {root : Node} (h : root.Plain) (hc : c ∈ (Cursor.root root).preorder) :
    c.Plain := by
  have hleads := Cursor.mem_preorder_root.1 hc
  obtain ⟨n, path⟩ := c
  change Leads root n path at hleads
  induction hleads with
  | here => exact ⟨h, List.forall_mem_nil _⟩
  | up holds rest ih =>
    obtain ⟨hparent, habove⟩ := ih (Cursor.mem_preorder_root.2 rest)
    exact ⟨hparent.of_child (List.mem_of_getElem? holds), List.forall_mem_cons.2 ⟨hparent, habove⟩⟩

/-- Where all detectors reply, none has failed and nothing is told. -/
theorem Gathered.none_failed {table : Dispatch} {cs : List Cursor} {run : Run}
    (h : Gathered table cs run)
    (hreplies : ∀ c ∈ cs, ∀ d ∈ table.at c.node.kind, Replies (d.inspect c)) :
    run.failures = 0 ∧ run.events = [] := by
  have hinspections : ∀ i ∈ table.inspections cs, ∃ findings, i.1.inspect i.2 = .ok findings := by
    intro i hi
    obtain ⟨c, hc, hi⟩ := List.mem_flatMap.1 hi
    obtain ⟨d, hd, rfl⟩ := List.mem_map.1 hi
    obtain ⟨findings, hok, _⟩ := hreplies c hc d hd
    exact ⟨findings, hok⟩
  constructor
  · rw [h.failures, List.countP_eq_zero]
    intro i hi
    obtain ⟨findings, hok⟩ := hinspections i hi
    simp [Detector.fails, hok]
  · rw [h.events, List.filterMap_eq_nil_iff]
    intro i hi
    obtain ⟨findings, hok⟩ := hinspections i hi
    simp [Detector.noted, hok]

/-- When turns end, stopped or not, the run has gathered what there is at the first nodes of the
tree. -/
theorem Run.Turns.gathered {table : Dispatch} {root : Node} {file : String} {pending : List Place}
    {run run' : Run} {failure : Option Error} (h : Run.Turns file pending run run' failure)
    (hcovers : Covers table root run pending) :
    ∃ cs, cs <+: (Cursor.root root).preorder ∧ Gathered table cs run' := by
  induction h with
  | done run =>
    obtain ⟨cs, hg, _, hall⟩ := hcovers
    exact ⟨cs, ⟨_, hall⟩, hg⟩
  | @fail run run' signal p rest e outside turn =>
    have hlook := hcovers.look signal
    rcases Run.turn_cases turn with ⟨_, rfl, _⟩ | ⟨hclear, _⟩ | ⟨_, _, children, he⟩
    · obtain ⟨cs, hg, _, hall⟩ := hlook
      exact ⟨cs, ⟨_, hall⟩, hg.dispatch, hg.collector, hg.visited, hg.failures, hg.events⟩
    · -- The collector is open until the tree is done, so that a cleared visit does not fail.
      obtain ⟨run'', children, hturn, _⟩ := hlook.visit hclear file
      rw [turn] at hturn
      cases hturn
    · cases he
  | @next run run' run'' signal p children rest failure outside turn _ ih =>
    have hclear : signal ≠ .raised := by
      rintro rfl
      rw [Run.turn_raised rfl] at turn
      cases turn
    obtain ⟨run₁, children₁, hturn, hcovers'⟩ := (hcovers.look signal).visit hclear file
    rw [turn] at hturn
    cases hturn
    exact ih hcovers'

/-- A call of a fresh run counts what there is at the first nodes of its tree. -/
theorem Run.Call.gathered {table : Dispatch} {signal : Signal} {root : Node} {run : Run}
    {result : Except Error Report} (h : Run.Call root { table, signal } run result) :
    ∃ cs last, cs <+: (Cursor.root root).preorder ∧ Gathered table cs last ∧
      run.failures = last.failures := by
  have hstart := covers_start table signal root
  cases h with
  | failed turns =>
    obtain ⟨cs, hcs, hg⟩ := turns.gathered hstart
    exact ⟨cs, run, hcs, hg, rfl⟩
  | refused turns _ =>
    obtain ⟨cs, hcs, hg⟩ := turns.gathered hstart
    exact ⟨cs, run, hcs, hg, rfl⟩
  | @returned last _ _ turns _ =>
    obtain ⟨cs, hcs, hg⟩ := turns.gathered hstart
    exact ⟨cs, last, hcs, hg, rfl⟩

/-- An analysis that nothing stops counts and tells what there is at all nodes of its tree. -/
theorem Engine.analyze_gathered (e : Engine) (root : Node) (requested : List Value) :
    ∃ run report,
      Gathered (e.catalog.dispatch (e.skipped requested)) (Cursor.root root).preorder run ∧
      (e.analyze root requested .absent).result = .ok report ∧
      (e.analyze root requested .absent).events =
        e.skippedEvents (e.skipped requested) ++ [.started root.span.file (e.skipped requested)] ++
          run.events ++
          [.finished root.span.file root.size report.findings.length run.failures] := by
  obtain ⟨run, _, hg, hexecute⟩ := execute_fresh (e.catalog.dispatch (e.skipped requested)) root
  have hvisited : run.visited = root.size := by
    rw [hg.visited, Cursor.length_preorder]
    rfl
  refine ⟨run, _, hg, congrArg Prod.snd hexecute, ?_⟩
  simp only [Engine.analyze, hexecute, Run.events, hvisited]

/-- In a plain tree the detectors of the catalog reply wherever they are asked. -/
theorem Node.Plain.replies_dispatch {root : Node} (h : root.Plain) {s : Settings} (hs : s.Numeric)
    (excluded : List String) (hc : c ∈ (Cursor.root root).preorder) :
    ∀ d ∈ ((Catalog.builtin s).dispatch excluded).at c.node.kind, Replies (d.inspect c) := by
  intro d hd
  rw [Catalog.at_dispatch, List.mem_filter, Bool.and_eq_true] at hd
  exact builtin_replies hs hd.1 (h.cursor hc) (.inl hd.2.1)

/-- No detector of the catalog fails at a node of a plain tree, provided that it looks at nodes of
this kind; if the least length of a chain is positive, at no other node either. So an analysis
counts no failure, also one that is stopped, and one that nothing stops ends with a report and tells
of nothing but its start and its end. -/
theorem builtin_detectors_never_fail (s : Settings) (hs : s.Numeric) :
    (∀ d ∈ builtinDetectors s, ∀ c : Cursor, c.Plain →
      d.looksAt c.node.kind ∨ s.minBranches.exceeds 0 = .ok true →
      ∃ findings, d.inspect c = .ok findings) ∧
    ∀ root : Node, root.Plain →
      (∀ excluded signal run result,
        Run.Call root { table := (Catalog.builtin s).dispatch excluded, signal } run result →
        run.failures = 0) ∧
      ∀ used requested,
        let e := Engine.withAllRules s used
        ∃ report, (e.analyze root requested .absent).result = .ok report ∧
          (e.analyze root requested .absent).events =
            e.skippedEvents (e.skipped requested) ++
              [.started root.span.file (e.skipped requested),
                .finished root.span.file root.size report.findings.length 0] := by
  refine ⟨?_, fun root hroot => ⟨?_, ?_⟩⟩
  · intro d hd c hc hlooks
    obtain ⟨findings, hok, _⟩ := builtin_replies hs hd hc hlooks
    exact ⟨findings, hok⟩
  · intro excluded signal run result hcall
    obtain ⟨cs, last, hcs, hg, hfailures⟩ := hcall.gathered
    rw [hfailures]
    exact (hg.none_failed fun c hc => hroot.replies_dispatch hs excluded (hcs.mem hc)).1
  · intro used requested e
    obtain ⟨run, report, hg, hresult, hevents⟩ := e.analyze_gathered root requested
    obtain ⟨hfailures, hnone⟩ := hg.none_failed fun c hc => hroot.replies_dispatch hs _ hc
    refine ⟨report, hresult, ?_⟩
    rw [hevents, hfailures, hnone, List.append_nil, List.append_assoc]
    rfl

/-- A call that hands the null macro to an integer parameter, given by a mapping of its parts. All
detectors reply at its root, also those that do not look at calls. -/
theorem no_failure_at_null_argument :
    let int : Value := .map [(.str "category", .str "builtin"), (.str "spelling", .str "int"),
      (.str "size", .int 4), (.str "element", .null)]
    let null : Node := ⟨.literal, ⟨"a.cpp", 1, 3, 1, 7⟩, [(.str "macro", .str "NULL")], []⟩
    let root : Node := ⟨.callExpr, ⟨"a.cpp", 1, 1, 1, 8⟩,
      [(.str "overload", .map [(.str "parameter_types", .list [int])]), (.str "type", int)],
      [("arguments", null)]⟩
    let e := Engine.withAllRules {} {}
    root.Plain ∧ Settings.Numeric {} ∧
      (∀ d ∈ builtinDetectors {}, ∃ findings, d.inspect (.root root) = .ok findings) ∧
      ∃ report, (e.analyze root [] .absent).result = .ok report ∧
        (e.analyze root [] .absent).events =
          [.started "a.cpp" [], .finished "a.cpp" 2 report.findings.length 0] := by
  intro int null root e
  have hint : int.TypeLike := .mapping (.inr ⟨4, rfl⟩) (.scalar rfl trivial)
  have hnull : null.Plain := by
    refine Node.plain_iff.2 ⟨fun name v hv => ?_, by rintro _ _ ⟨⟩⟩
    simp only [null, Entries.get?, beq_iff_eq] at hv
    split at hv
    · next hname =>
      cases hv
      subst hname
      rfl
    · cases hv
  have hroot : root.Plain := by
    refine Node.plain_iff.2 ⟨fun name v hv => ?_, fun role m hm => ?_⟩
    · simp only [root, Entries.get?, beq_iff_eq] at hv
      split at hv
      · next hname =>
        cases hv
        subst hname
        exact .inr ⟨_, _, rfl, rfl, List.forall_mem_singleton.2 hint⟩
      · split at hv
        · next hname =>
          cases hv
          subst hname
          exact hint
        · cases hv
    · cases List.mem_singleton.1 hm
      exact hnull
  have hs : Settings.Numeric {} := ⟨rfl, rfl⟩
  obtain ⟨hdetectors, hanalyses⟩ := builtin_detectors_never_fail {} hs
  obtain ⟨report, hresult, hevents⟩ := (hanalyses root hroot).2 {} []
  have hcursor : (Cursor.root root).Plain := ⟨hroot, List.forall_mem_nil _⟩
  refine ⟨hroot, hs, fun d hd => hdetectors d hd _ hcursor (.inr rfl), report, hresult, ?_⟩
  have hskipped : e.skipped [] = [] := by decide +kernel
  have hsize : root.size = 2 := by decide +kernel
  rw [hskipped, hsize] at hevents
  exact hevents

end CppIdioms
