import CppIdioms.Proofs.ConstErasure
import CppIdioms.Rule.ConstLocal

/-!
# Pointers and their const marks

A pointer is const if const stands behind its last star; const before that is said of what it points
to. The reader looks at the ends of the spelling instead. At the end it finds the const of the pointer,
if a blank is before it; at the beginning it finds the const of something else.

## Contents

* `behindLastStar`, `ConstPointer`: what stands behind the last star, and whether const is part of it.
* `StartsConst`, `EndsConst`: const at the ends of a text.
* `Cursor.LocalOf`: locals that never change, with a type given by its spelling.

## Main statements

* `squeeze_star`, `getLast?_bareSpelling_star`: a text around a star.
* `category_of_star`: what a text is read as with nothing but blanks and words behind a star.
* `inspect_constLocal`: which locals are reported.
* `const_mark_of_pointer`: the mark, when it is that of the pointer, and the locals reported.
-/

namespace CppIdioms

open CppIdioms.Text CppIdioms.Rules

/-! ## §1 Const at the ends and behind the last star -/

/-- What stands behind the last star. -/
def behindLastStar (cs : List Char) : List Char := (cs.reverse.takeWhile (· != '*')).reverse

/-- Const stands behind the last star. -/
def ConstPointer (cs : List Char) : Prop := constWord ∈ identifiers (behindLastStar cs)

/-- The squeezed text starts with const and a space. -/
def StartsConst (cs : List Char) : Prop := "const ".toList <+: squeeze cs

/-- The squeezed text ends with a space and const. -/
def EndsConst (cs : List Char) : Prop := " const".toList <:+ squeeze cs

instance (cs : List Char) : Decidable (ConstPointer cs) :=
  inferInstanceAs (Decidable (constWord ∈ identifiers (behindLastStar cs)))

instance (cs : List Char) : Decidable (StartsConst cs) :=
  inferInstanceAs (Decidable ("const ".toList <+: squeeze cs))

instance (cs : List Char) : Decidable (EndsConst cs) :=
  inferInstanceAs (Decidable (" const".toList <:+ squeeze cs))

section Star

variable {cs a b : List Char}

theorem exists_behindLastStar (h : '*' ∈ cs) : ∃ a, cs = a ++ '*' :: behindLastStar cs := by
  have hrest : cs.reverse.dropWhile (· != '*') ≠ [] := by
    intro hnil
    have hall := List.dropWhile_eq_nil_iff.1 hnil '*' (List.mem_reverse.2 h)
    simp at hall
  obtain ⟨c, rest, hcons⟩ := List.exists_cons_of_ne_nil hrest
  obtain rfl : c = '*' := by
    have hhead := List.head?_dropWhile_not (· != '*') cs.reverse
    rw [hcons] at hhead
    simpa using hhead
  refine ⟨rest.reverse, ?_⟩
  have hcut : cs.reverse.takeWhile (· != '*') ++ '*' :: rest = cs.reverse := by
    rw [← hcons, List.takeWhile_append_dropWhile]
  have hreverse := congrArg List.reverse hcut
  simpa [behindLastStar] using hreverse.symm

/-- A text is squeezed up to a star, and then behind it. -/
theorem squeeze_star (a b : List Char) :
    ∃ before, squeeze (a ++ '*' :: b) = before ++ '*' :: squeezeFrom true false b := by
  have hstar : isBlank '*' = false := by decide
  have hends : ∀ c ∈ (a ++ ['*']).getLast?, isBlank c = false := by simpa using hstar
  have hlast : (squeeze (a ++ ['*'])).getLast? = some '*' := getLast?_squeezeFrom hstar false false
  obtain ⟨before, hbefore⟩ := List.getLast?_eq_some_iff.1 hlast
  refine ⟨before, ?_⟩
  have hcut := @squeezeFrom_append (a ++ ['*']) b (by simp) hends false false
  rw [List.append_assoc, List.singleton_append, ← squeeze, ← squeeze, hbefore] at hcut
  simpa using hcut

/-- Const at the end of the text, with a space before it, is behind every star. -/
theorem EndsConst.mem (h : EndsConst (a ++ '*' :: b)) : constWord ∈ identifiers b := by
  obtain ⟨before, hsqueeze⟩ := squeeze_star a b
  rw [EndsConst, hsqueeze] at h
  obtain ⟨rest, hrest⟩ := suffix_of_suffix_append_cons (by decide) h
  have hidentifiers := identifiers_squeezeFrom [] false b
  rw [List.nil_append, ← hrest, space_const_eq, identifiers_append_cons space_not_word,
    identifiers_of_word const_word, if_neg Bool.false_ne_true, List.nil_append] at hidentifiers
  rw [← hidentifiers]
  simp [constWord]

theorem EndsConst.constPointer (hstar : '*' ∈ cs) (h : EndsConst cs) : ConstPointer cs := by
  obtain ⟨a, ha⟩ := exists_behindLastStar hstar
  rw [ha] at h
  exact h.mem

end Star

/-! ## §2 What is read -/

section Reading

variable {cs a b : List Char}

theorem hasConstMark_iff (cs : List Char) :
    hasConstMark (squeeze cs) = true ↔ StartsConst cs ∨ EndsConst cs := by
  rw [hasConstMark, Bool.or_eq_true, List.isPrefixOf_iff_prefix, List.isSuffixOf_iff_suffix, StartsConst,
    EndsConst]

theorem star_mem_squeeze (h : '*' ∈ cs) : '*' ∈ squeeze cs := by
  obtain ⟨a, ha⟩ := exists_behindLastStar h
  obtain ⟨before, hsqueeze⟩ := squeeze_star a (behindLastStar cs)
  rw [ha, hsqueeze]
  simp

theorem ofChars_of_star (h : '*' ∈ cs) : CppType.ofChars cs =
    CppType.ofBare (String.ofList (squeeze cs)) (hasConstMark (squeeze cs))
      (bareSpelling (squeeze cs)) := by
  have hmem := star_mem_squeeze h
  refine CppType.ofChars_eq (List.ne_nil_of_mem hmem) fun hunresolved => ?_
  exact absurd (hunresolved ▸ hmem) (by decide)

/-- A spelling with a star says something, so its outer form decides. -/
theorem formOf_of_star (h : '*' ∈ cs) {t : CppType} (ht : CppType.ofChars cs = .ok t) :
    CppType.FormOf (String.ofList (squeeze cs)) (hasConstMark (squeeze cs))
      (bareSpelling (squeeze cs)) t :=
  CppType.formOf_of_ofBare (ofChars_of_star h ▸ ht)

theorem isConst_of_star (h : '*' ∈ cs) {t : CppType} (ht : CppType.ofChars cs = .ok t) :
    t.isConst = true ↔ StartsConst cs ∨ EndsConst cs := by
  rw [(formOf_of_star h ht).isConst_eq, hasConstMark_iff]

/-- With nothing but blanks and words behind it, a star or a word character ends the text without
const. -/
theorem getLast?_bareSpelling_star (hb : ∀ c ∈ b, isBlank c = true ∨ isWord c = true) :
    ∃ c, (bareSpelling (squeeze (a ++ '*' :: b))).getLast? = some c ∧ (c = '*' ∨ isWord c = true) := by
  obtain ⟨before, hsqueeze⟩ := squeeze_star a b
  have herase := eraseConst_append_cons (by decide : '*' ∉ "const ".toList) before
    (squeezeFrom true false b)
  have hreverse : (eraseConst (before ++ '*' :: squeezeFrom true false b)).reverse =
      (eraseConst (squeezeFrom true false b)).reverse ++ '*' :: (eraseConst before).reverse := by
    rw [herase]
    simp
  rw [bareSpelling, ← eraseConst, hsqueeze, getLast?_trim, hreverse, List.find?_append,
    List.find?_cons_of_pos (by decide)]
  cases hfound : (eraseConst (squeezeFrom true false b)).reverse.find? (!isBlank ·) with
  | none => exact ⟨'*', rfl, .inl rfl⟩
  | some c =>
    refine ⟨c, rfl, .inr ?_⟩
    have hblank : isBlank c = false := by simpa using List.find?_some hfound
    have hmem := mem_of_mem_erase (mem_of_mem_erase (List.mem_reverse.1 (List.mem_of_find?_eq_some hfound)))
    obtain rfl | hmem := mem_of_mem_squeezeFrom hmem
    · exact absurd hblank (by decide)
    · exact (hb c hmem).resolve_left (by simp [hblank])

/-- A text that ends with neither a reference mark nor a bracket is no reference and no array. -/
theorem category_of_getLast? {bare : List Char} {c : Char} (hlast : bare.getLast? = some c)
    (hreference : c ≠ '&') (hbracket : c ≠ ']') {text : String} {isConst : Bool} {t : CppType}
    (h : CppType.FormOf text isConst bare t) : t.category ∉ [.reference, .array, .unresolved] := by
  obtain ⟨front, rfl⟩ := List.getLast?_eq_some_iff.1 hlast
  have hform : outerForm (front ++ [c]) = .plain ∨ ∃ inner, outerForm (front ++ [c]) = .pointer inner := by
    rw [outerForm, List.reverse_append, List.reverse_singleton, List.singleton_append]
    unfold outerFormRev
    split
    · next heq => exact absurd (List.cons.inj heq).1 hreference
    · exact .inr ⟨_, rfl⟩
    · next heq => exact absurd (List.cons.inj heq).1 hbracket
    · exact .inl rfl
  cases h with
  | reference form => simp [form] at hform
  | array form => simp [form] at hform
  | pointer => simp
  | plain =>
    unfold plainType
    split
    · simp
    · split <;> simp

theorem category_of_star (h : '*' ∈ cs)
    (hbehind : ∀ c ∈ behindLastStar cs, isBlank c = true ∨ isWord c = true) {t : CppType}
    (ht : CppType.ofChars cs = .ok t) : t.category ∉ [.reference, .array, .unresolved] := by
  obtain ⟨a, ha⟩ := exists_behindLastStar h
  obtain ⟨c, hlast, hc⟩ := @getLast?_bareSpelling_star a _ hbehind
  rw [← ha] at hlast
  have hmark : c ≠ '&' ∧ c ≠ ']' := by
    obtain rfl | hword := hc
    · decide
    · constructor <;> rintro rfl <;> exact absurd hword (by decide)
  exact category_of_getLast? hlast hmark.1 hmark.2 (formOf_of_star h ht)

end Reading

/-! ## §3 Locals -/

/-- A local that never changes is declared with a type that is given by its spelling. -/
structure Cursor.LocalOf (c : Cursor) (spelling : String) : Prop where
  scope : c.scope = .inFunction
  unchanged : neverChanges c.node = true
  notUnresolved : c.node.denies "resolved" = false
  type : c.node.attr "type" = .str spelling

/-- What is said of a local that could be const. -/
def constLocalMessage (n : Node) : String :=
  "'" ++ n.nameOr "variable" ++ "' is never modified after initialization; declare it const"

section Local

variable {c : Cursor} {s : String} {t : CppType} (h : c.LocalOf s) (ht : CppType.ofSpelling s = .ok t)
include h ht

theorem Cursor.LocalOf.knownType_eq (hresolved : t.resolved = true) :
    c.node.knownType = .ok (some t) := by
  rw [Node.knownType_eq, h.notUnresolved, if_neg Bool.false_ne_true, Node.typeAt, Node.typeOf, h.type,
    CppType.ofValue_str, ht]
  simp [Except.mapError, Except.map, Option.filter, hresolved]

/-- A local of a known type that is no reference and no array is reported unless the type is const. -/
theorem inspect_constLocal (hcategory : t.category ∉ [.reference, .array, .unresolved]) :
    constLocal.inspect c = .ok (if t.isConst then []
      else [constLocalRule.finding c.node (constLocalMessage c.node)]) := by
  simp only [List.mem_cons, List.not_mem_nil, or_false, not_or] at hcategory
  obtain ⟨hreference, harray, hunresolved⟩ := hcategory
  have hresolved : t.resolved = true := by
    simpa [CppType.resolved] using hunresolved
  simp only [constLocal, h.unchanged, h.scope, h.knownType_eq ht hresolved, bind, Except.bind, pure,
    Except.pure, hreference, harray, decide_false, Bool.or_false]
  cases t.isConst <;> rfl

end Local

/-! ## §4 Pointers -/

/-- The const mark of a spelling with a star tells whether const is at the end of the text behind a
blank, or at its beginning. It is that of the pointer, with const behind its last star, exactly if a
text that begins with const is that of a const pointer, and a const behind the last star is one that is
found. A local of such a type that never changes is reported exactly if it has no mark. So if the
pointer is not const, the local is reported exactly if const is not what the text begins with. A
spelling with an extent of too many digits is not read, and every other one is. -/
theorem const_mark_of_pointer (s : String) (hstar : '*' ∈ s.toList) :
    (¬ CppType.ExtentsFit s.toList → CppType.ofValue (.str s) = .error .badValue) ∧
    let starts := StartsConst s.toList
    let ends := EndsConst s.toList
    let constPointer := ConstPointer s.toList
    (CppType.ExtentsFit s.toList → ∃ t, CppType.ofValue (.str s) = .ok (some t) ∧
      (t.isConst = true ↔ starts ∨ ends) ∧ (ends → constPointer) ∧
      ((t.isConst = true ↔ constPointer) ↔
        (starts → constPointer) ∧ (constPointer → starts ∨ ends)) ∧
      ((∀ c ∈ behindLastStar s.toList, isBlank c = true ∨ isWord c = true) →
        ∀ c : Cursor, c.LocalOf s →
          let reported := constLocal.inspect c =
            .ok [constLocalRule.finding c.node (constLocalMessage c.node)]
          (reported ↔ ¬ starts ∧ ¬ ends) ∧ (¬ reported → constLocal.inspect c = .ok []) ∧
            (¬ constPointer → (reported ↔ ¬ starts)))) := by
  refine ⟨CppType.ofValue_str_of_not_fits, ?_⟩
  intro starts ends constPointer hfit
  obtain ⟨t, hvalue, ht⟩ := CppType.ofValue_str_of_fits hfit
  have hmark : t.isConst = true ↔ starts ∨ ends := isConst_of_star hstar ht
  have hends : ends → constPointer := EndsConst.constPointer hstar
  refine ⟨t, hvalue, hmark, hends, ?_, fun hbehind c hc => ?_⟩
  · rw [hmark]
    constructor
    · intro hiff
      exact ⟨fun hstarts => hiff.1 (.inl hstarts), hiff.2⟩
    · rintro ⟨hstarts, hfound⟩
      exact ⟨fun h => h.elim hstarts hends, hfound⟩
  · intro reported
    have hinspect := inspect_constLocal hc ht (category_of_star hstar hbehind ht)
    have hreported : reported ↔ ¬ starts ∧ ¬ ends := by
      rw [← not_or, ← hmark]
      constructor
      · intro h hconst
        rw [if_pos hconst] at hinspect
        cases hinspect.symm.trans h
      · intro h
        rwa [if_neg h] at hinspect
    refine ⟨hreported, fun hnot => ?_, fun hpointer => ?_⟩
    · by_cases hconst : t.isConst = true
      · rwa [if_pos hconst] at hinspect
      · rw [if_neg hconst] at hinspect
        exact absurd hinspect hnot
    · rw [hreported]
      exact and_iff_left fun h => hpointer (hends h)

/-- A local of a function, declared with an initializer and never assigned again. -/
def assignedOnce (spelling : String) : Cursor :=
  let declaration : Node := ⟨.variableDecl, ⟨"a.cpp", 2, 3, 2, 24⟩, [(.str "name", .str "p"),
    (.str "type", .str spelling), (.str "is_reassigned", .bool false), (.str "has_init", .bool true)], []⟩
  let function : Node := ⟨.functionDecl, ⟨"a.cpp", 1, 1, 3, 2⟩, [], [("body", declaration)]⟩
  ⟨declaration, [⟨function, "body", 0⟩]⟩

theorem localOf_assignedOnce (spelling : String) : (assignedOnce spelling).LocalOf spelling :=
  ⟨rfl, rfl, rfl, rfl⟩

/-- A pointer to const, with const behind what it points to. -/
theorem pointer_to_const_reported :
    let s := "char const *"
    ('*' ∈ s.toList ∧ CppType.ExtentsFit s.toList ∧
        (∀ c ∈ behindLastStar s.toList, isBlank c = true ∨ isWord c = true) ∧
        (assignedOnce s).LocalOf s ∧ ¬ ConstPointer s.toList) ∧
      (∃ t, CppType.ofValue (.str s) = .ok (some t) ∧ ¬ t.isConst = true) ∧
      constLocal.inspect (assignedOnce s) = .ok [constLocalRule.finding (assignedOnce s).node
        "'p' is never modified after initialization; declare it const"] := by
  intro s
  have hstar : '*' ∈ s.toList := by decide
  have hfit : CppType.ExtentsFit s.toList := by decide +kernel
  have hbehind : ∀ c ∈ behindLastStar s.toList, isBlank c = true ∨ isWord c = true :=
    forall_mem_of_all (by decide)
  have hpointer : ¬ ConstPointer s.toList := by decide
  have hstarts : ¬ StartsConst s.toList := by decide
  have hends : ¬ EndsConst s.toList := by decide
  obtain ⟨t, hvalue, hmark, -, -, hlocals⟩ := (const_mark_of_pointer s hstar).2 hfit
  obtain ⟨-, -, hreported⟩ := hlocals hbehind (assignedOnce s) (localOf_assignedOnce s)
  have hmessage : constLocalMessage (assignedOnce s).node =
      "'p' is never modified after initialization; declare it const" := by decide
  exact ⟨⟨hstar, hfit, hbehind, localOf_assignedOnce s, hpointer⟩,
    ⟨t, hvalue, fun h => (hmark.1 h).elim hstarts hends⟩, hmessage ▸ (hreported hpointer).2 hstarts⟩

/-- The same pointer with const in front of what it points to is taken for const. -/
theorem pointer_to_const_taken_for_const :
    let s := "const char *"
    '*' ∈ s.toList ∧ ¬ ConstPointer s.toList ∧
      (∃ t, CppType.ofValue (.str s) = .ok (some t) ∧ t.isConst = true) ∧
      (assignedOnce s).LocalOf s ∧ constLocal.inspect (assignedOnce s) = .ok [] := by
  intro s
  have hstar : '*' ∈ s.toList := by decide
  have hfit : CppType.ExtentsFit s.toList := by decide +kernel
  have hbehind : ∀ c ∈ behindLastStar s.toList, isBlank c = true ∨ isWord c = true :=
    forall_mem_of_all (by decide)
  obtain ⟨t, hvalue, ht⟩ := CppType.ofValue_str_of_fits hfit
  have hconst : t.isConst = true := (isConst_of_star hstar ht).2 (.inl (by decide))
  have hinspect := inspect_constLocal (localOf_assignedOnce s) ht (category_of_star hstar hbehind ht)
  rw [if_pos hconst] at hinspect
  exact ⟨hstar, by decide, ⟨t, hvalue, hconst⟩, localOf_assignedOnce s, hinspect⟩

end CppIdioms
