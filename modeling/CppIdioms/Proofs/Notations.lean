import CppIdioms.Proofs.Identifiers
import CppIdioms.Proofs.Insensitivity
import CppIdioms.Proofs.TypeMappings
import CppIdioms.Proofs.TypeShorthand

/-!
# Two notations for a fundamental type

A dump gives a fundamental type by its spelling alone or as a mapping with the spelling in it. A
spelling alone is squeezed and freed from const before the table of fundamental types is asked for the
size. A mapping asks the table for its spelling as it stands, and finds a size only if nothing was to
be done to it. Whether a type is integral is asked with a third form, the spelling freed from const and
then squeezed. It tells less than the first, but never anything else: leaving out const and blanks
keeps the sum of all letters, if const counts as nothing, and no two entries of the table have the same
sum.

## Contents

* `builtinNames`, `PlainSpelling`: the spellings that the table knows, and what is not done to them.
* `letterSum`: the sum of the letters of a text, modulo const and blanks.
* `CppType.SpelledBuiltin`: spellings that are read as fundamental types.
* `CppType.mapped`, `builtinMapping`: the reading of a mapping, and the mapping.
* `JudgedAlike`: inspections whose findings differ in their texts at most.
* `Node.Restated`, `Node.OverloadRestated`: a node with its type, and a call with the type of a
  parameter, in the other notation.

## Main statements

* `letterSum_withoutConst`, `letterSum_injective`: sums are kept, and tell the entries of the table
  apart.
* `CppType.base_eq_of_builtin?`: if the table knows the third form, that is the first one.
* `builtin_notations_agree`: when the two readings agree, and what the rules make of them.
-/

namespace CppIdioms

open CppIdioms.Text CppIdioms.Rules

/-! ## §1 Spellings of fundamental types -/

/-- The spellings of the fundamental types, in the standard namespace and outside it. -/
def builtinNames : List String := builtins.map (·.1) ++ builtins.map fun entry => "std::" ++ entry.1

theorem mem_builtins_of_lookup {name : String} {b : Builtin} (h : builtins.lookup name = some b) :
    name ∈ builtins.map (·.1) := by
  obtain ⟨before, after, hbuiltins, -⟩ := List.lookup_eq_some_iff.1 h
  rw [hbuiltins]
  simp

theorem mem_builtinNames {s : String} {b : Builtin} (h : builtin? s = some b) : s ∈ builtinNames := by
  unfold builtin? at h
  have hname := mem_builtins_of_lookup h
  unfold dropStd at hname
  split at hname
  · next rest hs =>
    refine List.mem_append_right _ ?_
    obtain ⟨entry, hentry, hrest⟩ := List.mem_map.1 hname
    refine List.mem_map.2 ⟨entry, hentry, ?_⟩
    rw [hrest, ← String.toList_inj, String.toList_append, hs]
    simp
  · rw [String.ofList_toList] at hname
    exact List.mem_append_left _ hname

/-- Reading leaves the spelling as it is, and finds nothing around a plain type. -/
structure PlainSpelling (cs : List Char) : Prop where
  nonempty : cs ≠ []
  known : cs ≠ "<unresolved>".toList
  squeezed : squeeze cs = cs
  constFree : withoutConst cs = cs
  bare : bareSpelling cs = cs
  unmarked : hasConstMark cs = false
  outer : outerForm cs = .plain

instance (cs : List Char) : Decidable (PlainSpelling cs) :=
  decidable_of_iff (cs ≠ [] ∧ cs ≠ "<unresolved>".toList ∧ squeeze cs = cs ∧ withoutConst cs = cs ∧
      bareSpelling cs = cs ∧ hasConstMark cs = false ∧ outerForm cs = .plain)
    ⟨fun ⟨h₁, h₂, h₃, h₄, h₅, h₆, h₇⟩ => ⟨h₁, h₂, h₃, h₄, h₅, h₆, h₇⟩,
      fun ⟨h₁, h₂, h₃, h₄, h₅, h₆, h₇⟩ => ⟨h₁, h₂, h₃, h₄, h₅, h₆, h₇⟩⟩

theorem plainSpelling_builtinNames : ∀ s ∈ builtinNames, PlainSpelling s.toList := by
  decide +kernel

theorem plainSpelling_of_builtin? {s : String} {b : Builtin} (h : builtin? s = some b) :
    PlainSpelling s.toList :=
  plainSpelling_builtinNames s (mem_builtinNames h)

/-! ## §2 Sums of letters -/

/-- The number of a letter, such that blanks count as nothing and the letters of const together too. -/
def letterNumber (c : Char) : Int :=
  if isBlank c then 0
  else if c = 'c' then -((['o', 'n', 's', 't'].map fun d : Char => (d.toNat : Int)).sum)
  else c.toNat

/-- The sum of the letters of a text. -/
def letterSum (cs : List Char) : Int := (cs.map letterNumber).sum

section LetterSum

variable {phrase cs : List Char}

theorem letterSum_cons (c : Char) (cs : List Char) :
    letterSum (c :: cs) = letterNumber c + letterSum cs := by
  rw [letterSum, List.map_cons, List.sum_cons, letterSum]

theorem letterSum_append (cs ds : List Char) : letterSum (cs ++ ds) = letterSum cs + letterSum ds := by
  rw [letterSum, List.map_append, List.sum_append, letterSum, letterSum]

theorem letterNumber_of_blank {c : Char} (h : isBlank c = true) : letterNumber c = 0 := if_pos h

/-- A phrase whose letters count as nothing can be taken out. -/
theorem letterSum_erase (hne : phrase ≠ []) (hphrase : letterSum phrase = 0) (cs : List Char) :
    letterSum (erase phrase cs) = letterSum cs := by
  induction hlength : cs.length using Nat.strong_induction_on generalizing cs with
  | _ n ih =>
    subst hlength
    cases cs with
    | nil => rfl
    | cons c cs =>
      rw [erase_cons hne]
      split
      · next hopening =>
        obtain ⟨rest, hrest⟩ := hopening
        have hlength := congrArg List.length hrest
        have hpos := List.length_pos_iff.2 hne
        rw [List.length_append] at hlength
        rw [← hrest, List.drop_left, letterSum_append, hphrase, ih rest.length (by omega) rest rfl,
          zero_add]
      · rw [letterSum_cons, letterSum_cons, ih cs.length (by simp) cs rfl]

theorem letterSum_squeezeFrom (started gap : Bool) (cs : List Char) :
    letterSum (squeezeFrom started gap cs) = letterSum cs := by
  induction cs generalizing started gap with
  | nil => rfl
  | cons c cs ih =>
    rw [squeezeFrom, letterSum_cons]
    split
    · next hc => rw [letterNumber_of_blank hc, ih, zero_add]
    · have hspace : letterNumber ' ' = 0 := by decide
      split
      · rw [letterSum_cons, letterSum_cons, hspace, ih, zero_add]
      · rw [letterSum_cons, ih]

theorem letterSum_squeeze (cs : List Char) : letterSum (squeeze cs) = letterSum cs :=
  letterSum_squeezeFrom false false cs

/-- Const and blanks can be left out. -/
theorem letterSum_withoutConst (cs : List Char) : letterSum (withoutConst cs) = letterSum cs := by
  rw [withoutConst, letterSum_squeeze, letterSum_erase (by decide) (by decide),
    letterSum_erase (by decide) (by decide)]

/-- No two entries of the table have the same sum. -/
theorem letterSum_injective : ∀ s ∈ builtinNames, ∀ s' ∈ builtinNames,
    letterSum s.toList = letterSum s'.toList → s = s' := by
  decide +kernel

end LetterSum

/-! ## §3 The two readings -/

/-- A mapping of a spelling and the category of fundamental types. -/
def builtinMapping (s : String) : Value :=
  .map [(.str "spelling", .str s), (.str "category", .str "builtin")]

namespace CppType

/-- What the mapping is read as. -/
def mapped (s : String) : CppType := ⟨s, .builtin, (builtin? s).map (·.size), false, none⟩

/-- The spelling alone is read as a fundamental type. -/
structure SpelledBuiltin (s : String) (t : CppType) : Prop where
  read : ofSpelling s = .ok t
  category : t.category = .builtin

variable {s : String} {t : CppType} {b b' : Builtin}

theorem ofValue_builtinMapping (s : String) : ofValue (builtinMapping s) = .ok (some (mapped s)) := by
  rw [builtinMapping, ofValue]
  rfl

theorem plainType_of_category {text : String} {isConst : Bool} {bare : List Char}
    (h : (plainType text isConst bare).category = .builtin) :
    ∃ b, builtin? (String.ofList bare) = some b ∧
      plainType text isConst bare = ⟨text, .builtin, some b.size, isConst, none⟩ := by
  unfold plainType at h ⊢
  cases hb : builtin? (String.ofList bare) with
  | some b => exact ⟨b, rfl, rfl⟩
  | none =>
    rw [hb] at h
    dsimp only at h
    split at h <;> exact absurd h (by simp)

/-- A spelling alone is read as a fundamental type if the table knows it once it is squeezed and freed
from const. -/
theorem SpelledBuiltin.exists_eq (h : SpelledBuiltin s t) :
    ∃ b, builtin? (String.ofList (bareSpelling (squeeze s.toList))) = some b ∧
      t = ⟨squeezed s, .builtin, some b.size, hasConstMark (squeeze s.toList), none⟩ := by
  obtain ⟨hread, hcategory⟩ := h
  obtain ⟨-, rfl⟩ | ⟨-, hform⟩ := unknown_or_formOf hread
  · cases hcategory
  · cases hform with
    | plain => exact plainType_of_category hcategory
    | _ => cases hcategory

/-- The table knows the spelling without const of what is read as a fundamental type, and has its
size. -/
theorem SpelledBuiltin.exists_builtin (h : SpelledBuiltin s t) :
    ∃ b, builtin? t.base = some b ∧ t.size = some b.size := by
  obtain ⟨b, hb, hs⟩ := h.exists_eq
  have hplain := (plainSpelling_of_builtin? hb).squeezed
  rw [String.toList_ofList] at hplain
  have hbase : t.base = String.ofList (bareSpelling (squeeze s.toList)) := by
    rw [hs, base, squeezed, String.toList_ofList, withoutConst, ← squeeze_trim, ← bareSpelling, hplain]
  exact ⟨b, hbase ▸ hb, by rw [hs]⟩

/-- A spelling that the table knows is read as a fundamental type that is spelled so. -/
theorem ofSpelling_of_builtin? (hs : builtin? s = some b) :
    ofSpelling s = .ok ⟨s, .builtin, some b.size, false, none⟩ := by
  have hplain := plainSpelling_of_builtin? hs
  have hsqueeze := hplain.squeezed
  rw [ofSpelling, ofChars_eq (hsqueeze.symm ▸ hplain.nonempty) (hsqueeze.symm ▸ hplain.known), hsqueeze,
    hplain.bare, hplain.unmarked, ofBare, hplain.outer, String.ofList_toList]
  dsimp only
  rw [plainType, String.ofList_toList, hs]

/-- The text has the sum of its form without const, whatever it is read as. -/
theorem letterSum_base (t : CppType) : letterSum t.base.toList = letterSum t.spelling.toList := by
  rw [base, String.toList_ofList, letterSum_withoutConst]

/-- The table knows the spelling of the mapping without const only if that is the one of the other
reading. -/
theorem base_eq_of_builtin? (h : SpelledBuiltin s t)
    (hb : builtin? (mapped s).base = some b) : (mapped s).base = t.base := by
  obtain ⟨b', hb', -⟩ := h.exists_builtin
  refine letterSum_injective _ (mem_builtinNames hb) _ (mem_builtinNames hb') ?_
  rw [letterSum_base, letterSum_base, spelling_of_ofChars h.read, String.toList_ofList,
    letterSum_squeeze]
  rfl

/-- What the table knows is spelled without const. -/
theorem base_of_builtin? (hread : ofSpelling s = .ok t) (hs : builtin? s = some b) : t.base = s := by
  obtain rfl := Except.ok.inj (hread.symm.trans (ofSpelling_of_builtin? hs))
  rw [base, (plainSpelling_of_builtin? hs).constFree, String.ofList_toList]

/-- The mapping has no size if there is something to leave out. -/
theorem size_mapped_of_ne (hread : ofSpelling s = .ok t) (hs : s ≠ t.base) :
    (mapped s).size = none := by
  cases hb : builtin? s with
  | none => rw [mapped, hb]; rfl
  | some b => exact absurd (base_of_builtin? hread hb).symm hs

section Agreement

variable (h : SpelledBuiltin s t)
include h

/-- The readings are the same type if there is nothing to leave out. -/
theorem mapped_eq_of_base (hs : s = t.base) : mapped s = t := by
  obtain ⟨b, hb, -⟩ := h.exists_builtin
  rw [← hs] at hb
  obtain rfl := Except.ok.inj (h.read.symm.trans (ofSpelling_of_builtin? hb))
  rw [mapped, hb]
  rfl

theorem size_mapped_eq_iff : (mapped s).size = t.size ↔ s = t.base := by
  refine ⟨fun hsize => ?_, fun hs => by rw [mapped_eq_of_base h hs]⟩
  by_contra hs
  obtain ⟨b, -, hb⟩ := h.exists_builtin
  rw [size_mapped_of_ne h.read hs, hb] at hsize
  cases hsize

/-- What depends on the form without const and holds of fundamental types only has the same answer for
both readings, unless it holds of the one and the other has another such form. -/
theorem agree_iff_base_eq {ask : CppType → Bool}
    (hbase : ∀ t u : CppType, t.category = u.category → t.base = u.base → ask t = ask u)
    (hknown : ∀ t, ask t = true → ∃ b, builtin? t.base = some b) :
    ask (mapped s) = ask t ↔
      (ask t = true → (mapped s).base = t.base) := by
  have hsame : (mapped s).base = t.base → ask (mapped s) = ask t :=
    hbase _ _ h.category.symm
  constructor
  · intro hagree hasked
    obtain ⟨b, hb⟩ := hknown _ (hagree.trans hasked)
    exact base_eq_of_builtin? h hb
  · intro hbases
    cases hasked : ask t with
    | true => rw [← hasked, hsame (hbases hasked)]
    | false =>
      refine Bool.eq_false_iff.2 fun hmapped => ?_
      obtain ⟨b, hb⟩ := hknown _ hmapped
      rw [hsame (base_eq_of_builtin? h hb), hasked] at hmapped
      cases hmapped

theorem isIntegral_mapped_eq_iff : (mapped s).isIntegral = t.isIntegral ↔
    (t.isIntegral = true → (mapped s).base = t.base) := by
  refine agree_iff_base_eq h (fun t u hcategory hbase => ?_) fun t ht => ?_
  · rw [isIntegral, isIntegral, hcategory, hbase]
  · rw [isIntegral, Bool.and_eq_true] at ht
    cases hb : builtin? t.base with
    | none => simp [hb] at ht
    | some b => exact ⟨b, rfl⟩

theorem isSignedIntegral_mapped_eq_iff :
    (mapped s).isSignedIntegral = t.isSignedIntegral ↔
      (t.isSignedIntegral = true → (mapped s).base = t.base) := by
  refine agree_iff_base_eq h (fun t u hcategory hbase => ?_) fun t ht => ?_
  · rw [isSignedIntegral, isSignedIntegral, isIntegral, isIntegral, hcategory, hbase]
  · rw [isSignedIntegral, Bool.and_eq_true, Bool.and_eq_true] at ht
    cases hb : builtin? t.base with
    | none => simp [hb] at ht
    | some b => exact ⟨b, rfl⟩

/-- Copies of the mapping are never worth avoiding if there is something to leave out. -/
theorem isNonTrivial_mapped_eq_iff (threshold : Value) :
    (mapped s).isNonTrivial threshold = t.isNonTrivial threshold ↔
      s = t.base ∨ t.isNonTrivial threshold = .ok false := by
  by_cases hs : s = t.base
  · simp only [mapped_eq_of_base h hs, hs.symm, true_or]
  · have htrivial : (mapped s).isNonTrivial threshold = .ok false := by
      rw [isNonTrivial, size_mapped_of_ne h.read hs]
      rfl
    rw [htrivial, eq_comm]
    simp [hs]

end Agreement

/-- Squeezed spellings have the same form without const in both readings. -/
theorem base_mapped_of_squeezed (hread : ofSpelling s = .ok t) (hs : squeezed s = s) :
    (mapped s).base = t.base := by
  rw [base, base, spelling_of_ofChars hread]
  change _ = String.ofList (withoutConst (squeezed s).toList)
  rw [hs]
  rfl

end CppType

/-! ## §4 What the rules make of them -/

/-- The same violation, in whatever words. -/
def SameViolation (f f' : Finding) : Prop := f'.rule = f.rule ∧ f'.severity = f.severity ∧ f'.span = f.span

/-- Both inspections report the same violations, or fail for the same reason. -/
abbrev JudgedAlike : Except Error (List Finding) → Except Error (List Finding) → Prop :=
  Agree (List.Forall₂ SameViolation)

/-- The second node has the type that the first one spells as a mapping, and all else in common. -/
structure Node.Restated (s : String) (n n' : Node) : Prop where
  kind : n'.kind = n.kind
  span : n'.span = n.span
  children : n'.children = n.children
  spelled : n.attr "type" = .str s
  mapped : n'.attr "type" = builtinMapping s
  others : ∀ key, key ≠ "type" → n'.attr key = n.attr key

section Rules

variable {s : String} {t : CppType} {n n' : Node}

theorem sameViolations_refl (findings : List Finding) : List.Forall₂ SameViolation findings findings :=
  List.forall₂_same.2 fun _ _ => ⟨rfl, rfl, rfl⟩

theorem judgedAlike_refl (x : Except Error (List Finding)) : JudgedAlike x x := by
  cases x with
  | error e => exact .error e
  | ok findings => exact .ok (sameViolations_refl findings)

theorem judgedAlike_nil : JudgedAlike (pure []) (pure []) := judgedAlike_refl _

theorem judgedAlike_unless {p : Prop} [Decidable p] {x y : Except Error (List Finding)}
    (h : JudgedAlike x y) : JudgedAlike (if p then pure [] else x) (if p then pure [] else y) := by
  split
  · exact judgedAlike_nil
  · exact h

theorem sameViolation_of_span (rule : Rule) (hspan : n'.span = n.span) (message message' : String) :
    SameViolation (rule.finding n message) (rule.finding n' message') := ⟨rfl, rfl, hspan⟩

theorem judgedAlike_one (rule : Rule) (hspan : n'.span = n.span) (message message' : String) :
    JudgedAlike (pure [rule.finding n message]) (pure [rule.finding n' message']) :=
  .ok (.cons (sameViolation_of_span rule hspan message message') .nil)

namespace Node.Restated

variable (h : n.Restated s n')
include h

theorem has_eq {key : String} (hkey : key ≠ "type") : n'.has key = n.has key := by
  rw [Node.has, Node.has, h.others key hkey]

theorem denies_eq {key : String} (hkey : key ≠ "type") : n'.denies key = n.denies key := by
  unfold Node.denies
  rw [h.others key hkey]

theorem properName?_eq : n'.properName? = n.properName? := by
  unfold Node.properName? Node.name?
  rw [h.others "name" (by decide)]

/-- Whether the types are known does not depend on the notation. -/
theorem knownType_cases (hs : CppType.SpelledBuiltin s t) :
    (n.knownType = .ok none ∧ n'.knownType = .ok none) ∨
      (n.knownType = .ok (some t) ∧ n'.knownType = .ok (some (CppType.mapped s))) := by
  have hresolved : t.resolved = true := by rw [CppType.resolved, hs.category]; rfl
  rw [Node.knownType_eq, Node.knownType_eq n', h.denies_eq (by decide), Node.typeAt, Node.typeAt,
    Node.typeOf, Node.typeOf, h.spelled, h.mapped, CppType.ofValue_str, hs.read,
    CppType.ofValue_builtinMapping]
  cases n.denies "resolved" with
  | true => exact .inl ⟨rfl, rfl⟩
  | false => exact .inr ⟨by simp [Except.mapError, Except.map, Option.filter, hresolved], rfl⟩

/-- Parameters that are copied: the rule asks whether their copies are worth avoiding. -/
theorem copiedParameter (hs : CppType.SpelledBuiltin s t) {threshold : Value}
    (hsame : (CppType.mapped s).isNonTrivial threshold = t.isNonTrivial threshold)
    (path : List Step) : JudgedAlike ((Rules.copiedParameter threshold).inspect ⟨n, path⟩)
      ((Rules.copiedParameter threshold).inspect ⟨n', path⟩) := by
  have hdefinition : belongsToDefinition ⟨n', path⟩ = belongsToDefinition ⟨n, path⟩ := rfl
  have hcategory : (CppType.mapped s).category = .builtin := rfl
  simp only [Rules.copiedParameter, hdefinition, h.denies_eq (show "is_modified" ≠ "type" by decide),
    h.has_eq (show "moved_from" ≠ "type" by decide)]
  refine judgedAlike_unless (judgedAlike_unless ?_)
  obtain ⟨hn, hn'⟩ | ⟨hn, hn'⟩ := h.knownType_cases hs
  · rw [hn, hn']
    exact judgedAlike_nil
  · simp only [hn, hn', bind, Except.bind, hs.category, hcategory, hsame]
    refine judgedAlike_unless ?_
    cases (t.isNonTrivial threshold).mapError Error.fault with
    | error e => exact .error e
    | ok worthIt => exact judgedAlike_unless (judgedAlike_one _ h.span _ _)

/-- Elements that a loop copies. -/
theorem copyingLoop (hs : CppType.SpelledBuiltin s t) {threshold : Value}
    (hsame : (CppType.mapped s).isNonTrivial threshold = t.isNonTrivial threshold)
    {c c' : Cursor} (hc : c.node.child? "binding" = some n) (hc' : c'.node.child? "binding" = some n')
    (hbody : c'.node.child? "body" = c.node.child? "body") :
    JudgedAlike ((Rules.copyingLoop threshold).inspect c) ((Rules.copyingLoop threshold).inspect c') := by
  have hcategory : (CppType.mapped s).category = .builtin := rfl
  have hmodified : ∀ name, isModified n' (c.node.child? "body") name =
      isModified n (c.node.child? "body") name := fun name => by
    unfold isModified
    rw [h.others "is_modified" (by decide)]
  simp only [Rules.copyingLoop, hc, hc', hbody, h.has_eq (show "by_reference" ≠ "type" by decide),
    h.properName?_eq, hmodified]
  refine judgedAlike_unless ?_
  obtain ⟨hn, hn'⟩ | ⟨hn, hn'⟩ := h.knownType_cases hs
  · rw [hn, hn']
    exact judgedAlike_nil
  · simp only [hn, hn', bind, Except.bind, hs.category, hcategory, hsame]
    refine judgedAlike_unless ?_
    cases (t.isNonTrivial threshold).mapError Error.fault with
    | error e => exact .error e
    | ok worthIt =>
      refine judgedAlike_unless ?_
      cases n.properName? with
      | none => exact judgedAlike_nil
      | some name => exact judgedAlike_unless (judgedAlike_one _ h.span _ _)

/-- Indices: the rule asks whether their type is a signed integer. -/
theorem signedIndex (hs : CppType.SpelledBuiltin s t)
    (hsame : (CppType.mapped s).isSignedIntegral = t.isSignedIntegral)
    {c c' : Cursor} (hc : c.node.peeled? "index" = some n) (hc' : c'.node.peeled? "index" = some n')
    (hcontainer : c'.node.peeled? "container" = c.node.peeled? "container") :
    JudgedAlike (Rules.signedIndex.inspect c) (Rules.signedIndex.inspect c') := by
  simp only [Rules.signedIndex, hc, hc', hcontainer, h.kind]
  refine judgedAlike_unless ?_
  obtain ⟨hn, hn'⟩ | ⟨hn, hn'⟩ := h.knownType_cases hs
  · rw [hn, hn']
    exact judgedAlike_nil
  · simp only [hn, hn', bind, Except.bind, hsame]
    refine judgedAlike_unless ?_
    cases mayBeObject (c.node.peeled? "container") with
    | error e => exact .error e
    | ok object => exact judgedAlike_unless (judgedAlike_one _ h.span _ _)

end Node.Restated

/-- The second call has one parameter type as a mapping that the first one spells. -/
structure Node.OverloadRestated (s : String) (n n' : Node) : Prop where
  children : n'.children = n.children
  overload : ∃ overload overload' before after,
    n.attr "overload" = .map overload ∧ n'.attr "overload" = .map overload' ∧
    calleeName overload' n' = calleeName overload n ∧
    Entries.find overload "parameter_types" = .list (before ++ .str s :: after) ∧
    Entries.find overload' "parameter_types" = .list (before ++ builtinMapping s :: after)

theorem parameterType_eq (hs : CppType.SpelledBuiltin s t) :
    parameterType (.str s) = .ok (some t) ∧
      parameterType (builtinMapping s) = .ok (some (CppType.mapped s)) := by
  have hresolved : t.resolved = true := by rw [CppType.resolved, hs.category]; rfl
  rw [parameterType, parameterType, CppType.ofValue_str, hs.read,
    CppType.ofValue_builtinMapping]
  exact ⟨by simp [Except.map, Except.mapError, bind, Except.bind, pure, Except.pure, Option.filter,
    hresolved], rfl⟩

/-- Arguments are judged alike up to the parameter that is given in two notations, and behind it. -/
theorem nullFindings_restated (hs : CppType.SpelledBuiltin s t)
    (hsame : (CppType.mapped s).isIntegral = t.isIntegral) (callee : String)
    (position : Nat) (arguments : List Node) (before after : List Value) :
    JudgedAlike (nullFindings callee position arguments (before ++ .str s :: after))
      (nullFindings callee position arguments (before ++ builtinMapping s :: after)) := by
  induction arguments generalizing position before with
  | nil => exact judgedAlike_nil
  | cons n arguments ih =>
    cases before with
    | nil =>
      obtain ⟨ht, hm⟩ := parameterType_eq hs
      rw [List.nil_append, List.nil_append, nullFindings, nullFindings, ht, hm]
      refine .bind_same _ fun isNull => ?_
      split
      · simp only [bind, Except.bind]
        cases nullFindings callee (position + 1) arguments after with
        | error e => exact .error e
        | ok found =>
          by_cases hintegral : t.isIntegral = true
          · simp only [Option.filter, hsame, hintegral]
            exact .ok (.cons (sameViolation_of_span _ rfl _ _) (sameViolations_refl found))
          · simp only [Option.filter, hsame, hintegral]
            exact .ok (sameViolations_refl found)
      · exact judgedAlike_refl _
    | cons p before =>
      rw [List.cons_append, List.cons_append, nullFindings, nullFindings]
      refine .bind_same _ fun isNull => ?_
      split
      · refine .bind_same _ fun t => (ih _ _).bind fun rest rest' hrest => ?_
        split
        · exact .ok (.cons (sameViolation_of_span _ rfl _ _) hrest)
        · exact .ok hrest
      · exact ih _ _

theorem Node.OverloadRestated.nullArgument (h : n.OverloadRestated s n')
    (hs : CppType.SpelledBuiltin s t)
    (hsame : (CppType.mapped s).isIntegral = t.isIntegral) (path : List Step) :
    JudgedAlike (Rules.nullArgument.inspect ⟨n, path⟩) (Rules.nullArgument.inspect ⟨n', path⟩) := by
  obtain ⟨overload, overload', before, after, ho, ho', hcallee, htypes, htypes'⟩ := h.overload
  have harguments : n'.childrenOf "arguments" = n.childrenOf "arguments" := by
    rw [Node.childrenOf, Node.childrenOf, h.children]
  simp only [Rules.nullArgument, harguments, ho, ho', htypes, htypes', hcallee, bind, Except.bind]
  cases anyNullMacro (n.childrenOf "arguments") with
  | error e => exact .error e
  | ok any => exact judgedAlike_unless (nullFindings_restated hs hsame _ _ _ _ _)

end Rules

/-! ## §5 The two notations -/

/-- A spelling that is read as a fundamental type has the size that the table gives for its form without
const. The mapping of the spelling has this size exactly if the spelling is that form, and else none; in
the first case the readings are the same type. They agree on being integral, and on being signed, exactly
if the mapping has that form as well or it does not matter, which is so for every squeezed spelling. They
agree on whether copies are worth avoiding exactly if the sizes agree or the copies are not. A declaration
is judged alike in both notations by the rules that ask these questions. -/
theorem builtin_notations_agree (s : String) (t : CppType) (ht : CppType.ofSpelling s = .ok t)
    (h : t.category = .builtin) :
    let m := CppType.mapped s
    (CppType.ofValue (.str s) = .ok (some t) ∧ CppType.ofValue (builtinMapping s) = .ok (some m)) ∧
    (∃ b, builtin? t.base = some b ∧ t.size = some b.size) ∧
    (m.size = t.size ↔ s = t.base) ∧ (s ≠ t.base → m.size = none) ∧ (s = t.base → m = t) ∧
    (m.isIntegral = t.isIntegral ↔ (t.isIntegral = true → m.base = t.base)) ∧
    (m.isSignedIntegral = t.isSignedIntegral ↔ (t.isSignedIntegral = true → m.base = t.base)) ∧
    (squeezed s = s → m.base = t.base) ∧
    (∀ threshold, m.isNonTrivial threshold = t.isNonTrivial threshold ↔
      s = t.base ∨ t.isNonTrivial threshold = .ok false) ∧
    (∀ n n' : Node, n.Restated s n' →
      (∀ threshold, m.isNonTrivial threshold = t.isNonTrivial threshold →
        (∀ path, JudgedAlike ((copiedParameter threshold).inspect ⟨n, path⟩)
          ((copiedParameter threshold).inspect ⟨n', path⟩)) ∧
        ∀ c c' : Cursor, c.node.child? "binding" = some n → c'.node.child? "binding" = some n' →
          c'.node.child? "body" = c.node.child? "body" →
          JudgedAlike ((copyingLoop threshold).inspect c) ((copyingLoop threshold).inspect c')) ∧
      (m.isSignedIntegral = t.isSignedIntegral →
        ∀ c c' : Cursor, c.node.peeled? "index" = some n → c'.node.peeled? "index" = some n' →
          c'.node.peeled? "container" = c.node.peeled? "container" →
          JudgedAlike (signedIndex.inspect c) (signedIndex.inspect c'))) ∧
    ∀ n n' : Node, n.OverloadRestated s n' → m.isIntegral = t.isIntegral →
      ∀ path, JudgedAlike (nullArgument.inspect ⟨n, path⟩) (nullArgument.inspect ⟨n', path⟩) := by
  intro m
  have hs : CppType.SpelledBuiltin s t := ⟨ht, h⟩
  have hvalue : CppType.ofValue (.str s) = .ok (some t) := by
    rw [CppType.ofValue_str, ht]
    rfl
  refine ⟨⟨hvalue, CppType.ofValue_builtinMapping s⟩, hs.exists_builtin,
    CppType.size_mapped_eq_iff hs, CppType.size_mapped_of_ne ht, CppType.mapped_eq_of_base hs,
    CppType.isIntegral_mapped_eq_iff hs, CppType.isSignedIntegral_mapped_eq_iff hs,
    CppType.base_mapped_of_squeezed ht, CppType.isNonTrivial_mapped_eq_iff hs,
    fun n n' hn => ⟨?_, ?_⟩, ?_⟩
  · intro threshold hsame
    exact ⟨hn.copiedParameter hs hsame, fun c c' hc hc' hbody => hn.copyingLoop hs hsame hc hc' hbody⟩
  · intro hsame c c' hc hc' hcontainer
    exact hn.signedIndex hs hsame hc hc' hcontainer
  · intro n n' hn hsame path
    exact hn.nullArgument hs hsame path

theorem ofSpelling_const_long : CppType.ofSpelling "const long" =
    .ok ⟨"const long", .builtin, some 8, true, none⟩ := by
  rw [CppType.ofSpelling, CppType.ofChars_eq (by decide) (by decide)]
  rfl

/-- An index of type const long is reported in both notations, but only one of them has its size. -/
theorem notations_of_const_long :
    let place : Span := ⟨"a.cpp", 3, 3, 3, 9⟩
    let index (type : Value) : Node :=
      ⟨.declRefExpr, place, [(.str "name", .str "i"), (.str "type", type)], []⟩
    let access (type : Value) : Cursor :=
      Cursor.root ⟨.containerIndexExpr, place, [], [("index", index type)]⟩
    let spelled : Value := .str "const long"
    let t : CppType := ⟨"const long", .builtin, some 8, true, none⟩
    CppType.ofSpelling "const long" = .ok t ∧ t.category = .builtin ∧
      (CppType.mapped "const long").size = none ∧
      JudgedAlike (signedIndex.inspect (access spelled))
        (signedIndex.inspect (access (builtinMapping "const long"))) := by
  intro place index access spelled t
  have hbase : t.base = "long" := by decide
  have hrestated : (index spelled).Restated "const long" (index (builtinMapping "const long")) := by
    refine ⟨rfl, rfl, rfl, rfl, rfl, fun key hkey => ?_⟩
    simp [index, Node.attr, Entries.find, Entries.get?, hkey.symm]
  have hindex : ∀ type, (access type).node.peeled? "index" = some (index type) := fun type =>
    congrArg some (Node.peel_of_wrapped?_eq_none rfl)
  obtain ⟨-, -, -, hsize, -, -, hsigned, hsqueezed, -, hrules, -⟩ :=
    builtin_notations_agree "const long" t ofSpelling_const_long rfl
  obtain ⟨-, hindices⟩ := hrules _ _ hrestated
  refine ⟨ofSpelling_const_long, rfl, hsize (by rw [hbase]; decide), ?_⟩
  exact hindices (hsigned.2 fun _ => hsqueezed (by decide)) _ _ (hindex _) (hindex _) rfl

/-- The mapping of a constant integer has no size, so that a copied parameter of this type is larger than
two bytes in one notation only. -/
theorem const_int_mapping_has_no_size :
    let parameter (type : Value) : Node := ⟨.parameterDecl, ⟨"a.cpp", 1, 8, 1, 19⟩,
      [(.str "name", .str "n"), (.str "type", type), (.str "is_modified", .bool false)], []⟩
    let body : Node := ⟨.compoundStatement, ⟨"a.cpp", 1, 21, 1, 23⟩, [], []⟩
    let function (type : Value) : Node := ⟨.functionDecl, ⟨"a.cpp", 1, 1, 1, 23⟩, [],
      [("parameters", parameter type), ("body", body)]⟩
    let c (type : Value) : Cursor := ⟨parameter type, [⟨function type, "parameters", 0⟩]⟩
    let spelled : Value := .str "const int"
    CppType.ofValue spelled = .ok (some ⟨"const int", .builtin, some 4, true, none⟩) ∧
      CppType.ofValue (builtinMapping "const int") =
        .ok (some ⟨"const int", .builtin, none, false, none⟩) ∧
      (copiedParameter (.int 2)).inspect (c spelled) = .ok [copiedParameterRule.finding (parameter spelled)
        "parameter 'n' copies a 'const int' on every call; pass it as 'const int&'"] ∧
      (copiedParameter (.int 2)).inspect (c (builtinMapping "const int")) = .ok [] := by
  intro parameter body function c spelled
  have hspelled : CppType.ofValue spelled = .ok (some ⟨"const int", .builtin, some 4, true, none⟩) := by
    rw [CppType.ofValue_str, CppType.ofSpelling, CppType.ofChars_eq (by decide) (by decide)]
    rfl
  have hmapped : CppType.ofValue (builtinMapping "const int") =
      .ok (some ⟨"const int", .builtin, none, false, none⟩) := CppType.ofValue_builtinMapping "const int"
  have hknown : ∀ (type : Value) (t : CppType), CppType.ofValue type = .ok (some t) →
      t.resolved = true → (c type).node.knownType = .ok (some t) := by
    intro type t ht hresolved
    have hattr : (c type).node.attr "type" = type := rfl
    have hdenies : (c type).node.denies "resolved" = false := rfl
    rw [Node.knownType_eq, hdenies, if_neg Bool.false_ne_true, Node.typeAt, Node.typeOf, hattr, ht]
    simp [Except.mapError, Except.map, Option.filter, hresolved]
  refine ⟨hspelled, hmapped, ?_, ?_⟩
  · have hs := hknown _ _ hspelled rfl
    simp only [copiedParameter, hs, bind, Except.bind]
    rfl
  · have hm := hknown _ _ hmapped rfl
    simp only [copiedParameter, hm, bind, Except.bind]
    rfl

end CppIdioms
