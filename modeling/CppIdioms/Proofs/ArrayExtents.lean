import CppIdioms.Proofs.TypeShorthand
import CppIdioms.Rule.RawArray
import Mathlib.Algebra.BigOperators.Group.List.Basic
import Mathlib.Data.List.Induction
import Mathlib.Tactic.Ring

/-!
# Arrays of arrays

The spelling of an array of arrays has one pair of brackets for each dimension, the outermost first.
The reader takes the last pair for the outermost extent, and so does the rule that suggests a standard
array. Both take the same pair, and the size of the whole comes out right, but the element and the
suggestion are those of the declaration only if all extents are the same, as they are with one
dimension. An array is read if none of its extents has too many digits.

## Contents

* `brackets`, `arrayOf`: spellings of arrays with any number of extents.
* `standardArray`: the standard array of an element and an extent.
* `Cursor.DeclaresWith`: declarations of a function or record with a type given by its spelling.

## Main statements

* `CppType.ofChars_brackets_cases`: the arrays that are read, and the size of all their elements.
* `ofSpelling_arrayOf`: the type that an array of arrays is read as.
* `tail_eq_dropLast_iff`: leaving out the first extent and the last one.
* `last_extent_is_read_first`: the reading and the suggestion, and when they are those of the
  declaration.
-/

namespace CppIdioms

open CppIdioms.Text CppIdioms.Rules

/-! ## §1 Extents -/

/-- The extents, each in decimal digits and in brackets. -/
def brackets (extents : List Nat) : List Char :=
  extents.flatMap fun n => '[' :: (Nat.toDigits 10 n ++ [']'])

/-- The spelling of an array of elements of a given spelling. -/
def arrayOf (element : String) (extents : List Nat) : String :=
  String.ofList (element.toList ++ brackets extents)

theorem toList_arrayOf (element : String) (extents : List Nat) :
    (arrayOf element extents).toList = element.toList ++ brackets extents := by
  rw [arrayOf, String.toList_ofList]

theorem brackets_cons (n : Nat) (extents : List Nat) :
    brackets (n :: extents) = '[' :: (Nat.toDigits 10 n ++ ']' :: brackets extents) := by
  simp [brackets]

theorem brackets_concat (extents : List Nat) (n : Nat) :
    brackets (extents ++ [n]) = brackets extents ++ '[' :: (Nat.toDigits 10 n ++ [']']) := by
  simp [brackets]

theorem digits_toDigits (n : Nat) : ∀ d ∈ Nat.toDigits 10 n, isDigit d = true := fun _ =>
  isDigit_of_mem_toDigits

theorem toDigits_inj {m n : Nat} (h : Nat.toDigits 10 m = Nat.toDigits 10 n) : m = n := by
  rw [← decimalNat_toDigits m, h, decimalNat_toDigits]

/-- Texts are cut at the first occurrence of a character in one way. -/
theorem append_cons_inj_of_first {α : Type*} {c : α} {u v u' v' : List α} (hu : c ∉ u) (hu' : c ∉ u')
    (h : u ++ c :: v = u' ++ c :: v') : u = u' ∧ v = v' := by
  induction u generalizing u' with
  | nil =>
    cases u' with
    | nil => exact ⟨rfl, (List.cons.inj h).2⟩
    | cons d u' =>
      obtain ⟨rfl, -⟩ := List.cons.inj h
      simp at hu'
  | cons d u ih =>
    cases u' with
    | nil =>
      obtain ⟨rfl, -⟩ := List.cons.inj h
      simp at hu
    | cons e u' =>
      obtain ⟨rfl, hrest⟩ := List.cons.inj h
      obtain ⟨rfl, rfl⟩ := ih (mt (List.mem_cons_of_mem _) hu) (mt (List.mem_cons_of_mem _) hu') hrest
      exact ⟨rfl, rfl⟩

theorem close_not_mem_toDigits (n : Nat) : ']' ∉ Nat.toDigits 10 n := fun hmem =>
  absurd (digits_toDigits n _ hmem) (by decide)

/-- Extents are told from their spelling. -/
theorem brackets_injective {extents extents' : List Nat} (h : brackets extents = brackets extents') :
    extents = extents' := by
  induction extents generalizing extents' with
  | nil =>
    cases extents' with
    | nil => rfl
    | cons n extents' =>
      rw [brackets_cons] at h
      cases h
  | cons n extents ih =>
    cases extents' with
    | nil =>
      rw [brackets_cons] at h
      cases h
    | cons m extents' =>
      rw [brackets_cons, brackets_cons] at h
      obtain ⟨hdigits, hrest⟩ := append_cons_inj_of_first (close_not_mem_toDigits n)
        (close_not_mem_toDigits m) (List.cons.inj h).2
      rw [toDigits_inj hdigits, ih hrest]

/-- Without its first item a list is what it is without its last one exactly if all items are the
same. -/
theorem tail_eq_dropLast_iff {α : Type*} {items : List α} :
    items.tail = items.dropLast ↔ ∀ a ∈ items, ∀ b ∈ items, a = b := by
  induction items with
  | nil => simp
  | cons a items ih =>
    cases items with
    | nil => simp
    | cons b items =>
      have hsame : (b :: items = a :: (b :: items).dropLast) ↔ b = a ∧ items = (b :: items).dropLast :=
        List.cons_eq_cons
      rw [List.tail_cons, List.dropLast_cons_cons, hsame]
      constructor
      · rintro ⟨rfl, hrest⟩
        have hall := ih.1 hrest
        simpa using hall
      · intro hall
        refine ⟨hall b (by simp) a (by simp), ih.2 fun x hx y hy => ?_⟩
        exact hall x (List.mem_cons_of_mem a hx) y (List.mem_cons_of_mem a hy)

/-! ## §2 Reading -/

section Reading

variable {cs : List Char}

theorem ConstFree.append_brackets (h : ConstFree cs) (extents : List Nat) :
    ConstFree (cs ++ brackets extents) := by
  induction extents using List.reverseRecOn with
  | nil => simpa [brackets] using h
  | append_singleton extents n ih =>
    rw [brackets_concat, ← List.append_assoc]
    exact ih.bracketed (digits_toDigits n)

theorem no_blank_extents (extents : List Nat) : ∀ c ∈ brackets extents, isBlank c = false := by
  intro c hc
  obtain ⟨n, -, hc⟩ := List.mem_flatMap.1 hc
  exact no_blank_brackets (digits_toDigits n) c hc

/-- Only a blank between the elements and the extents is left besides them. -/
theorem squeeze_append_brackets (cs : List Char) : ∃ g, ∀ extents : List Nat, extents ≠ [] →
    squeeze (cs ++ brackets extents) = squeeze cs ++ (g ++ brackets extents) := by
  obtain ⟨g, -, hcut⟩ := exists_gap false false cs
  refine ⟨g, fun extents hextents => hcut _ ?_ (no_blank_extents extents)⟩
  obtain ⟨n, rest, rfl⟩ := List.exists_cons_of_ne_nil hextents
  rw [brackets_cons]
  exact List.cons_ne_nil _ _

/-- Extents are told from the squeezed spelling. -/
theorem squeeze_append_brackets_inj {extents extents' : List Nat}
    (h : squeeze (cs ++ brackets extents) = squeeze (cs ++ brackets extents')) :
    extents = extents' := by
  obtain ⟨g, hcut⟩ := squeeze_append_brackets cs
  have hnone {extents : List Nat} (h : squeeze cs = squeeze cs ++ (g ++ brackets extents)) :
      extents = [] := by
    have hnil := List.append_right_eq_self.1 h.symm
    exact brackets_injective (List.append_eq_nil_iff.1 hnil).2
  have hbare : squeeze (cs ++ brackets []) = squeeze cs := by simp [brackets]
  by_cases hnil : extents = []
  · by_cases hnil' : extents' = []
    · rw [hnil, hnil']
    · rw [hnil, hbare, hcut _ hnil'] at h
      rw [hnil, hnone h]
  · rw [hcut _ hnil] at h
    by_cases hnil' : extents' = []
    · rw [hnil', hbare] at h
      rw [hnil', hnone h.symm]
    · rw [hcut _ hnil', List.append_cancel_left_eq, List.append_cancel_left_eq] at h
      exact brackets_injective h

namespace CppType

theorem ofChars_brackets_concat (h : ConstFree cs) (extents : List Nat) (n : Nat) :
    ofChars (cs ++ brackets (extents ++ [n])) =
      (ofChars (cs ++ brackets extents)).bind fun t =>
        (arraySize t (Nat.toDigits 10 n)).map fun size =>
          ⟨String.ofList (squeeze (cs ++ brackets (extents ++ [n]))), .array, size, false, some t⟩ := by
  rw [brackets_concat, ← List.append_assoc]
  exact ofChars_brackets (h.append_brackets extents) (digits_toDigits n)

theorem arraySize_toDigits {n : Nat} (h : n < 10 ^ digitLimit) (t : CppType) :
    arraySize t (Nat.toDigits 10 n) = .ok (t.size.map ((n : Int) * ·)) := by
  rw [arraySize_of_fits (length_toDigits_le_digitLimit.2 h), if_neg (by simp [Nat.toDigits_ne_nil]),
    decimalNat_toDigits]
  simp only [Int.mul_comm]

/-- The elements of an array and all its extents can be read. -/
def ReadableArray (cs : List Char) (extents : List Nat) : Prop :=
  ExtentsFit cs ∧ ∀ n ∈ extents, n < 10 ^ digitLimit

/-- An array is read if its elements and all its extents can be, and its size is that of all elements of
all dimensions; else there is one way to fail. -/
theorem ofChars_brackets_cases (h : ConstFree cs) (extents : List Nat) :
    (ReadableArray cs extents ∧ ∃ e t, ofChars cs = .ok e ∧ ofChars (cs ++ brackets extents) = .ok t ∧
      t.size = e.size.map ((extents.prod : Int) * ·)) ∨
    (¬ ReadableArray cs extents ∧ ofChars (cs ++ brackets extents) = .error .badValue) := by
  induction extents using List.reverseRecOn with
  | nil =>
    have hnone : cs ++ brackets [] = cs := List.append_nil cs
    rw [hnone]
    obtain ⟨hfit, e, he⟩ | ⟨hlong, herror⟩ := ofChars_cases cs
    · exact .inl ⟨⟨hfit, List.forall_mem_nil _⟩, e, e, he, he, by simp⟩
    · exact .inr ⟨fun hread => hlong hread.1, herror⟩
  | append_singleton extents n ih =>
    have hsplit : ReadableArray cs (extents ++ [n]) ↔
        ReadableArray cs extents ∧ n < 10 ^ digitLimit := by
      simp only [ReadableArray, List.forall_mem_append, List.forall_mem_singleton, and_assoc]
    rw [hsplit, ofChars_brackets_concat h]
    obtain ⟨hread, e, t, he, ht, hsize⟩ | ⟨hlong, herror⟩ := ih
    · rw [ht, Except.bind]
      by_cases hn : n < 10 ^ digitLimit
      · have hproduct (size : Int) :
            (n : Int) * (extents.prod * size) = ((extents ++ [n]).prod : Nat) * size := by
          rw [List.prod_append, List.prod_singleton, Nat.cast_mul]
          ring
        refine .inl ⟨⟨hread, hn⟩, e, _, he, by rw [arraySize_toDigits hn]; rfl, ?_⟩
        dsimp only
        rw [hsize, Option.map_map]
        simp only [Function.comp_def, hproduct]
      · refine .inr ⟨fun hread => hn hread.2, ?_⟩
        rw [arraySize_of_long (mt length_toDigits_le_digitLimit.1 hn)]
        rfl
    · exact .inr ⟨fun hread => hlong hread.1, by rw [herror]; rfl⟩

end CppType

end Reading

/-! ## §3 Suggestions -/

/-- The standard array of an element and an extent. -/
def standardArray (element : String) (extent : Nat) : String :=
  "std::array<" ++ element ++ ", " ++ toString extent ++ ">"

theorem standardArray_inj {element element' : String} {n n' : Nat}
    (h : standardArray element n = standardArray element' n') : element = element' ∧ n = n' := by
  have hdigits (n : Nat) : ' ' ∉ (Nat.toDigits 10 n).reverse := fun hmem =>
    absurd (digits_toDigits n _ (List.mem_reverse.1 hmem)) (by decide)
  have hlists : (Nat.toDigits 10 n).reverse ++ ' ' :: ("std::array<" ++ element ++ ",").toList.reverse =
      (Nat.toDigits 10 n').reverse ++ ' ' :: ("std::array<" ++ element' ++ ",").toList.reverse := by
    have hlist := congrArg (List.reverse ∘ String.toList) h
    simpa [standardArray] using hlist
  obtain ⟨hn, helement⟩ := append_cons_inj_of_first (hdigits n) (hdigits n') hlists
  refine ⟨?_, toDigits_inj (List.reverse_inj.1 hn)⟩
  have hstrings := String.toList_inj.1 (List.reverse_inj.1 helement)
  simpa using hstrings

/-- What is said of a declared array for which another one is suggested. -/
def rawArrayMessage (n : Node) (t : CppType) (suggestion : String) : String :=
  let ofPointers := (t.element.map (·.category)) == some .pointer
  let form := if ofPointers then "an array of pointers" else "a raw array"
  "'" ++ n.nameOr "<anonymous>" ++ "' is " ++ form ++ (" (" ++ t.spelling ++ ")") ++ "; use "
    ++ suggestion

/-- A local or a member declares something of a type that is given by its spelling alone. -/
structure Cursor.Declares (c : Cursor) (spelling : String) : Prop where
  scope : c.scope = .inFunction ∨ c.scope = .inRecord
  notAdjusted : c.node.has "adjusted_parameter" = false
  noExtent : c.node.attr "extent" = .null
  type : c.node.attr "type" = .str spelling

/-- The extent that is suggested is that of the last brackets. -/
theorem finalExtent?_brackets (cs : List Char) {ds : List Char} (hne : ds ≠ [])
    (hds : ∀ d ∈ ds, isDigit d = true) :
    finalExtent? (String.ofList (cs ++ '[' :: (ds ++ [']']))) = some (String.ofList ds) := by
  obtain ⟨htake, hdrop⟩ := cut_digits hds cs.reverse
  have hclose : isBlank ']' = false := by decide
  rw [finalExtent?, String.toList_ofList, reverse_bracketed,
    List.dropWhile_cons_of_neg (by simp [hclose])]
  simp [hdrop, htake, hne]

theorem Cursor.Declares.typeAt_eq {c : Cursor} {text : String} {t : CppType} (hc : c.Declares text)
    (ht : CppType.ofSpelling text = .ok t) : c.node.typeAt "type" = .ok (some t) := by
  rw [Node.typeAt, Node.typeOf, hc.type, CppType.ofValue_str, ht]
  rfl

/-- A declared array is reported with a suggestion of its element and its last extent. -/
theorem inspect_rawArray {c : Cursor} {text : String} {t element : CppType} (hc : c.Declares text)
    (ht : CppType.ofSpelling text = .ok t) (harray : t.category = .array)
    (helement : t.element = some element) (hnamed : t.spelling ≠ "") (hnamed' : element.spelling ≠ "")
    {n : Nat} (hextent : finalExtent? t.base = some (toString n)) :
    rawArray.inspect c = .ok [rawArrayRule.finding c.node
      (rawArrayMessage c.node t (standardArray element.spelling n))] := by
  have hscope : (c.scope ≠ .inFunction && c.scope ≠ .inRecord) = false := by
    obtain h | h := hc.scope <;> simp [h]
  have hreplacement : arrayReplacement c.node (some t) = standardArray element.spelling n := by
    rw [arrayReplacement, declaredExtent?, hc.noExtent]
    simp [helement, hextent, hnamed', standardArray]
  have hspelling : (some t.spelling).filter (· != "") = some t.spelling :=
    Option.filter_some_pos (by simpa using hnamed)
  simp only [rawArray, hc.notAdjusted, hscope, hc.typeAt_eq ht]
  simp [bind, Except.bind, pure, Except.pure, harray, hreplacement, helement, hspelling,
    rawArrayMessage]

/-! ## §4 Declarations -/

theorem squeezed_arrayOf_inj {s : String} {extents extents' : List Nat}
    (h : squeezed (arrayOf s extents) = squeezed (arrayOf s extents')) : extents = extents' := by
  have hlists := congrArg String.toList h
  simp only [squeezed, String.toList_ofList, toList_arrayOf] at hlists
  exact squeeze_append_brackets_inj hlists

theorem squeezed_arrayOf_ne_empty {s : String} (h : ConstFree s.toList) (extents : List Nat) :
    squeezed (arrayOf s extents) ≠ "" := by
  have hne := (h.append_brackets extents).nonblank
  rw [squeezed, toList_arrayOf]
  simpa using hne

theorem spelling_of_ofSpelling {s : String} {t : CppType} (h : CppType.ofSpelling s = .ok t) :
    t.spelling = squeezed s :=
  CppType.spelling_of_ofChars h

/-- The extent at the end of the spelling is the last one. -/
theorem finalExtent?_arrayOf {s : String} (h : ConstFree s.toList) {extents : List Nat}
    (hextents : extents ≠ []) {t : CppType} (ht : CppType.ofSpelling (arrayOf s extents) = .ok t) :
    finalExtent? t.base = some (toString (extents.getLast hextents)) := by
  obtain ⟨inner, n, rfl⟩ := (List.eq_nil_or_concat' extents).resolve_left hextents
  have hprinted : String.ofList (Nat.toDigits 10 n) = toString n := String.toList_inj.1 (by simp)
  obtain ⟨g, hcut⟩ := squeeze_append_brackets s.toList
  rw [CppType.base, spelling_of_ofSpelling ht, squeezed, String.toList_ofList, toList_arrayOf,
    (h.append_brackets _).unmarked_squeeze.withoutConst_eq, squeeze_squeeze, hcut _ hextents,
    brackets_concat, ← List.append_assoc, ← List.append_assoc,
    finalExtent?_brackets _ Nat.toDigits_ne_nil (digits_toDigits n), hprinted, List.getLast_concat]

/-- Extents of which one is left out are told from the type that is read. -/
theorem eq_iff_of_ofSpelling_arrayOf {s : String} {extents extents' : List Nat} {t t' : CppType}
    (h : CppType.ofSpelling (arrayOf s extents) = .ok t)
    (h' : CppType.ofSpelling (arrayOf s extents') = .ok t') : t = t' ↔ extents = extents' := by
  constructor
  · rintro rfl
    exact squeezed_arrayOf_inj ((spelling_of_ofSpelling h).symm.trans (spelling_of_ofSpelling h'))
  · rintro rfl
    exact Except.ok.inj (h.symm.trans h')

theorem ofSpelling_arrayOf_of_readable {s : String} (h : ConstFree s.toList) {extents : List Nat}
    (hread : CppType.ReadableArray s.toList extents) :
    ∃ e t, CppType.ofSpelling s = .ok e ∧ CppType.ofSpelling (arrayOf s extents) = .ok t ∧
      t.size = e.size.map ((extents.prod : Int) * ·) := by
  rw [CppType.ofSpelling, CppType.ofSpelling, toList_arrayOf]
  obtain ⟨-, hok⟩ | ⟨hlong, -⟩ := CppType.ofChars_brackets_cases h extents
  · exact hok
  · exact absurd hread hlong

theorem ofSpelling_arrayOf_of_not_readable {s : String} (h : ConstFree s.toList) {extents : List Nat}
    (hlong : ¬ CppType.ReadableArray s.toList extents) :
    CppType.ofSpelling (arrayOf s extents) = .error .badValue := by
  rw [CppType.ofSpelling, toList_arrayOf]
  obtain ⟨hread, -⟩ | ⟨-, herror⟩ := CppType.ofChars_brackets_cases h extents
  · exact absurd hread hlong
  · exact herror

/-- Fewer extents are read if all are. -/
theorem CppType.ReadableArray.of_subset {cs : List Char} {extents extents' : List Nat}
    (h : ReadableArray cs extents) (hsub : extents' ⊆ extents) : ReadableArray cs extents' :=
  ⟨h.1, fun n hn => h.2 n (hsub hn)⟩

theorem ofSpelling_arrayOf {s : String} (h : ConstFree s.toList) {extents : List Nat}
    (hextents : extents ≠ []) (hread : CppType.ReadableArray s.toList extents) {e last : CppType}
    (he : CppType.ofSpelling s = .ok e)
    (hlast : CppType.ofSpelling (arrayOf s extents.dropLast) = .ok last) :
    CppType.ofSpelling (arrayOf s extents) = .ok ⟨squeezed (arrayOf s extents), .array,
      e.size.map ((extents.prod : Int) * ·), false, some last⟩ := by
  obtain ⟨inner, n, rfl⟩ := (List.eq_nil_or_concat' extents).resolve_left hextents
  obtain ⟨e', t, he', ht, hsize⟩ := ofSpelling_arrayOf_of_readable h hread
  obtain rfl := Except.ok.inj (he.symm.trans he')
  have hn : n < 10 ^ digitLimit := hread.2 n (by simp)
  have hconcat := CppType.ofChars_brackets_concat h inner n
  rw [CppType.ofSpelling, List.dropLast_concat, toList_arrayOf] at hlast
  rw [CppType.ofSpelling, toList_arrayOf] at ht
  rw [hlast, Except.bind, CppType.arraySize_toDigits hn] at hconcat
  obtain rfl := Except.ok.inj (ht.symm.trans hconcat)
  dsimp only at hsize
  rw [CppType.ofSpelling, squeezed, toList_arrayOf, ht, hsize]

theorem rawArrayMessage_inj {n : Node} {t : CppType} {suggestion suggestion' : String}
    (h : rawArrayMessage n t suggestion = rawArrayMessage n t suggestion') :
    suggestion = suggestion' :=
  (String.append_right_inj _).1 h

/-- Only one standard array is suggested. -/
theorem reports_iff_of_reports {c : Cursor} {t : CppType} {suggestion suggestion' : String}
    (h : rawArray.inspect c =
      .ok [rawArrayRule.finding c.node (rawArrayMessage c.node t suggestion)]) :
    rawArray.inspect c =
        .ok [rawArrayRule.finding c.node (rawArrayMessage c.node t suggestion')] ↔
      suggestion = suggestion' := by
  constructor
  · intro h'
    have hfindings := List.cons.inj (Except.ok.inj (h.symm.trans h'))
    exact rawArrayMessage_inj (Finding.mk.inj hfindings.1).2.2.1
  · intro hsame
    rw [← hsame]
    exact h

/-- The two suggestions for an array, from its last extent and from its first one. -/
theorem standardArray_arrayOf_iff {s : String} {extents : List Nat}
    (hextents : extents ≠ []) :
    standardArray (squeezed (arrayOf s extents.dropLast)) (extents.getLast hextents) =
        standardArray (squeezed (arrayOf s extents.tail)) (extents.head hextents) ↔
      ∀ a ∈ extents, ∀ b ∈ extents, a = b := by
  constructor
  · intro harrays
    obtain ⟨helements, -⟩ := standardArray_inj harrays
    exact tail_eq_dropLast_iff.1 (squeezed_arrayOf_inj helements).symm
  · intro hsame
    rw [tail_eq_dropLast_iff.2 hsame,
      hsame _ (List.getLast_mem hextents) _ (List.head_mem hextents)]

/-- An array of elements of any spelling, with any number of extents, is read as an array of the last
extent, of what is left when the last extent is left out; its size is that of all its elements. The
standard array that is suggested for it has the same element and the same extent. Both are what they
are in the declaration, where the first extent is the outermost one, exactly if all extents are the
same. An extent with too many digits keeps the array from being read, and nothing else does. -/
theorem last_extent_is_read_first (s : String) (hne : trimmed s ≠ "")
    (hconst : ¬ "const".toList <:+: s.toList) (extents : List Nat) (hextents : extents ≠ []) :
    let text := arrayOf s extents
    let fits := CppType.ExtentsFit s.toList ∧ ∀ n ∈ extents, n < 10 ^ digitLimit
    let allSame := ∀ a ∈ extents, ∀ b ∈ extents, a = b
    (¬ fits → CppType.ofValue (.str text) = .error .badValue) ∧
    (fits → ∃ e last first : CppType, CppType.ofSpelling s = .ok e ∧
      CppType.ofSpelling (arrayOf s extents.dropLast) = .ok last ∧
      CppType.ofSpelling (arrayOf s extents.tail) = .ok first ∧
      let t : CppType :=
        ⟨squeezed text, .array, e.size.map ((extents.prod : Int) * ·), false, some last⟩
      CppType.ofValue (.str text) = .ok (some t) ∧
        (t.element = some first ↔ allSame) ∧
        ∀ c : Cursor, c.Declares text →
          let reports (suggestion : String) := rawArray.inspect c =
            .ok [rawArrayRule.finding c.node (rawArrayMessage c.node t suggestion)]
          reports (standardArray (squeezed (arrayOf s extents.dropLast)) (extents.getLast hextents)) ∧
            (reports (standardArray (squeezed (arrayOf s extents.tail)) (extents.head hextents)) ↔
              allSame)) := by
  intro text fits allSame
  have hfree : ConstFree s.toList :=
    ⟨squeeze_ne_nil_of_trim fun hnil => hne (by rw [trimmed, hnil]), hconst⟩
  refine ⟨fun hlong => ?_, fun hread => ?_⟩
  · rw [CppType.ofValue_str, ofSpelling_arrayOf_of_not_readable hfree hlong]
    rfl
  obtain ⟨e, last, he, hlast, -⟩ := ofSpelling_arrayOf_of_readable hfree
    (CppType.ReadableArray.of_subset hread (List.dropLast_subset extents))
  obtain ⟨-, first, -, hfirst, -⟩ := ofSpelling_arrayOf_of_readable hfree
    (CppType.ReadableArray.of_subset hread (List.tail_subset extents))
  refine ⟨e, last, first, he, hlast, hfirst, ?_⟩
  intro t
  have htype : CppType.ofSpelling text = .ok t := ofSpelling_arrayOf hfree hextents hread he hlast
  have helement : t.element = some first ↔ allSame := by
    rw [Option.some.injEq, eq_iff_of_ofSpelling_arrayOf hlast hfirst, eq_comm]
    exact tail_eq_dropLast_iff
  refine ⟨by rw [CppType.ofValue_str, htype]; rfl, helement, fun c hc => ?_⟩
  intro reports
  have hreports : reports (standardArray (squeezed (arrayOf s extents.dropLast))
      (extents.getLast hextents)) := by
    have hinner := spelling_of_ofSpelling hlast
    have hinspect := inspect_rawArray hc htype rfl rfl (squeezed_arrayOf_ne_empty hfree extents)
      (hinner ▸ squeezed_arrayOf_ne_empty hfree extents.dropLast)
      (finalExtent?_arrayOf hfree hextents htype)
    rwa [hinner] at hinspect
  exact ⟨hreports, (reports_iff_of_reports hreports).trans (standardArray_arrayOf_iff hextents)⟩

theorem ofSpelling_int : CppType.ofSpelling "int" = .ok ⟨"int", .builtin, some 4, false, none⟩ := by
  rw [CppType.ofSpelling, CppType.ofChars_eq (by decide) (by decide)]
  rfl

/-- A member that is an array of two arrays of three integers. -/
theorem member_of_two_by_three :
    let field : Node := ⟨.fieldDecl, ⟨"a.cpp", 2, 3, 2, 14⟩,
      [(.str "name", .str "cells"), (.str "type", .str "int[2][3]")], []⟩
    let record : Node := ⟨.recordDecl, ⟨"a.cpp", 1, 1, 3, 2⟩, [], [("members", field)]⟩
    let c : Cursor := ⟨field, [⟨record, "members", 0⟩]⟩
    let element : CppType :=
      ⟨"int[2]", .array, some 8, false, some ⟨"int", .builtin, some 4, false, none⟩⟩
    let t : CppType := ⟨"int[2][3]", .array, some 24, false, some element⟩
    (trimmed "int" ≠ "" ∧ ¬ "const".toList <:+: "int".toList ∧ [2, 3] ≠ []) ∧
      c.Declares (arrayOf "int" [2, 3]) ∧ CppType.ofValue (.str "int[2][3]") = .ok (some t) ∧
      rawArray.inspect c = .ok [rawArrayRule.finding field
        "'cells' is a raw array (int[2][3]); use std::array<int[2], 3>"] := by
  intro field record c element t
  have hs : trimmed "int" ≠ "" ∧ ¬ "const".toList <:+: "int".toList ∧ [2, 3] ≠ [] :=
    ⟨by decide, by decide, by decide⟩
  obtain ⟨hne, hconst, hextents⟩ := hs
  have htext : arrayOf "int" [2, 3] = "int[2][3]" := by decide
  have hc : c.Declares (arrayOf "int" [2, 3]) := ⟨.inr rfl, rfl, rfl, htext ▸ rfl⟩
  have hfree : ConstFree "int".toList := ⟨by decide, by decide⟩
  have hread : CppType.ReadableArray "int".toList [2, 3] := ⟨by decide +kernel, by decide +kernel⟩
  have hinner : CppType.ofSpelling (arrayOf "int" [2, 3].dropLast) = .ok element := by
    refine ofSpelling_arrayOf hfree (List.cons_ne_nil 2 [])
      (hread.of_subset (List.dropLast_subset [2, 3])) ofSpelling_int ?_
    rw [show arrayOf "int" [2].dropLast = "int" by decide]
    exact ofSpelling_int
  obtain ⟨e, last, first, he, hlast, -, hvalue, -, hreports⟩ :=
    (last_extent_is_read_first "int" hne hconst [2, 3] hextents).2 hread
  obtain rfl := Except.ok.inj (he.symm.trans ofSpelling_int)
  obtain rfl := Except.ok.inj (hlast.symm.trans hinner)
  obtain ⟨hreport, -⟩ := hreports c hc
  rw [htext, show squeezed "int[2][3]" = "int[2][3]" by decide] at hvalue hreport
  have hmessage : rawArrayMessage field t
      (standardArray (squeezed (arrayOf "int" [2, 3].dropLast)) 3) =
      "'cells' is a raw array (int[2][3]); use std::array<int[2], 3>" := by decide
  exact ⟨⟨hne, hconst, hextents⟩, hc, hvalue, hmessage ▸ hreport⟩

/-- In a declaration two by three integers are two elements of three, not three elements of two. -/
theorem two_by_three_is_read_as_three_by_two : arrayOf "int" [2, 3] = "int[2][3]" ∧
    ∃ t last first : CppType, CppType.ofSpelling "int[2][3]" = .ok t ∧
      CppType.ofSpelling "int[2]" = .ok last ∧ CppType.ofSpelling "int[3]" = .ok first ∧
      t.element = some last ∧ t.element ≠ some first := by
  have htext : arrayOf "int" [2, 3] = "int[2][3]" := by decide
  have htwo : arrayOf "int" [2] = "int[2]" := by decide
  have hthree : arrayOf "int" [3] = "int[3]" := by decide
  have hfree : ConstFree "int".toList := ⟨by decide, by decide⟩
  have hread : CppType.ReadableArray "int".toList [2, 3] := ⟨by decide +kernel, by decide +kernel⟩
  obtain ⟨-, last, -, hlast, -⟩ := ofSpelling_arrayOf_of_readable hfree
    (hread.of_subset (List.dropLast_subset [2, 3]))
  obtain ⟨-, first, -, hfirst, -⟩ := ofSpelling_arrayOf_of_readable hfree
    (hread.of_subset (List.tail_subset [2, 3]))
  have ht := ofSpelling_arrayOf hfree (List.cons_ne_nil 2 [3]) hread ofSpelling_int hlast
  have hother : last ≠ first := fun heq =>
    absurd ((eq_iff_of_ofSpelling_arrayOf hlast hfirst).1 heq) (by decide)
  refine ⟨htext, _, last, first, htext ▸ ht, htwo ▸ hlast, hthree ▸ hfirst, rfl, fun h => ?_⟩
  exact hother (Option.some.inj h)

end CppIdioms
