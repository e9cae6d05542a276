import CppIdioms.Proofs.DumpReading
import CppIdioms.Proofs.Numerals

/-!
# What reading a dump can come to

Whatever a dump holds, reading it gives a tree or an error, and the error is one of dumps unless the
numbers of a location are at fault. The numbers of a location that is written as a mapping are read as
they are, and one that cannot be read is a fault of its own, which nothing on the way to the result takes
up. A location that is written as a text is checked before its numbers are read, so all that can be at
fault with one of them is that it has too many digits.

## Contents

* `spanNumbers`, `numberFault?`: the numbers of a span, and what is at fault with one of them.
* `LocationText.hasLongNumber`: a number of a location has too many digits.
* `DumpPlace.badNumber?`: the first fault in the location of a node value.

## Main statements

* `toInt_fault`: the faults of a number.
* `ofFields_cases`: a span can be read, or the first number that cannot be read decides the fault.
* `LocationText.span_cases`: a location can be read, or one of its numbers has too many digits.
* `DumpPlace.malformed?_eq_fault_iff`: when a malformed node value is a fault.
* `ofDump_eq_passes`, `ofDump_cases`: which of the two passes decides.
* `ofDump_outcomes`: the outcomes, and exactly when one of them is a fault.
-/

namespace CppIdioms

open CppIdioms.Text

/-! ## §1 Numbers of a location -/

/-- The faults of a number: a value that is none, a text that does not read as one, and an infinite
number. -/
theorem toInt_fault {v : Value} {f : Fault} (h : v.toInt = .error f) :
    f = .wrongType ∨ f = .badValue ∨ f = .overflow := by
  unfold Value.toInt at h
  split at h
  case h_1 | h_2 => cases h
  case h_3 => cases h; simp
  case h_4 => split at h <;> cases h; simp
  case h_5 => split at h <;> cases h; simp
  case h_6 => cases h; simp

/-- The numbers of a span, in the order in which they are read. -/
def spanNumbers : List String := ["line", "column", "end_line", "end_column"]

/-- What is at fault with a number of a span; nothing, if it is left out. -/
def numberFault? (span : Entries) (key : String) : Option Fault :=
  match span.get? key with
  | some v =>
    match v.toInt with
    | .error f => some f
    | .ok _ => none
  | none => none

theorem numberFault?_fault {span : Entries} {key : String} {f : Fault}
    (h : numberFault? span key = some f) : f = .wrongType ∨ f = .badValue ∨ f = .overflow := by
  unfold numberFault? at h
  split at h
  · split at h
    · next hint =>
      cases h
      exact toInt_fault hint
    · cases h
  · cases h

/-- A number is read, or what is at fault with it is told, whatever stands for it if it is left out. -/
theorem intOr_cases (span : Entries) (key : String) (default : Int) :
    (∃ n, span.intOr key default = .ok n ∧ numberFault? span key = none) ∨
      ∃ f, span.intOr key default = .error f ∧ numberFault? span key = some f := by
  unfold Entries.intOr numberFault?
  cases Entries.get? key span with
  | none => exact .inl ⟨default, rfl, rfl⟩
  | some v =>
    cases hint : v.toInt with
    | ok n => exact .inl ⟨n, hint, by simp [hint]⟩
    | error f => exact .inr ⟨f, hint, by simp [hint]⟩

/-- A span is read, or the first of its numbers that cannot be read decides the fault. -/
theorem ofFields_cases (span : Entries) (inherited : String) :
    (∃ s, Span.ofFields span inherited = .ok s ∧ spanNumbers.findSome? (numberFault? span) = none) ∨
      ∃ f, Span.ofFields span inherited = .error f ∧
        spanNumbers.findSome? (numberFault? span) = some f := by
  rcases intOr_cases span "line" 0 with ⟨line, hline, hl⟩ | ⟨f, hline, hl⟩
  · rcases intOr_cases span "column" 0 with ⟨column, hcolumn, hc⟩ | ⟨f, hcolumn, hc⟩
    · rcases intOr_cases span "end_line" line with ⟨endLine, hendLine, he⟩ | ⟨f, hendLine, he⟩
      · rcases intOr_cases span "end_column" column with ⟨endColumn, hend, hd⟩ | ⟨f, hend, hd⟩
        · exact .inl (by simp [Span.ofFields, spanNumbers, hline, hcolumn, hendLine, hend, hl, hc, he, hd])
        · exact .inr ⟨f, by simp [Span.ofFields, hline, hcolumn, hendLine, hend],
            by simp [spanNumbers, hl, hc, he, hd]⟩
      · exact .inr ⟨f, by simp [Span.ofFields, hline, hcolumn, hendLine],
          by simp [spanNumbers, hl, hc, he]⟩
    · exact .inr ⟨f, by simp [Span.ofFields, hline, hcolumn], by simp [spanNumbers, hl, hc]⟩
  · exact .inr ⟨f, by simp [Span.ofFields, hline], by simp [spanNumbers, hl]⟩

/-- Line or column has too many digits. -/
def Position.hasLongNumber (p : Position) : Bool :=
  digitLimit < p.line.length || digitLimit < p.column.length

/-- A number of a location has too many digits. -/
def LocationText.hasLongNumber (l : LocationText) : Bool :=
  l.start.hasLongNumber || (l.finish.map Position.hasLongNumber).getD false

theorem readNumber_cases (ds : List Char) :
    (∃ n, readNumber ds = .ok n ∧ ds.length ≤ digitLimit) ∨
      (readNumber ds = .error .badValue ∧ ¬ ds.length ≤ digitLimit) := by
  unfold readNumber
  by_cases h : ds.length ≤ digitLimit
  · exact .inl ⟨_, by rw [decimal?_eq_some h], h⟩
  · exact .inr ⟨by rw [decimal?_eq_none h], h⟩

theorem Position.numbers_cases (p : Position) :
    (∃ n, p.numbers = .ok n ∧ p.hasLongNumber = false) ∨
      (p.numbers = .error .badValue ∧ p.hasLongNumber = true) := by
  unfold numbers hasLongNumber
  rcases readNumber_cases p.line with ⟨line, hline, hl⟩ | ⟨hline, hl⟩
  · rcases readNumber_cases p.column with ⟨column, hcolumn, hc⟩ | ⟨hcolumn, hc⟩
    · exact .inl ⟨_, by rw [hline, hcolumn]; rfl, by simp [hl, hc]⟩
    · exact .inr ⟨by rw [hline, hcolumn]; rfl, by simp [Nat.lt_of_not_le hc]⟩
  · exact .inr ⟨by rw [hline], by simp [Nat.lt_of_not_le hl]⟩

/-- A location has a span, or one of its numbers has too many digits. -/
theorem LocationText.span_cases (l : LocationText) (inherited : String) :
    (∃ s, l.span inherited = .ok s ∧ l.hasLongNumber = false) ∨
      (l.span inherited = .error .badValue ∧ l.hasLongNumber = true) := by
  obtain ⟨file, start, finish⟩ := l
  simp only [span, hasLongNumber]
  rcases start.numbers_cases with ⟨first, hstart, hs⟩ | ⟨hstart, hs⟩
  · cases finish with
    | none => exact .inl ⟨_, by simp only [Option.getD_none, hstart]; rfl, by simp [hs]⟩
    | some finish =>
      rcases finish.numbers_cases with ⟨last, hfinish, hf⟩ | ⟨hfinish, hf⟩
      · exact .inl ⟨_, by simp only [Option.getD_some, hstart, hfinish]; rfl, by simp [hs, hf]⟩
      · exact .inr ⟨by simp only [Option.getD_some, hstart, hfinish]; rfl, by simp [hf]⟩
  · exact .inr ⟨by simp only [hstart], by simp [hs]⟩

/-- What is at fault with a location that is written as a text: a number with too many digits. -/
def locationFault? (text : String) : Option Fault :=
  match readLocation? text.toList with
  | some l => if l.hasLongNumber then some .badValue else none
  | none => none

theorem locationFault?_fault {text : String} {f : Fault} (h : locationFault? text = some f) :
    f = .badValue := by
  unfold locationFault? at h
  split at h
  · split at h <;> cases h
    rfl
  · cases h

/-- A text is read as a location, or it is none, or one of its numbers has too many digits. -/
theorem ofLocation_cases (text inherited : String) :
    (∃ s, Span.ofLocation text inherited = .ok s ∧ locationFault? text = none) ∨
      (Span.ofLocation text inherited = .error (.dump (.badLocation text)) ∧
        locationFault? text = none) ∨
      (Span.ofLocation text inherited = .error (.fault .badValue) ∧
        locationFault? text = some .badValue) := by
  unfold Span.ofLocation locationFault?
  cases readLocation? text.toList with
  | none => exact .inr (.inl ⟨rfl, rfl⟩)
  | some l =>
    rcases l.span_cases inherited with ⟨s, hs, hfit⟩ | ⟨hs, hlong⟩
    · exact .inl ⟨s, by simp only [hs]; rfl, by simp [hfit]⟩
    · exact .inr (.inr ⟨by simp only [hs]; rfl, by simp [hlong]⟩)

/-! ## §2 Node values -/

namespace DumpPlace

/-- What is at fault in the location of a node value: the first of the numbers of its span that cannot
be read, or a number with too many digits in its text. -/
def badNumber? (p : DumpPlace) : Option Fault :=
  match p.fields.find "span" with
  | .map span => spanNumbers.findSome? (numberFault? span)
  | _ =>
    match p.fields.find "loc" with
    | .str text => locationFault? text
    | _ => none

theorem badNumber?_fault {p : DumpPlace} {f : Fault} (h : p.badNumber? = some f) :
    f = .wrongType ∨ f = .badValue ∨ f = .overflow := by
  unfold badNumber? at h
  split at h
  · obtain ⟨key, _, hkey⟩ := List.exists_of_findSome?_eq_some h
    exact numberFault?_fault hkey
  · split at h
    · exact .inr (.inl (locationFault?_fault h))
    · cases h

/-- A location is read, or its numbers are at fault, or it is a text that is no location. -/
theorem ofNode_cases (p : DumpPlace) (inherited : String) :
    (∃ s, Span.ofNode p.fields inherited = .ok s ∧ p.badNumber? = none) ∨
      (∃ text, Span.ofNode p.fields inherited = .error (.dump (.badLocation text)) ∧
        p.badNumber? = none) ∨
      ∃ f, Span.ofNode p.fields inherited = .error (.fault f) ∧ p.badNumber? = some f := by
  unfold Span.ofNode
  split
  · next span hspan =>
    have hbad : p.badNumber? = spanNumbers.findSome? (numberFault? span) := by rw [badNumber?, hspan]
    rw [hbad]
    rcases ofFields_cases span inherited with ⟨s, hs, hnone⟩ | ⟨f, hf, hsome⟩
    · exact .inl ⟨s, by rw [hs]; rfl, hnone⟩
    · exact .inr (.inr ⟨f, by rw [hf]; rfl, hsome⟩)
  · next hspan =>
    have hbad : p.badNumber? =
        match p.fields.find "loc" with
        | .str text => locationFault? text
        | _ => none := by
      unfold badNumber?
      split
      · next span h => exact absurd h (hspan span)
      · rfl
    rw [hbad]
    cases p.fields.find "loc" with
    | str text =>
      rcases ofLocation_cases text inherited with hs | hs | hs
      · exact .inl hs
      · exact .inr (.inl ⟨text, hs⟩)
      · exact .inr (.inr ⟨_, hs⟩)
    | _ => exact .inl ⟨_, rfl, rfl⟩

/-- A malformed node value is malformed as part of a dump, or it has a kind and the numbers of its
location are at fault. -/
theorem malformed?_cases {default : String} {p : DumpPlace} {e : Error}
    (h : p.malformed? default = some e) :
    (∃ cause, e = .dump cause) ∨
      ∃ f, e = .fault f ∧ (Entries.get? "kind" p.fields).isSome ∧ p.badNumber? = some f := by
  have hlocation := ofNode_cases p (p.inherited default)
  unfold malformed? at h
  split at h
  · next fields hvalue =>
    have hfields : p.fields = fields := by rw [DumpPlace.fields, hvalue]
    rw [hfields] at hlocation ⊢
    split at h
    · cases h
      exact .inl ⟨_, rfl⟩
    · next kind hkind =>
      split at h
      · next e' herror =>
        cases h
        rcases hlocation with ⟨s, hs, _⟩ | ⟨text, htext, _⟩ | ⟨f, hf, hbad⟩
        · rw [hs] at herror
          cases herror
        · rw [htext] at herror
          cases herror
          exact .inl ⟨_, rfl⟩
        · rw [hf] at herror
          cases herror
          exact .inr ⟨f, rfl, by rw [hkind]; rfl, hbad⟩
      · split at h
        · cases h
        · cases h
          exact .inl ⟨_, rfl⟩
  · cases h
    exact .inl ⟨_, rfl⟩

/-- A node value is at fault exactly if it has a kind and the numbers of its location are at fault. -/
theorem malformed?_eq_fault_iff {default : String} {p : DumpPlace} {f : Fault} :
    p.malformed? default = some (.fault f) ↔
      (Entries.get? "kind" p.fields).isSome ∧ p.badNumber? = some f := by
  constructor
  · intro h
    rcases malformed?_cases h with ⟨cause, hcause⟩ | ⟨f', hf, hkind, hbad⟩
    · cases hcause
    · cases hf
      exact ⟨hkind, hbad⟩
  · rintro ⟨hkind, hbad⟩
    obtain ⟨kind, hkind⟩ := Option.isSome_iff_exists.1 hkind
    have hvalue := value_eq_map_fields hkind
    rcases ofNode_cases p (p.inherited default) with ⟨s, _, hnone⟩ | ⟨text, _, hnone⟩ | ⟨f', hf, hsome⟩
    · rw [hnone] at hbad
      cases hbad
    · rw [hnone] at hbad
      cases hbad
    · rw [hsome] at hbad
      cases hbad
      unfold malformed?
      rw [hvalue]
      simp only [hkind, hf]

theorem badAttributes?_dump {p : DumpPlace} {e : Error} (h : p.badAttributes? = some e) :
    ∃ cause, e = .dump cause := by
  unfold badAttributes? at h
  split at h
  · cases h
  · split at h
    · cases h
      exact ⟨_, rfl⟩
    · cases h

/-- The second pass comes to an end if no attributes are bad. -/
theorem buildAll_ok (default : String) {ps : List DumpPlace} (h : ∀ p ∈ ps, p.badAttributes? = none)
    (built : List Node) : ∃ nodes, buildAll (ps.map (entry default)) built = .ok nodes := by
  induction ps generalizing built with
  | nil => exact ⟨built, rfl⟩
  | cons p ps ih =>
    have hattrs := attributes_entry default p
    rw [h p List.mem_cons_self] at hattrs
    rw [List.map_cons, buildAll, DumpEntry.build, hattrs]
    exact ih (fun q hq => h q (List.mem_cons_of_mem _ hq)) _

end DumpPlace

/-! ## §3 Outcomes -/

section Outcomes

variable (dump : Value) (file : Option String)

/-- A dump is read in two passes over its node values. -/
theorem ofDump_eq_passes :
    Node.ofDump dump (file.getD "") =
      match (DumpPlace.places ⟨dump, []⟩).findSome? (DumpPlace.malformed? (startingFile file)) with
      | some e => .error e
      | none =>
        (buildAll ((DumpPlace.places ⟨dump, []⟩).reverse.map (DumpPlace.entry (startingFile file))) []).map
          fun built => built.headD ⟨.unknown, ⟨startingFile file, 0, 0, 0, 0⟩, [], []⟩ := by
  have hdefault : (if (file.getD "").isEmpty then unknownFile else file.getD "") = startingFile file := by
    cases file <;> simp [startingFile]
  have hlist := DumpPlace.listEntries_eq (startingFile file) [⟨dump, []⟩] []
  rw [List.flatMap_singleton, List.append_nil, List.map_singleton, ← List.map_reverse] at hlist
  have hpending : DumpPlace.pending (startingFile file) ⟨dump, []⟩ = ⟨dump, startingFile file⟩ := rfl
  unfold Node.ofDump
  simp only [hdefault]
  rw [← hpending, hlist]
  cases (DumpPlace.places ⟨dump, []⟩).findSome? (DumpPlace.malformed? (startingFile file)) with
  | some e => rfl
  | none => simp only; split <;> next h => rw [h]; rfl

/-- The first pass decides: the dump has a malformed node value. Or the second does: it has bad
attributes. Or the dump describes a tree. -/
theorem ofDump_cases :
    (∃ e, Node.ofDump dump (file.getD "") = .error e ∧
      (DumpPlace.places ⟨dump, []⟩).findSome? (DumpPlace.malformed? (startingFile file)) = some e) ∨
    (DumpPlace.places ⟨dump, []⟩).findSome? (DumpPlace.malformed? (startingFile file)) = none ∧
      ((∃ cause, Node.ofDump dump (file.getD "") = .error (.dump cause)) ∨
        ∃ tree, Node.ofDump dump (file.getD "") = .ok tree) := by
  have hpasses := ofDump_eq_passes dump file
  cases hmalformed : (DumpPlace.places ⟨dump, []⟩).findSome?
      (DumpPlace.malformed? (startingFile file)) with
  | some e =>
    rw [hmalformed] at hpasses
    exact .inl ⟨e, hpasses, rfl⟩
  | none =>
    rw [hmalformed] at hpasses
    refine .inr ⟨rfl, ?_⟩
    cases hbad : (DumpPlace.places ⟨dump, []⟩).reverse.findSome? DumpPlace.badAttributes? with
    | some e =>
      obtain ⟨p, _, hp⟩ := List.exists_of_findSome?_eq_some hbad
      obtain ⟨cause, rfl⟩ := DumpPlace.badAttributes?_dump hp
      refine .inl ⟨cause, ?_⟩
      rw [hpasses, DumpPlace.buildAll_bad hbad]
      rfl
    | none =>
      obtain ⟨nodes, hnodes⟩ :=
        DumpPlace.buildAll_ok (startingFile file) (List.findSome?_eq_none_iff.1 hbad) []
      rw [hnodes] at hpasses
      exact .inr ⟨_, hpasses⟩

/-- Only the first pass meets faults. -/
theorem ofDump_eq_fault_iff (f : Fault) :
    Node.ofDump dump (file.getD "") = .error (.fault f) ↔
      (DumpPlace.places ⟨dump, []⟩).findSome? (DumpPlace.malformed? (startingFile file)) =
        some (.fault f) := by
  rcases ofDump_cases dump file with ⟨e, he, hfirst⟩ | ⟨hnone, ⟨cause, hcause⟩ | ⟨tree, htree⟩⟩
  · rw [he, hfirst, Except.error.injEq, Option.some.injEq]
  · simp [hnone, hcause]
  · simp [hnone, htree]

/-- Reading a dump gives a tree, an error of dumps, or the fault of a number; and it is a fault exactly
if, of all node values in preorder, the first malformed one has a kind and a location with a number that
cannot be read: any value that is no number in the mapping of a span, or too many digits. -/
theorem ofDump_outcomes :
    ((∃ tree, Node.ofDump dump (file.getD "") = .ok tree) ∨
      (∃ cause, Node.ofDump dump (file.getD "") = .error (.dump cause)) ∨
      ∃ f, Node.ofDump dump (file.getD "") = .error (.fault f) ∧
        (f = .wrongType ∨ f = .badValue ∨ f = .overflow)) ∧
    ∀ f, Node.ofDump dump (file.getD "") = .error (.fault f) ↔
      ∃ before p after, DumpPlace.places ⟨dump, []⟩ = before ++ p :: after ∧
        (∀ q ∈ before, q.malformed? (startingFile file) = none) ∧
        (Entries.get? "kind" p.fields).isSome ∧ p.badNumber? = some f := by
  constructor
  · rcases ofDump_cases dump file with ⟨e, he, hfirst⟩ | ⟨_, hcause | htree⟩
    · obtain ⟨p, _, hp⟩ := List.exists_of_findSome?_eq_some hfirst
      rcases DumpPlace.malformed?_cases hp with ⟨cause, rfl⟩ | ⟨f, rfl, _, hbad⟩
      · exact .inr (.inl ⟨cause, he⟩)
      · exact .inr (.inr ⟨f, he, DumpPlace.badNumber?_fault hbad⟩)
    · exact .inr (.inl hcause)
    · exact .inl htree
  · intro f
    rw [ofDump_eq_fault_iff, List.findSome?_eq_some_iff]
    constructor
    · rintro ⟨before, p, after, hsplit, hp, hbefore⟩
      exact ⟨before, p, after, hsplit, hbefore, DumpPlace.malformed?_eq_fault_iff.1 hp⟩
    · rintro ⟨before, p, after, hsplit, hbefore, hp⟩
      exact ⟨before, p, after, hsplit, DumpPlace.malformed?_eq_fault_iff.2 hp, hbefore⟩

end Outcomes

/-- A return statement in a block, whose span has no number in the place of its line. -/
theorem ofDump_null_line :
    let inner : Value := .map
      [(.str "kind", .str "ReturnStatement"), (.str "span", .map [(.str "line", .null)])]
    let dump : Value := .map
      [(.str "kind", .str "CompoundStatement"), (.str "loc", .str "a.cpp:1:1"),
        (.str "children", .map [(.str "statements", .list [inner])])]
    Node.ofDump dump "" = .error (.fault .wrongType) ∧ Node.ofDump inner "" = .error (.fault .wrongType) :=
  ⟨(ofDump_eq_fault_iff _ none _).2 (by decide +kernel),
    (ofDump_eq_fault_iff _ none _).2 (by decide +kernel)⟩

end CppIdioms
