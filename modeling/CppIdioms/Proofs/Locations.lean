import CppIdioms.Proofs.Numerals
import CppIdioms.Tree.Location

/-!
# Written locations

A location is written as a file, a start and perhaps an end, with colons and a dash between them. The
file may hold colons, dashes and digits itself, and it may be left out, so a text can be cut in many
ways. The reader ends the file at the first colon after which positions follow up to the end. Between
two colons of such positions there is always a dash, and between the last colon of a file and the one
inside the start there is none: no colon of the file is taken for its end. The numbers are read once the
text is cut, and one with too many digits is refused then.

## Contents

* `IsDigits`: what is read as a line or a column.
* `Position.written`, `writtenPositions`, `LocationText.written`: how locations are written.
* `Position.printed`, `Position.Fits`: positions by their numbers, and those that can be read.
* `Entries.PlacedAt`: nodes that give their place as a text.

## Main statements

* `readPositions?_written`: written positions are read back.
* `readPositions?_two_colons`: no positions are read where two colons have no dash between them.
* `readLocation?_written`: a written location is cut where it was put together.
* `written_location_read_back`: the spans of nodes with written locations.
-/

namespace CppIdioms

open CppIdioms.Text

/-! ## §1 Writing -/

/-- Digits, at least one. -/
structure IsDigits (ds : List Char) : Prop where
  nonempty : ds ≠ []
  digits : ∀ d ∈ ds, isDigit d = true

theorem isDigits_toDigits (n : Nat) : IsDigits (Nat.toDigits 10 n) :=
  ⟨Nat.toDigits_ne_nil, fun _ => isDigit_of_mem_toDigits⟩

/-- Line and column are digits. -/
structure Position.Digits (p : Position) : Prop where
  line : IsDigits p.line
  column : IsDigits p.column

/-- The digits of line and column with a colon between them. -/
def Position.written (p : Position) : List Char := p.line ++ ':' :: p.column

/-- A start and, behind a dash, an end. -/
def writtenPositions (start : Position) : Option Position → List Char
  | none => start.written
  | some finish => start.written ++ '-' :: finish.written

/-- The file and a colon, if a file is named, and the positions. -/
def LocationText.written (l : LocationText) : List Char :=
  if l.file.isEmpty then writtenPositions l.start l.finish
  else l.file ++ ':' :: writtenPositions l.start l.finish

/-- All positions of a location are digits. -/
structure LocationText.Digits (l : LocationText) : Prop where
  start : l.start.Digits
  finish : ∀ p ∈ l.finish, p.Digits

theorem colon_not_digit : isDigit ':' = false := by decide

theorem dash_not_digit : isDigit '-' = false := by decide

theorem newline_not_digit : isDigit '\n' = false := by decide

/-- A character that is no digit is not among digits. -/
theorem IsDigits.not_mem {ds : List Char} (hds : IsDigits ds) {c : Char} (h : isDigit c = false) :
    c ∉ ds :=
  fun hmem => by simp [hds.digits c hmem] at h

/-! ## §2 Positions -/

section Positions

variable {rest : List Char}

theorem takeDigits?_append {ds : List Char} (hds : IsDigits ds)
    (hrest : ∀ c ∈ rest.head?, isDigit c = false) : takeDigits? (ds ++ rest) = some (ds, rest) := by
  have htake : rest.takeWhile isDigit = [] ∧ rest.dropWhile isDigit = rest := by
    cases rest with
    | nil => exact ⟨rfl, rfl⟩
    | cons c rest => simp [hrest c rfl]
  rw [takeDigits?, List.takeWhile_append_of_pos hds.digits, List.dropWhile_append_of_pos hds.digits,
    htake.1, htake.2, List.append_nil]
  simp [hds.nonempty]

theorem takePosition?_written {p : Position} (hp : p.Digits)
    (hrest : ∀ c ∈ rest.head?, isDigit c = false) :
    takePosition? (p.written ++ rest) = some (p, rest) := by
  have hcolon : ∀ c ∈ (':' :: (p.column ++ rest)).head?, isDigit c = false := by
    rintro _ ⟨⟩
    exact colon_not_digit
  rw [Position.written, List.append_assoc, List.cons_append, takePosition?,
    takeDigits?_append hp.line hcolon]
  simp [takeDigits?_append hp.column hrest]

/-- Written positions are read back. -/
theorem readPositions?_written {start : Position} (hstart : start.Digits) {finish : Option Position}
    (hfinish : ∀ p ∈ finish, p.Digits) :
    readPositions? (writtenPositions start finish) = some (start, finish) := by
  have hend {p : Position} (hp : p.Digits) : takePosition? p.written = some (p, []) := by
    simpa using @takePosition?_written [] p hp nofun
  cases finish with
  | none => simp [writtenPositions, readPositions?, hend hstart, atLineEnd]
  | some finish =>
    have hdash : ∀ c ∈ ('-' :: finish.written).head?, isDigit c = false := by
      rintro _ ⟨⟩
      exact dash_not_digit
    simp [writtenPositions, readPositions?, takePosition?_written hstart hdash, hend (hfinish finish rfl),
      atLineEnd]

end Positions

/-! ## §3 Two colons without a dash -/

section TwoColons

variable {cs ds rest tail : List Char}

/-- Digits end before the next colon. -/
theorem takeDigits?_before_colon {digits : List Char}
    (h : takeDigits? (cs ++ ':' :: rest) = some (digits, tail)) :
    ∃ left, left <:+ cs ∧ tail = left ++ ':' :: rest := by
  unfold takeDigits? at h
  split at h
  · cases h
  · obtain ⟨-, rfl⟩ := Prod.mk.inj (Option.some.inj h)
    have hcolon : (':' :: rest).dropWhile isDigit = ':' :: rest :=
      List.dropWhile_cons_of_neg (by simp [colon_not_digit])
    rw [List.dropWhile_append, hcolon]
    split
    · exact ⟨[], List.nil_suffix, rfl⟩
    · exact ⟨_, List.dropWhile_suffix isDigit, rfl⟩

/-- A position takes up at most one of two colons. -/
theorem takePosition?_before_colons {p : Position}
    (h : takePosition? (cs ++ ':' :: (ds ++ ':' :: rest)) = some (p, tail)) :
    (∃ left, tail = left ++ ':' :: (ds ++ ':' :: rest)) ∨
      ∃ left, left <:+ ds ∧ tail = left ++ ':' :: rest := by
  unfold takePosition? at h
  split at h
  · next line more hline =>
    obtain ⟨⟨column, tail'⟩, hcolumn, hp⟩ := Option.map_eq_some_iff.1 h
    obtain ⟨-, rfl⟩ := Prod.mk.inj hp
    obtain ⟨left, -, hleft⟩ := takeDigits?_before_colon hline
    cases left with
    | nil =>
      obtain ⟨-, rfl⟩ := List.cons.inj hleft
      exact .inr (takeDigits?_before_colon hcolumn)
    | cons c left =>
      obtain ⟨-, rfl⟩ := List.cons.inj hleft
      obtain ⟨left', -, htail⟩ := takeDigits?_before_colon hcolumn
      exact .inl ⟨left', htail⟩
  · cases h

theorem atLineEnd_of_colon (h : ':' ∈ tail) : atLineEnd tail = false := by
  unfold atLineEnd
  split
  · cases h
  · cases h with
    | tail _ h => cases h
  · rfl

/-- No positions are read where two colons have no dash between them. -/
theorem readPositions?_two_colons (hdash : '-' ∉ ds) :
    readPositions? (cs ++ ':' :: (ds ++ ':' :: rest)) = none := by
  unfold readPositions?
  split
  · rfl
  · next start more hstart =>
    -- The dash stands before both colons, so the end has to take up both of them.
    obtain ⟨left, hleft⟩ : ∃ left, more = left ++ ':' :: (ds ++ ':' :: rest) := by
      obtain ⟨left, hleft⟩ | ⟨left, hds, hleft⟩ := takePosition?_before_colons hstart
      · cases left with
        | nil => cases hleft
        | cons c left => exact ⟨left, (List.cons.inj hleft).2⟩
      · cases left with
        | nil => cases hleft
        | cons c left =>
          obtain ⟨rfl, -⟩ := List.cons.inj hleft
          exact absurd (hds.subset List.mem_cons_self) hdash
    rw [hleft]
    split
    · next finish tail hfinish =>
      have hcolon : ':' ∈ tail := by
        obtain ⟨_, rfl⟩ | ⟨_, -, rfl⟩ := takePosition?_before_colons hfinish <;> simp
      rw [atLineEnd_of_colon hcolon]
      rfl
    · rfl
  · next start tail _ hstart =>
    have hcolon : ':' ∈ tail := by
      obtain ⟨_, rfl⟩ | ⟨_, -, rfl⟩ := takePosition?_before_colons hstart <;> simp
    rw [atLineEnd_of_colon hcolon]
    rfl

end TwoColons

/-! ## §4 Files -/

theorem writtenPositions_eq (start : Position) (finish : Option Position) :
    ∃ rest, writtenPositions start finish = start.line ++ ':' :: rest := by
  cases finish with
  | none => exact ⟨_, rfl⟩
  | some finish =>
    exact ⟨start.column ++ '-' :: finish.written, by simp [writtenPositions, Position.written]⟩

/-- The file is read up to the colon that was put behind it, whatever it holds. -/
theorem readAfterFile?_file {file : List Char} (hline : '\n' ∉ file) (passed : List Char)
    {start : Position} (hstart : start.Digits) {finish : Option Position}
    (hfinish : ∀ p ∈ finish, p.Digits) :
    readAfterFile? passed (file ++ ':' :: writtenPositions start finish) =
      some ⟨passed.reverse ++ file, start, finish⟩ := by
  induction file generalizing passed with
  | nil => simp [readAfterFile?, readPositions?_written hstart hfinish]
  | cons c file ih =>
    obtain ⟨hc, hfile⟩ := not_or.1 (mt List.mem_cons.2 hline)
    have hpass := ih hfile (c :: passed)
    rw [List.reverse_cons, List.append_assoc, List.singleton_append] at hpass
    rw [List.cons_append, readAfterFile?, if_neg (by simpa using Ne.symm hc)]
    split
    · obtain ⟨rest, hrest⟩ := writtenPositions_eq start finish
      rw [hrest, readPositions?_two_colons (hstart.line.not_mem dash_not_digit), ← hrest]
      exact hpass
    · exact hpass

/-- What holds neither a colon nor a line feed cannot end a file. -/
theorem readAfterFile?_append {ds : List Char} (hcolon : ':' ∉ ds) (hline : '\n' ∉ ds)
    (passed rest : List Char) :
    readAfterFile? passed (ds ++ rest) = readAfterFile? (ds.reverse ++ passed) rest := by
  induction ds generalizing passed with
  | nil => rfl
  | cons d ds ih =>
    obtain ⟨hd, hds⟩ := not_or.1 (mt List.mem_cons.2 hcolon)
    obtain ⟨hd', hds'⟩ := not_or.1 (mt List.mem_cons.2 hline)
    rw [List.cons_append, readAfterFile?, if_neg (by simpa using Ne.symm hd'),
      if_neg (by simpa using Ne.symm hd), ih hds hds']
    simp

/-- The colon inside a position does not end a file: no position follows. -/
theorem readAfterFile?_position {p : Position} (hp : p.Digits) (passed : List Char) {rest : List Char}
    (hdigit : ∀ c ∈ rest.head?, isDigit c = false) (hcolon : rest.head? ≠ some ':') :
    readAfterFile? passed (p.written ++ rest) =
      readAfterFile? (p.written.reverse ++ passed) rest := by
  have hskip {ds : List Char} (hds : IsDigits ds) (passed rest : List Char) :=
    readAfterFile?_append (hds.not_mem colon_not_digit) (hds.not_mem newline_not_digit) passed rest
  have hnone : readPositions? (p.column ++ rest) = none := by
    rw [readPositions?, takePosition?, takeDigits?_append hp.column hdigit]
    cases rest with
    | nil => rfl
    | cons c rest =>
      have hc : c ≠ ':' := by simpa using hcolon
      split
      · rfl
      · next h => simp [hc] at h
      · next h => simp [hc] at h
  rw [Position.written, List.append_assoc, hskip hp.line, List.cons_append, readAfterFile?,
    if_neg (by decide), if_pos (by decide), hnone]
  dsimp only
  rw [hskip hp.column]
  simp

/-- In positions alone there is no file to be found. -/
theorem readAfterFile?_positions {start : Position} (hstart : start.Digits) {finish : Option Position}
    (hfinish : ∀ p ∈ finish, p.Digits) : readAfterFile? [] (writtenPositions start finish) = none := by
  have hlast {p : Position} (hp : p.Digits) (passed : List Char) :
      readAfterFile? passed p.written = none := by
    have h := @readAfterFile?_position p hp passed [] nofun nofun
    rwa [List.append_nil, readAfterFile?] at h
  cases finish with
  | none => exact hlast hstart []
  | some finish =>
    rw [writtenPositions, readAfterFile?_position hstart [] _ (by simp)]
    · rw [readAfterFile?, if_neg (by decide), if_neg (by decide), hlast (hfinish finish rfl)]
    · rintro _ ⟨⟩
      exact dash_not_digit

/-- A written location is cut where it was put together. -/
theorem readLocation?_written {l : LocationText} (hl : l.Digits) (hline : '\n' ∉ l.file) :
    readLocation? l.written = some l := by
  obtain ⟨file, start, finish⟩ := l
  cases file with
  | nil =>
    simp [LocationText.written, readLocation?, readAfterFile?_positions hl.start hl.finish,
      readPositions?_written hl.start hl.finish]
  | cons c file =>
    have hfile := readAfterFile?_file hline [] hl.start hl.finish
    rw [LocationText.written, if_neg (by simp), readLocation?, hfile]
    rfl

/-! ## §5 Numbers -/

/-- The position of a line and a column, with their digits as they are printed. -/
def Position.printed (line column : Nat) : Position := ⟨Nat.toDigits 10 line, Nat.toDigits 10 column⟩

/-- Neither number has too many digits. -/
def Position.Fits (line column : Nat) : Prop := line < 10 ^ digitLimit ∧ column < 10 ^ digitLimit

instance (line column : Nat) : Decidable (Position.Fits line column) :=
  inferInstanceAs (Decidable (_ ∧ _))

theorem Position.digits_printed (line column : Nat) : (Position.printed line column).Digits :=
  ⟨isDigits_toDigits line, isDigits_toDigits column⟩

theorem readNumber_toDigits (n : Nat) :
    readNumber (Nat.toDigits 10 n) = if n < 10 ^ digitLimit then .ok (n : Int) else .error .badValue := by
  by_cases hn : n < 10 ^ digitLimit
  · rw [readNumber, decimal?_toDigits hn, if_pos hn]
  · rw [readNumber, decimal?_eq_none (mt length_toDigits_le_digitLimit.1 hn), if_neg hn]

/-- Printed numbers are read, unless one of them has too many digits. -/
theorem Position.numbers_printed (line column : Nat) :
    (printed line column).numbers =
      if Fits line column then .ok ((line : Int), (column : Int)) else .error .badValue := by
  rw [numbers, printed, readNumber_toDigits, readNumber_toDigits]
  by_cases hfits : Fits line column
  · rw [if_pos hfits, if_pos hfits.1, if_pos hfits.2]
    rfl
  · rw [if_neg hfits]
    by_cases hline : line < 10 ^ digitLimit
    · have hcolumn : ¬ column < 10 ^ digitLimit := fun h => hfits ⟨hline, h⟩
      rw [if_pos hline, if_neg hcolumn]
      rfl
    · rw [if_neg hline]

/-- A location by its numbers, with the digits as they are printed. -/
def LocationText.printed (file : List Char) (line column : Nat) (finish : Option (Nat × Nat)) :
    LocationText :=
  ⟨file, .printed line column, finish.map fun p => .printed p.1 p.2⟩

theorem LocationText.digits_printed (file : List Char) (line column : Nat)
    (finish : Option (Nat × Nat)) : (LocationText.printed file line column finish).Digits where
  start := Position.digits_printed line column
  finish := fun p hp => by
    obtain ⟨q, -, rfl⟩ := Option.map_eq_some_iff.1 hp
    exact Position.digits_printed q.1 q.2

/-- The span of a location has its numbers, and ends where it starts if no end is given. One number with
too many digits keeps the location from being read. -/
theorem LocationText.span_printed (file : List Char) (inherited : String) (line column : Nat)
    (finish : Option (Nat × Nat)) :
    let last := finish.getD (line, column)
    (printed file line column finish).span inherited =
      if Position.Fits line column ∧ Position.Fits last.1 last.2 then
        .ok ⟨if file.isEmpty then inherited else String.ofList file, line, column, last.1, last.2⟩
      else .error .badValue := by
  intro last
  have hlast : (finish.map fun p => Position.printed p.1 p.2).getD (.printed line column) =
      .printed last.1 last.2 := by
    cases finish <;> rfl
  simp only [span, printed, hlast, Position.numbers_printed]
  by_cases hstart : Position.Fits line column
  · by_cases hend : Position.Fits last.1 last.2
    · rw [if_pos hstart, if_pos hend, if_pos ⟨hstart, hend⟩]
      rfl
    · rw [if_pos hstart, if_neg hend, if_neg fun h => hend h.2]
      rfl
  · have hnot : ¬ (Position.Fits line column ∧ Position.Fits last.1 last.2) := fun h => hstart h.1
    rw [if_neg hstart, if_neg hnot]

/-! ## §6 Nodes -/

/-- The node gives its place as this text. -/
structure Entries.PlacedAt (node : Entries) (text : String) : Prop where
  noSpan : ∀ fields, node.find "span" ≠ .map fields
  loc : node.find "loc" = .str text

theorem Entries.PlacedAt.ofNode_eq {node : Entries} {text : String} (h : node.PlacedAt text)
    (inherited : String) : Span.ofNode node inherited = Span.ofLocation text inherited := by
  unfold Span.ofNode
  split
  · next fields hspan => exact absurd hspan (h.noSpan fields)
  · rw [h.loc]

/-- A node at a printed location has the span of the location, if all numbers in it can be read. -/
theorem Entries.PlacedAt.ofNode_printed {node : Entries} {text : String} (h : node.PlacedAt text)
    {file : List Char} (hline : '\n' ∉ file) {line column : Nat} {finish : Option (Nat × Nat)}
    (htext : text.toList = (LocationText.printed file line column finish).written)
    (inherited : String) :
    let last := finish.getD (line, column)
    Span.ofNode node inherited =
      if Position.Fits line column ∧ Position.Fits last.1 last.2 then
        .ok ⟨if file.isEmpty then inherited else String.ofList file, line, column, last.1, last.2⟩
      else .error (.fault .badValue) := by
  intro last
  rw [h.ofNode_eq, Span.ofLocation, htext,
    readLocation?_written (LocationText.digits_printed file line column finish) hline]
  simp only [LocationText.span_printed, apply_ite (Except.mapError Error.fault)]
  rfl

/-- The printed form of a span is its file and its start. -/
theorem Span.text_of_start {s : Span} {line column : Nat} (hline : s.line = line)
    (hcolumn : s.column = column) :
    s.text = s.file ++ ":" ++ (toString line ++ ":" ++ toString column) := by
  have hprinted (n : Nat) : toString (n : Int) = toString n := rfl
  rw [Span.text, hline, hcolumn, hprinted, hprinted]
  simp only [String.append_assoc]

theorem toList_position (line column : Nat) :
    (toString line ++ ":" ++ toString column).toList = (Position.printed line column).written := by
  simp [Position.written, Position.printed]

section Written

variable {file : String} (hfile : file ≠ "") (line column endLine endColumn : Nat)

theorem toList_start : (toString line ++ ":" ++ toString column).toList =
    (LocationText.printed [] line column none).written :=
  toList_position line column

theorem toList_start_finish :
    (toString line ++ ":" ++ toString column ++ "-" ++ (toString endLine ++ ":" ++ toString endColumn)).toList =
      (LocationText.printed [] line column (some (endLine, endColumn))).written := by
  simp [LocationText.written, LocationText.printed, writtenPositions, ← toList_position]

include hfile

theorem toList_file_start : (file ++ ":" ++ (toString line ++ ":" ++ toString column)).toList =
    (LocationText.printed file.toList line column none).written := by
  simp [LocationText.written, LocationText.printed, writtenPositions, ← toList_position, hfile]

theorem toList_file_start_finish :
    (file ++ ":" ++ (toString line ++ ":" ++ toString column) ++ "-" ++
      (toString endLine ++ ":" ++ toString endColumn)).toList =
      (LocationText.printed file.toList line column (some (endLine, endColumn))).written := by
  simp [LocationText.written, LocationText.printed, writtenPositions, ← toList_position, hfile]

end Written

/-- Whatever a file is called, as long as it is called something and the name has no line feed, a node
placed at this file, a line and a column begins there, and it ends there or where the location says.
So the printed form of a span leads back to its start. A node placed without a file lies in the
inherited one. All this holds of numbers that can be read: a location in which a number has too many
digits is refused with a fault. -/
theorem written_location_read_back (file inherited : String) (hfile : file ≠ "")
    (hline : '\n' ∉ file.toList) (line column endLine endColumn : Nat) :
    let start := toString line ++ ":" ++ toString column
    let finish := toString endLine ++ ":" ++ toString endColumn
    let startFits := Position.Fits line column
    let endFits := Position.Fits endLine endColumn
    let places (text : String) (s : Span) :=
      ∀ node : Entries, node.PlacedAt text → Span.ofNode node inherited = .ok s
    let refused (text : String) :=
      ∀ node : Entries, node.PlacedAt text → Span.ofNode node inherited = .error (.fault .badValue)
    (startFits →
      places (file ++ ":" ++ start) ⟨file, line, column, line, column⟩ ∧
      places start ⟨inherited, line, column, line, column⟩ ∧
      ∀ s : Span, s.file = file → s.line = line → s.column = column →
        places s.text ⟨file, line, column, line, column⟩) ∧
    (startFits → endFits →
      places (file ++ ":" ++ start ++ "-" ++ finish) ⟨file, line, column, endLine, endColumn⟩ ∧
      places (start ++ "-" ++ finish) ⟨inherited, line, column, endLine, endColumn⟩) ∧
    (¬ startFits → refused (file ++ ":" ++ start) ∧ refused start) ∧
    (¬ (startFits ∧ endFits) →
      refused (file ++ ":" ++ start ++ "-" ++ finish) ∧ refused (start ++ "-" ++ finish)) := by
  intro start finish startFits endFits places refused
  have hnone : '\n' ∉ ([] : List Char) := List.not_mem_nil
  have hnamed : (if file.toList.isEmpty then inherited else String.ofList file.toList) = file := by
    simp [hfile]
  have hstart : startFits → places (file ++ ":" ++ start) ⟨file, line, column, line, column⟩ := by
    intro hfits node hnode
    rw [hnode.ofNode_printed hline (toList_file_start hfile line column), hnamed]
    exact if_pos ⟨hfits, hfits⟩
  have hshort : startFits → places start ⟨inherited, line, column, line, column⟩ := by
    intro hfits node hnode
    rw [hnode.ofNode_printed hnone (toList_start line column)]
    exact if_pos ⟨hfits, hfits⟩
  refine ⟨fun hfits => ⟨hstart hfits, hshort hfits, ?_⟩, fun hfits hendFits => ⟨?_, ?_⟩,
    fun hlong => ⟨?_, ?_⟩, fun hlong => ⟨?_, ?_⟩⟩
  · intro s hs hl hc
    rw [Span.text_of_start hl hc, hs]
    exact hstart hfits
  · intro node hnode
    rw [hnode.ofNode_printed hline (toList_file_start_finish hfile line column endLine endColumn),
      hnamed]
    exact if_pos ⟨hfits, hendFits⟩
  · intro node hnode
    rw [hnode.ofNode_printed hnone (toList_start_finish line column endLine endColumn)]
    exact if_pos ⟨hfits, hendFits⟩
  · intro node hnode
    rw [hnode.ofNode_printed hline (toList_file_start hfile line column)]
    exact if_neg fun h => hlong h.1
  · intro node hnode
    rw [hnode.ofNode_printed hnone (toList_start line column)]
    exact if_neg fun h => hlong h.1
  · intro node hnode
    rw [hnode.ofNode_printed hline (toList_file_start_finish hfile line column endLine endColumn)]
    exact if_neg hlong
  · intro node hnode
    rw [hnode.ofNode_printed hnone (toList_start_finish line column endLine endColumn)]
    exact if_neg hlong

/-- A file whose name reads as positions itself. -/
theorem location_in_file_of_positions :
    Span.ofNode [(.str "kind", .str "Literal"), (.str "loc", .str "1:2-3:4:5:6-7:8")] "a.cpp" =
      .ok ⟨"1:2-3:4", 5, 6, 7, 8⟩ := by
  have h := written_location_read_back "1:2-3:4" "a.cpp" (by decide) (by decide) 5 6 7 8
  have hstart : Position.Fits 5 6 := ⟨by decide +kernel, by decide +kernel⟩
  have hend : Position.Fits 7 8 := ⟨by decide +kernel, by decide +kernel⟩
  exact (h.2.1 hstart hend).1 _ ⟨by simp [Entries.find, Entries.get?], rfl⟩

/-- A line with one digit more than can be read. -/
theorem long_line_not_read :
    let line := 10 ^ digitLimit
    let text := "a.cpp" ++ ":" ++ (toString line ++ ":" ++ toString 1)
    Span.ofNode [(.str "kind", .str "ReturnStatement"), (.str "loc", .str text)] "" =
      .error (.fault .badValue) := by
  intro line text
  have hplaced : Entries.PlacedAt
      [(.str "kind", .str "ReturnStatement"), (.str "loc", .str text)] text :=
    ⟨by simp [Entries.find, Entries.get?], rfl⟩
  have hlong : ¬ Position.Fits line 1 := fun h => Nat.lt_irrefl _ h.1
  rw [hplaced.ofNode_printed (by decide) (toList_file_start (by decide) line 1)]
  exact if_neg fun h => hlong h.1

end CppIdioms
