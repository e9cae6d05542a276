import CppIdioms.Proofs.Capitals
import CppIdioms.Proofs.Exclusion
import CppIdioms.Settings.Loading
import CppIdioms.Yaml.Document

/-!
# Reading settings

Data either describe settings that are within their bounds or are refused with an error of settings,
with two ways out. An infinite number has no whole part, and the attempt to take it is a fault of its
own, which the check of a number setting lets through. And a rule that is left out is written as a text,
which fails for a number with too many digits.

A settings file is read as a document, and the value of the document is read as settings. A value that
is a text counts as a document again, so a file that holds nothing but a text is read twice. How a
document is read plays no part: all statements hold for any reader.

## Contents

* `Settings.InBounds`: what a detector relies on.
* `Settings.dataOf`, `Settings.numbers`, `Settings.exclusionsGiven`: the data of a content, the number
  settings among them, and the rules that they leave out.
* `Settles`: the outcome of a check, as far as an infinite number decides it.

## Main statements

* `wholeSetting_settles`, `ruleSettings_settles`, `workerSetting_settles`, `checked_settles`: the
  outcome of each check and of all together.
* `ofData_outcomes`: what data can come to.
* `ofContent_within_bounds`: settings within their bounds, or which error.
* `load_reads_content`: settings by path are those of the content of the file, with one exception.
-/

namespace CppIdioms

open CppIdioms.Text CppIdioms.Files

/-! ## §1 Bounds -/

/-- What a detector relies on: the numbers are whole and not below their least values, and the rules
that are left out are given as ids are compared. -/
structure Settings.InBounds (s : Settings) : Prop where
  minBranches : ∃ n : Int, s.minBranches = .int n ∧ 2 ≤ n
  sizeThreshold : ∃ n : Int, s.sizeThreshold = .int n ∧ 0 ≤ n
  excluded : ∀ id ∈ s.excluded, trimmed id = id ∧ upper id = id
  workers : s.workers = .null ∨ ∃ n : Int, s.workers = .int n ∧ 1 ≤ n

theorem mem_normalized_stable {ids : List Value} {id : String} (h : id ∈ normalized ids) :
    trimmed id = id ∧ upper id = id := by
  obtain ⟨v, _, rfl⟩ := List.mem_map.1 (mem_inOrder.1 h)
  exact ruleId_stable v

/-- An infinite number. -/
def Value.isInfinite : Value → Bool
  | .float (.infinite _) => true
  | _ => false

namespace Settings

variable (read : String → Except Error Value)

/-- The data of a content: those of the document, if it is a text. -/
def dataOf : Value → Except Error Value
  | .str text => (read text).map orNoEntries
  | data => .ok data

/-- The settings of rules that are given. -/
def rulesGiven (entries : Entries) : Entries :=
  match entries.find "rules" with
  | .map rules => rules
  | _ => []

/-- What is given for the settings that are numbers; nothing, where none is given. -/
def numbers : Value → List Value
  | .map entries =>
    [(rulesGiven entries).find "min_else_if_branches",
      (rulesGiven entries).find "trivial_size_threshold", Entries.find entries "max_workers"]
  | _ => []

/-- The rules that data leave out; none, where none can be read. -/
def exclusionsGiven : Value → List Value
  | .map entries =>
    match exclusions (Entries.find entries "exclude") with
    | .ok ids => ids
    | .error _ => []
  | _ => []

/-- A value that is no text is not read as a document. -/
theorem ofContent_of_not_text {value : Value} (h : ∀ text, value ≠ .str text) :
    ofContent read value = ofData value := by
  unfold ofContent
  split
  · next text => exact absurd rfl (h text)
  · rfl

/-- A content is read in two steps: its data, and what they describe. -/
theorem ofContent_eq_bind (content : Value) :
    ofContent read content = (dataOf read content).bind ofData := by
  unfold dataOf
  split
  · next text =>
    change (read text).bind (fun v => ofData (orNoEntries v)) = _
    cases read text <;> rfl
  · next hnot => exact ofContent_of_not_text read hnot

end Settings

/-! ## §2 Outcomes -/

/-- The outcome of a check: an answer is good, an error is one of settings, and the only other error
is the fault at an infinite number, which never passes. -/
structure Settles {α : Type} (infinite : Prop) (good : α → Prop) (outcome : Except Error α) : Prop where
  answer : ∀ a, outcome = .ok a → ¬ infinite ∧ good a
  refusal : ∀ e, outcome = .error e →
    (∃ cause, e = .settings cause) ∨ (infinite ∧ e = .fault .overflow)

namespace Settles

variable {α β : Type} {infinite further : Prop} {good : α → Prop} {goodNext : β → Prop}

theorem pass {a : α} (hinf : ¬ infinite) (h : good a) : Settles infinite good (.ok a) where
  answer := by
    rintro _ ⟨⟩
    exact ⟨hinf, h⟩
  refusal := by rintro _ ⟨⟩

theorem refuse (cause : SettingsError) : Settles infinite good (.error (.settings cause)) where
  answer := by rintro _ ⟨⟩
  refusal := by
    rintro _ ⟨⟩
    exact .inl ⟨cause, rfl⟩

theorem fault (hinf : infinite) : Settles infinite good (.error (.fault .overflow)) where
  answer := by rintro _ ⟨⟩
  refusal := by
    rintro _ ⟨⟩
    exact .inr ⟨hinf, rfl⟩

/-- Checks one after the other: an infinite number at either of them is one of both. -/
theorem bind {outcome : Except Error α} {next : α → Except Error β} (h : Settles infinite good outcome)
    (hnext : ∀ a, good a → Settles further goodNext (next a)) :
    Settles (infinite ∨ further) goodNext (outcome.bind next) := by
  cases outcome with
  | error e =>
    refine ⟨by rintro _ ⟨⟩, ?_⟩
    rintro _ ⟨⟩
    exact (h.refusal e rfl).imp_right (And.imp_left Or.inl)
  | ok a =>
    obtain ⟨hinf, ha⟩ := h.answer a rfl
    obtain ⟨hanswer, hrefusal⟩ := hnext a ha
    refine ⟨fun b hb => ?_, fun e he => (hrefusal e he).imp_right (And.imp_left Or.inr)⟩
    obtain ⟨hfurther, hb⟩ := hanswer b hb
    exact ⟨fun hor => hor.elim hinf hfurther, hb⟩

theorem map {outcome : Except Error α} {f : α → β} (h : Settles infinite good outcome)
    (hf : ∀ a, good a → goodNext (f a)) : Settles infinite goodNext (outcome.map f) := by
  cases outcome with
  | error e => exact ⟨by rintro _ ⟨⟩, by rintro _ ⟨⟩; exact h.refusal e rfl⟩
  | ok a =>
    obtain ⟨hinf, ha⟩ := h.answer a rfl
    exact pass hinf (hf a ha)

theorem congr {outcome : Except Error α} (h : Settles infinite good outcome) (hiff : infinite ↔ further) :
    Settles further good outcome := by
  rwa [← propext hiff]

end Settles

/-! ## §3 The checks -/

/-- Of all values, the infinite numbers are those whose whole part is out of range. -/
theorem toInt_eq_overflow_iff (v : Value) : v.toInt = .error .overflow ↔ v.isInfinite := by
  cases v with
  | float x => cases x <;> simp [Value.toInt, Value.isInfinite, Number.Binary64.truncate?]
  | str s =>
    simp only [Value.toInt, Value.isInfinite]
    split <;> simp
  | _ => simp [Value.toInt, Value.isInfinite]

theorem wholeSetting_settles (key : String) (v : Value) :
    Settles v.isInfinite (fun _ => True) (wholeSetting key v) := by
  have hoverflow := toInt_eq_overflow_iff v
  unfold wholeSetting
  split
  · exact .refuse _
  · split
    · next h => exact .fault (hoverflow.1 h)
    · exact .refuse _
    · next h => exact .pass (fun hinf => by simp [hoverflow.2 hinf] at h) trivial
    · exact .refuse _

theorem isInfinite_getD (o : Option Value) (n : Int) :
    (o.getD (.int n)).isInfinite = (o.getD .null).isInfinite := by
  cases o <;> rfl

theorem ruleSettings_settles (rules : Entries) :
    Settles ((rules.find "min_else_if_branches").isInfinite ∨
        (rules.find "trivial_size_threshold").isInfinite)
      (fun found : Nat × Nat => 2 ≤ found.1) (ruleSettings rules) := by
  have hsetting : ∀ (key : String) (n : Int), Settles (rules.find key).isInfinite (fun _ => True)
      (wholeSetting ("rules." ++ key) ((Entries.get? key rules).getD (.int n))) := fun key n => by
    have h := wholeSetting_settles ("rules." ++ key) ((Entries.get? key rules).getD (.int n))
    rwa [isInfinite_getD] at h
  have hbind : ruleSettings rules =
      (wholeSetting ("rules." ++ "min_else_if_branches")
          ((Entries.get? "min_else_if_branches" rules).getD (.int 4))).bind fun branches =>
        if branches < 2 then .error (.settings .tooFewBranches)
        else (wholeSetting ("rules." ++ "trivial_size_threshold")
          ((Entries.get? "trivial_size_threshold" rules).getD (.int 16))).map fun size =>
            (branches, size) := by
    unfold ruleSettings
    dsimp only
    split <;> next h => rw [h]; rfl
  rw [hbind]
  refine (hsetting "min_else_if_branches" 4).bind fun branches _ => ?_
  split
  · exact .refuse _
  · next hle => exact (hsetting "trivial_size_threshold" 16).map fun size _ => Nat.le_of_not_lt hle

theorem exclusions_settles (v : Value) :
    Settles False (fun ids => exclusions v = .ok ids) (exclusions v) := by
  cases h : exclusions v with
  | ok ids => exact .pass id rfl
  | error e =>
    unfold exclusions at h
    split at h
    · cases h
    · split at h <;> cases h
      exact .refuse _

theorem workerSetting_settles (v : Value) :
    Settles v.isInfinite (fun w => w = .null ∨ ∃ n : Int, w = .int n ∧ 1 ≤ n) (workerSetting v) := by
  have hwhole := wholeSetting_settles "max_workers" v
  unfold workerSetting
  split
  · exact .pass (by simp [Value.isInfinite]) (.inl rfl)
  · split
    · next e h => exact ⟨by rintro _ ⟨⟩, by rintro _ ⟨⟩; exact hwhole.refusal e h⟩
    · exact .refuse _
    · next n hpos h =>
      refine .pass (hwhole.answer n h).1 (.inr ⟨n, rfl, ?_⟩)
      have hne : n ≠ 0 := hpos
      omega

/-- The settings of rules are a mapping, or nothing at all. -/
def Settings.checkedRules (entries : Entries) : Except Error Entries :=
  match entries.find "rules" with
  | .map rules => .ok rules
  | v => if v.isTrue then .error (.settings .rulesNotAMapping) else .ok []

/-- What is found in a mapping by the three checks, one after the other: the settings of rules, the rules
that are left out, and the workers. -/
def Settings.checked (entries : Entries) : Except Error ((Nat × Nat) × List Value × Value) :=
  ((Settings.checkedRules entries).bind ruleSettings).bind fun found =>
    (exclusions (entries.find "exclude")).bind fun ids =>
      (workerSetting (entries.find "max_workers")).map fun workers => (found, ids, workers)

/-- After the checks the rules that are left out are written as texts. -/
theorem ofEntries_eq_bind (entries : Entries) :
    Settings.ofEntries entries =
      (Settings.checked entries).bind fun (found, ids, workers) =>
        ((normalize ids).mapError .fault).map fun excluded =>
          ⟨.int found.1, .int found.2, excluded, workers⟩ := by
  unfold Settings.ofEntries Settings.checked
  dsimp only
  split
  · next e h =>
    have hrules : (Settings.checkedRules entries).bind ruleSettings = .error e := h
    rw [hrules, Except.bind, Except.bind]
  · next branches size h =>
    have hrules : (Settings.checkedRules entries).bind ruleSettings = .ok (branches, size) := h
    rw [hrules, Except.bind]
    cases exclusions (entries.find "exclude") with
    | error e => rfl
    | ok ids => cases workerSetting (entries.find "max_workers") <;> rfl

theorem checkedRules_settles (entries : Entries) :
    Settles (((Settings.rulesGiven entries).find "min_else_if_branches").isInfinite ∨
        ((Settings.rulesGiven entries).find "trivial_size_threshold").isInfinite)
      (fun found : Nat × Nat => 2 ≤ found.1)
      ((Settings.checkedRules entries).bind ruleSettings) := by
  unfold Settings.rulesGiven Settings.checkedRules
  split
  · exact ruleSettings_settles _
  · split
    · exact .refuse _
    · exact ruleSettings_settles _

/-- The checks are settled by whether one of the number settings is infinite. -/
theorem checked_settles (entries : Entries) :
    Settles (∃ v ∈ Settings.numbers (.map entries), v.isInfinite)
      (fun (found, ids, workers) => 2 ≤ found.1 ∧ ids = Settings.exclusionsGiven (.map entries) ∧
        (workers = .null ∨ ∃ n : Int, workers = .int n ∧ 1 ≤ n))
      (Settings.checked entries) := by
  have hall : Settles _
      (fun (found, ids, workers) => 2 ≤ found.1 ∧ ids = Settings.exclusionsGiven (.map entries) ∧
        (workers = .null ∨ ∃ n : Int, workers = .int n ∧ 1 ≤ n)) (Settings.checked entries) :=
    (checkedRules_settles entries).bind fun found hfound =>
      (exclusions_settles (Entries.find entries "exclude")).bind fun ids hids =>
        (workerSetting_settles (Entries.find entries "max_workers")).map
          (f := fun workers => (found, ids, workers)) fun workers hworkers =>
            ⟨hfound, by rw [Settings.exclusionsGiven, hids], hworkers⟩
  refine hall.congr ?_
  simp [Settings.numbers, or_assoc]

/-- What data can come to: settings within their bounds; an error of settings; the fault at an infinite
number; or, where no number is infinite, the fault at a rule that cannot be written. -/
theorem ofData_outcomes (data : Value) :
    let infinite := ∃ v ∈ Settings.numbers data, v.isInfinite
    let writable := ∀ id ∈ Settings.exclusionsGiven data, id.isWritable
    (¬ infinite ∧ writable ∧ ∃ s, Settings.ofData data = .ok s ∧ s.InBounds) ∨
      (∃ cause, Settings.ofData data = .error (.settings cause)) ∨
      (infinite ∧ Settings.ofData data = .error (.fault .overflow)) ∨
      (¬ infinite ∧ ¬ writable ∧ Settings.ofData data = .error (.fault .badValue)) := by
  intro infinite writable
  cases data with
  | map entries =>
    have hsettles := checked_settles entries
    rw [Settings.ofData, ofEntries_eq_bind]
    cases hchecked : Settings.checked entries with
    | error e =>
      rw [Except.bind]
      rcases hsettles.refusal e hchecked with ⟨cause, rfl⟩ | ⟨hinf, rfl⟩
      · exact .inr (.inl ⟨cause, rfl⟩)
      · exact .inr (.inr (.inl ⟨hinf, rfl⟩))
    | ok found =>
      obtain ⟨found, ids, workers⟩ := found
      obtain ⟨hfinite, hbranches, hids, hworkers⟩ := hsettles.answer _ hchecked
      have hwritable : ids.all Value.isWritable = true ↔ writable := by
        rw [hids, List.all_eq_true]
      rw [Except.bind]
      simp only [normalize]
      by_cases hall : writable
      · rw [if_pos (hwritable.2 hall)]
        refine .inl ⟨hfinite, hall, _, rfl, ?_⟩
        exact
          { minBranches := ⟨found.1, rfl, by omega⟩
            sizeThreshold := ⟨found.2, rfl, by omega⟩
            excluded := fun id hid => mem_normalized_stable hid
            workers := hworkers }
      · rw [if_neg (mt hwritable.1 hall)]
        exact .inr (.inr (.inr ⟨hfinite, hall, rfl⟩))
  | _ => exact .inr (.inl ⟨_, rfl⟩)

/-! ## §4 Settings from a content -/

/-- Whatever reads documents: a content whose data cannot be read gives the error of reading them. One
whose data can be read describes settings within their bounds or is refused with an error of settings,
unless one of the number settings is infinite or a rule that is left out has a number with too many
digits: then it is refused, with an error of settings or with the fault at the number. -/
theorem ofContent_within_bounds (read : String → Except Error Value) (content : Value) :
    (∀ e, Settings.dataOf read content = .error e → Settings.ofContent read content = .error e) ∧
    ∀ data, Settings.dataOf read content = .ok data →
      let finite := ∀ v ∈ Settings.numbers data, v.isInfinite = false
      let writable := ∀ id ∈ Settings.exclusionsGiven data, id.isWritable
      let refused := ∃ cause, Settings.ofContent read content = .error (.settings cause)
      (finite → writable → (∃ s, Settings.ofContent read content = .ok s ∧ s.InBounds) ∨ refused) ∧
      (finite → ¬ writable → refused ∨ Settings.ofContent read content = .error (.fault .badValue)) ∧
      (¬ finite → refused ∨ Settings.ofContent read content = .error (.fault .overflow)) := by
  rw [Settings.ofContent_eq_bind]
  refine ⟨fun e he => by rw [he]; rfl, fun data hdata => ?_⟩
  rw [hdata]
  intro finite writable refused
  have hfinite : finite ↔ ¬ ∃ v ∈ Settings.numbers data, v.isInfinite := by
    simp only [finite, not_exists, not_and, Bool.not_eq_true]
  change (finite → writable → (∃ s, Settings.ofData data = .ok s ∧ _) ∨ refused) ∧
    (finite → ¬ writable → refused ∨ Settings.ofData data = _) ∧
    (¬ finite → refused ∨ Settings.ofData data = _)
  rcases ofData_outcomes data with ⟨hinf, hall, hs⟩ | hcause | ⟨hinf, hfault⟩ | ⟨hinf, hall, hfault⟩
  · exact ⟨fun _ _ => .inl hs, fun _ hnot => absurd hall hnot, fun hnot => absurd (hfinite.2 hinf) hnot⟩
  · exact ⟨fun _ _ => .inr hcause, fun _ _ => .inl hcause, fun _ => .inl hcause⟩
  · exact ⟨fun h => absurd hinf (hfinite.1 h), fun h => absurd hinf (hfinite.1 h), fun _ => .inr hfault⟩
  · exact ⟨fun _ h => absurd h hall, fun _ _ => .inr hfault, fun hnot => absurd (hfinite.2 hinf) hnot⟩

/-- Three settings, each in another form than the one in which it is kept. -/
theorem ofContent_of_three_settings :
    let data := Value.map [(.str "rules", .map [(.str "min_else_if_branches", .str " 6 ")]),
      (.str "exclude", .str " r03 "), (.str "max_workers", .str "3")]
    ∃ s, Settings.ofContent Yaml.read data = .ok s ∧ s.InBounds := by
  intro data
  have hok : (Settings.ofContent Yaml.read data).isOk = true := by decide +kernel
  have houtcomes := (ofContent_within_bounds Yaml.read data).2 data rfl
  rcases houtcomes.1 (by decide) (by decide) with hs | ⟨cause, hcause⟩
  · exact hs
  · rw [hcause] at hok
    cases hok

/-- An infinite number of workers escapes the check, as data and in a document. -/
theorem ofContent_infinite_workers :
    Settings.ofContent Yaml.read (.map [(.str "max_workers", .float (.infinite false))]) =
        .error (.fault .overflow) ∧
      Settings.ofContent Yaml.read (.str "max_workers: .inf") = .error (.fault .overflow) := by
  refine ⟨rfl, ?_⟩
  have herror : (Settings.ofContent Yaml.read (.str "max_workers: .inf")).map (fun _ => ()) =
      .error (.fault .overflow) := by decide +kernel
  cases houtcome : Settings.ofContent Yaml.read (.str "max_workers: .inf") with
  | error e =>
    rw [houtcome] at herror
    rw [Except.error.inj herror]
  | ok s =>
    rw [houtcome] at herror
    cases herror

/-! ## §5 Settings from a file -/

theorem orNoEntries_eq_str {v : Value} {text : String} :
    orNoEntries v = .str text ↔ v = .str text ∧ text ≠ "" := by
  unfold orNoEntries Value.orElse
  constructor
  · intro h
    split at h
    · next htrue =>
      subst h
      simpa [Value.isTrue] using htrue
    · cases h
  · rintro ⟨rfl, hne⟩
    simp [Value.isTrue, hne]

/-- Whatever reads documents: settings by path are those of the text of the file that the path stands for,
if the document in it is anything but a text that is not empty. Such a text is read as a document in its
turn, while the text of the file describes no settings.

Reading a file makes every end of a line a line feed; that the document stays the same is assumed. -/
theorem load_reads_content (read : String → Except Error Value) (store : Store) (path text : String)
    (p : Path) (hp : Settings.locate? store (Path.ofText path) = some p)
    (htext : store.item? p = some (.file text))
    (hread : read (String.ofList (Store.readText text.toList)) = read text) :
    ((∀ inner, read text = .ok (.str inner) → inner = "") →
      (Settings.load read store path).1 = Settings.ofContent read (.str text)) ∧
    ∀ inner, read text = .ok (.str inner) → inner ≠ "" →
      (Settings.load read store path).1 = Settings.ofContent read (.str inner) ∧
        Settings.ofContent read (.str text) = .error (.settings .notAMapping) := by
  have hload : (Settings.load read store path).1 =
      (read text).bind fun v => Settings.ofContent read (orNoEntries v) := by
    simp only [Settings.load, hp, Settings.ofFile, Store.readDocument, htext, hread]
  have hcontent : Settings.ofContent read (.str text) =
      (read text).bind fun v => Settings.ofData (orNoEntries v) := rfl
  rw [hload, hcontent]
  cases hdocument : read text with
  | error e => exact ⟨fun _ => rfl, by rintro _ ⟨⟩⟩
  | ok v =>
    refine ⟨fun hempty => Settings.ofContent_of_not_text read fun inner hinner => ?_, ?_⟩
    · obtain ⟨rfl, hne⟩ := orNoEntries_eq_str.1 hinner
      exact hne (hempty inner rfl)
    · rintro inner ⟨⟩ hne
      have hinner : orNoEntries (.str inner) = .str inner := orNoEntries_eq_str.2 ⟨rfl, hne⟩
      exact ⟨by rw [Except.bind, hinner], by rw [Except.bind, hinner]; rfl⟩

/-- A file in a directory, with one setting. -/
theorem load_reads_exclusion :
    let text := "exclude: [R03]\n"
    let store := Store.ofNames [("d/idiomlint.yml", some text)]
    (Settings.load Yaml.read store "d").1 = Settings.ofContent Yaml.read (.str text) := by
  intro text store
  have hmapping : (Yaml.read text).map Value.typeName = .ok "dict" := by decide +kernel
  refine (load_reads_content Yaml.read store "d" text (Path.ofText "d/idiomlint.yml")
    (by decide +kernel) (by decide +kernel) (congrArg Yaml.read (by decide +kernel))).1
      fun inner hinner => ?_
  rw [hinner] at hmapping
  have hname : "str" = "dict" := Except.ok.inj hmapping
  exact absurd hname (by decide)

/-- A file with a quoted text: read as a file, it sets the number of workers; its text is refused. -/
theorem load_reads_quoted_twice :
    let text := "\"max_workers: 3\""
    let store := Store.ofNames [("a.yml", some text)]
    (Settings.load Yaml.read store "a.yml").1.isOk = true ∧
      (Settings.ofContent Yaml.read (.str text)).isOk = false := by
  decide +kernel

end CppIdioms
