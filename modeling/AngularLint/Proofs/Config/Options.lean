import AngularLint.Proofs.Config.Setting
import AngularLint.Proofs.Yaml.Keys

/-!
# Which options a rule takes

`Fits` says which options a rule takes, and as what. For any others `Misfits` says what is wrong
with them: its cases exclude each other, each asking for the absence of what comes before it, and
that is the order in which faults are told.

The search for a fault shows the values that may be at fault as it goes, also where another fault is
told in the end. So it comes to an end where all of them (`exhibits`) can be shown
(`not_fails_optionsFault?`); where it does, what it has found is the misfit, and where it has found
nothing the options fit (`misfits_of_optionsFault?`). That an option has one entry at most rests on
its keys being distinct.
-/

set_option autoImplicit false

namespace AngularLint.Setting

variable {σ : Type}

/-- The options that a rule takes, and what they are. -/
inductive Fits (d : Document) (rule : Rule σ) : List Datum → List Json → Prop
  | none : Fits d rule [] []
  | bare {option : Datum} (ofNames : rule.id = "consistent-test-filename")
      (entries : d.entries? option = some []) : Fits d rule [option] [.obj []]
  | suffix {option : Datum} {s : Text} (ofNames : rule.id = "consistent-test-filename")
      (entries : d.entries? option = some [(.text "suffix", .scalar (.text s))]) :
      Fits d rule [option] [.obj [("suffix", .str s)]]

/-- What is wrong with options that a rule does not take. -/
inductive Misfits [Limits] (d : Document) (rule : Rule σ) : List Datum → OptionFault → Prop
  | tooMany {data : List Datum} {text : Text} (many : rule.options.length < data.length)
      (shown : d.shownList data = .ok text) :
      Misfits d rule data (.tooMany text rule.options.length)
  | notObject {option : Datum} {text : Text} (ofNames : rule.id = "consistent-test-filename")
      (noMapping : d.entries? option = none) (shown : d.shown .option option = .ok text) :
      Misfits d rule [option] (.notObject text)
  | unexpectedKeys {option : Datum} {entries : List (Scalar × Datum)} {keys : List Text}
      (ofNames : rule.id = "consistent-test-filename")
      (mapping : d.entries? option = some entries) (unknown : keys ≠ [])
      (shown : ∀ text, text ∈ keys ↔
        ∃ e ∈ entries, e.1 ≠ .text "suffix" ∧ e.1.shown = .ok text) :
      Misfits d rule [option] (.unexpectedKeys keys)
  | notText {option value : Datum} {text : Text} (ofNames : rule.id = "consistent-test-filename")
      (entries : d.entries? option = some [(.text "suffix", value)])
      (other : ∀ s, value ≠ .scalar (.text s)) (shown : d.shown .value value = .ok text) :
      Misfits d rule [option] (.notText text)

/-- The values inside an option that may have to be shown. -/
def inside (d : Document) (option : Datum) : List Datum :=
  ((d.entries? option).getD []).flatMap fun e => [.scalar e.1, e.2]

/-- What may have to be shown of options: each of them, among all and by itself, and what is in
it. -/
def exhibits (d : Document) (data : List Datum) : List (Exhibit × Datum) :=
  data.flatMap fun option =>
    (.options, option) :: (.option, option) :: (inside d option).map (Prod.mk .value)

/-- Can everything be shown that is to be shown? -/
def CanShow [Limits] (d : Document) (shows : List (Exhibit × Datum)) : Prop :=
  ∀ e ∈ shows, ¬Fails (d.shown e.1 e.2)

/-! ## Showing -/

theorem shown_scalar [Limits] (d : Document) (exhibit : Exhibit) (s : Scalar) :
    d.shown exhibit (.scalar s) = Document.shownScalar s.shown := by
  rw [Document.shown, Document.shownAt]

theorem shownScalar_eq_ok_iff {r : Except Text.IntegerFault Text} {text : Text} :
    Document.shownScalar r = .ok text ↔ r = .ok text := by
  cases r with
  | error fault => exact iff_of_false (fun h => nomatch h) (fun h => nomatch h)
  | ok shown =>
    show Except.ok shown = Except.ok text ↔ _
    rw [Except.ok.injEq, Except.ok.injEq]

theorem fails_shownScalar_iff {r : Except Text.IntegerFault Text} :
    Fails (Document.shownScalar r) ↔ Fails r := by
  cases r with
  | error fault => exact iff_of_true ⟨_, rfl⟩ ⟨_, rfl⟩
  | ok shown => exact iff_of_false not_fails_ok not_fails_ok

theorem not_fails_display {s : Scalar} (h : ¬Fails s.shown) : ¬Fails s.display := by
  cases s with
  | text word => exact not_fails_ok
  | date day => exact not_fails_ok
  | moment time => exact not_fails_ok
  | _ => exact h

theorem told_eq_ok_iff {α : Type} {r : Except Abort α} {a : α} : told r = .ok a ↔ r = .ok a := by
  cases r with
  | error abort => simp [told]
  | ok a' => simp [told]

/-! ## Keys that a shape does not have -/

/-- The keys of an option that its shape does not have. -/
def foreignKeys (shape : OptionShape) (entries : List (Scalar × Datum)) : List Scalar :=
  (entries.map (·.1)).filter fun key => !isOneOf shape.textKeys key

/-- A key, shown by itself and among other values. -/
def labelled (key : Scalar) : Except Abort (Text × Text) := do
  return (← Document.shownScalar key.display, ← Document.shownScalar key.shown)

theorem shown_of_labelled {key : Scalar} {label : Text × Text} (h : labelled key = .ok label) :
    key.shown = .ok label.2 := by
  obtain ⟨display, -, h⟩ := bind_eq_ok.mp h
  obtain ⟨shown, hshown, h⟩ := bind_eq_ok.mp h
  obtain rfl := Except.ok.inj h
  exact shownScalar_eq_ok_iff.mp hshown

theorem not_fails_labelled {key : Scalar} (h : ¬Fails key.shown) : ¬Fails (labelled key) := by
  intro hfails
  rcases fails_bind.mp hfails with hdisplay | ⟨display, -, hfails⟩
  · exact not_fails_display h (fails_shownScalar_iff.mp hdisplay)
  · exact h (fails_shownScalar_iff.mp (fails_bind_pure.mp hfails))

theorem unexpectedKeys_eq (shape : OptionShape) (entries : List (Scalar × Datum)) :
    unexpectedKeys shape entries =
      match foreignKeys shape entries with
      | [key] => do return [← Document.shownScalar key.shown]
      | _ => do
        return ((← (foreignKeys shape entries).mapM labelled).mergeSort fun a b =>
          a.1.le b.1).map (·.2) := rfl

/-- Every foreign key is shown, and nothing else is. -/
theorem mem_of_unexpectedKeys {shape : OptionShape} {entries : List (Scalar × Datum)}
    {texts : List Text} (h : unexpectedKeys shape entries = .ok texts) :
    (∀ key ∈ foreignKeys shape entries, ∃ text ∈ texts, key.shown = .ok text) ∧
      ∀ text ∈ texts, ∃ key ∈ foreignKeys shape entries, key.shown = .ok text := by
  rw [unexpectedKeys_eq] at h
  split at h
  · rename_i key hkeys
    obtain ⟨text, htext, h⟩ := bind_eq_ok.mp h
    obtain rfl := Except.ok.inj h
    rw [hkeys]
    simpa using shownScalar_eq_ok_iff.mp htext
  · obtain ⟨labels, hlabels, h⟩ := bind_eq_ok.mp h
    obtain rfl := Except.ok.inj h
    simp only [List.mem_map, List.mem_mergeSort]
    constructor
    · intro key hkey
      obtain ⟨label, hlabel⟩ : ∃ label, labelled key = .ok label := by
        rw [← not_fails_iff]
        intro hfails
        obtain ⟨abort, habort⟩ := fails_mapM_iff.mpr ⟨key, hkey, hfails⟩
        exact absurd (habort.symm.trans hlabels) (by simp)
      exact ⟨label.2, ⟨label, (mem_of_mapM_eq_ok hlabels).mpr ⟨key, hkey, hlabel⟩, rfl⟩,
        shown_of_labelled hlabel⟩
    · rintro text ⟨label, hlabel, rfl⟩
      obtain ⟨key, hkey, hlabelled⟩ := (mem_of_mapM_eq_ok hlabels).mp hlabel
      exact ⟨key, hkey, shown_of_labelled hlabelled⟩

theorem not_fails_unexpectedKeys {shape : OptionShape} {entries : List (Scalar × Datum)}
    (h : ∀ key ∈ foreignKeys shape entries, ¬Fails key.shown) :
    ¬Fails (unexpectedKeys shape entries) := by
  rw [unexpectedKeys_eq]
  split
  · rename_i key hkeys
    rw [fails_bind_pure, fails_shownScalar_iff]
    exact h key (by rw [hkeys]; exact List.mem_singleton_self key)
  · rw [fails_bind_pure, fails_mapM_iff]
    rintro ⟨key, hkey, hfails⟩
    exact not_fails_labelled (h key hkey) hfails

/-! ## The option for the names of test files -/

def suffixShape : OptionShape := ⟨["suffix"]⟩

theorem isOneOf_suffixShape_iff {key : Scalar} :
    isOneOf suffixShape.textKeys key = true ↔ key = .text "suffix" := by
  cases key with
  | text s => simp [isOneOf, suffixShape, Document.isText]
  | _ => simp [isOneOf, suffixShape, Document.isText]

theorem mem_foreignKeys_iff {entries : List (Scalar × Datum)} {key : Scalar} :
    key ∈ foreignKeys suffixShape entries ↔ ∃ e ∈ entries, e.1 ≠ .text "suffix" ∧ e.1 = key := by
  simp only [foreignKeys, List.mem_filter, List.mem_map, Bool.not_eq_true',
    ← Bool.not_eq_true, isOneOf_suffixShape_iff]
  constructor
  · rintro ⟨⟨e, he, rfl⟩, hforeign⟩
    exact ⟨e, he, hforeign, rfl⟩
  · rintro ⟨e, he, hforeign, rfl⟩
    exact ⟨⟨e, he, rfl⟩, hforeign⟩

theorem mem_unexpectedKeys_iff {entries : List (Scalar × Datum)} {texts : List Text}
    (h : unexpectedKeys suffixShape entries = .ok texts) {text : Text} :
    text ∈ texts ↔ ∃ e ∈ entries, e.1 ≠ .text "suffix" ∧ e.1.shown = .ok text := by
  obtain ⟨hall, honly⟩ := mem_of_unexpectedKeys h
  constructor
  · intro htext
    obtain ⟨key, hkey, hshown⟩ := honly text htext
    obtain ⟨e, he, hother, rfl⟩ := mem_foreignKeys_iff.mp hkey
    exact ⟨e, he, hother, hshown⟩
  · rintro ⟨e, he, hother, hshown⟩
    obtain ⟨text', htext', hshown'⟩ := hall e.1 (mem_foreignKeys_iff.mpr ⟨e, he, hother, rfl⟩)
    rwa [Except.ok.inj (hshown.symm.trans hshown')]

theorem suffix_of_unexpectedKeys_nil {entries : List (Scalar × Datum)}
    (h : unexpectedKeys suffixShape entries = .ok []) : ∀ e ∈ entries, e.1 = .text "suffix" := by
  intro e he
  by_cases hother : e.1 = .text "suffix"
  · exact hother
  · obtain ⟨text, htext, -⟩ :=
      (mem_of_unexpectedKeys h).1 e.1 (mem_foreignKeys_iff.mpr ⟨e, he, hother, rfl⟩)
    exact absurd htext (by simp)

theorem unexpectedKeys_of_forall_suffix {entries : List (Scalar × Datum)}
    (h : ∀ e ∈ entries, e.1 = .text "suffix") : unexpectedKeys suffixShape entries = .ok [] := by
  have hnone : ∀ key, key ∉ foreignKeys suffixShape entries := by
    intro key hkey
    obtain ⟨e, he, hother, -⟩ := mem_foreignKeys_iff.mp hkey
    exact hother (h e he)
  obtain ⟨texts, htexts⟩ := not_fails_iff.mp
    (not_fails_unexpectedKeys fun key hkey => absurd hkey (hnone key))
  cases texts with
  | nil => exact htexts
  | cons text rest =>
    obtain ⟨key, hkey, -⟩ := (mem_of_unexpectedKeys htexts).2 text List.mem_cons_self
    exact absurd hkey (hnone key)

/-- As no key stands twice, one known key leaves room for one entry. -/
theorem eq_of_forall_suffix {entries : List (Scalar × Datum)}
    (hdistinct : entries.Pairwise fun a b => a.1.isSame b.1 = false)
    (h : ∀ e ∈ entries, e.1 = .text "suffix") :
    entries = [] ∨ ∃ value, entries = [(.text "suffix", value)] := by
  match entries with
  | [] => exact .inl rfl
  | [(key, value)] =>
    obtain rfl : key = .text "suffix" := h _ List.mem_cons_self
    exact .inr ⟨value, rfl⟩
  | first :: second :: rest =>
    have hsame := (List.pairwise_cons.mp hdistinct).1 second List.mem_cons_self
    rw [h first List.mem_cons_self, h second (List.mem_cons_of_mem _ List.mem_cons_self)] at hsame
    exact absurd hsame (by simp [Scalar.isSame])

variable {d : Document} {option : Datum}

/-- The value that is no text where one should be. -/
def wrongSuffix? (d : Document) (option : Datum) : Option Datum :=
  (d.get? "suffix" option).filter fun v => (text? v).isNone

theorem optionFault?_of_entries [Limits] {entries : List (Scalar × Datum)}
    (h : d.entries? option = some entries) :
    optionFault? d suffixShape option = (do
      let wrong ← (wrongSuffix? d option).toList.mapM (d.shown .value)
      let foreign ← unexpectedKeys suffixShape entries
      if !foreign.isEmpty then return some (.unexpectedKeys foreign)
      return wrong.head?.map .notText) := by
  have hwrong : (suffixShape.textKeys.filterMap fun key =>
      (d.get? key option).filter fun v => (text? v).isNone) = (wrongSuffix? d option).toList := by
    rw [suffixShape, List.filterMap_cons, ← wrongSuffix?]
    cases wrongSuffix? d option <;> rfl
  rw [optionFault?, h]
  dsimp only
  rw [hwrong]

theorem get?_of_entries_nil (h : d.entries? option = some []) :
    d.get? "suffix" option = none := by
  rw [Document.get?, h]
  rfl

theorem get?_of_entries_singleton {value : Datum}
    (h : d.entries? option = some [(.text "suffix", value)]) :
    d.get? "suffix" option = some value := by
  rw [Document.get?, h]
  rfl

theorem text?_eq_some_iff {value : Datum} {s : Text} :
    text? value = some s ↔ value = .scalar (.text s) := by
  unfold text?
  split
  · simp
  · rename_i hother
    exact iff_of_false (by simp) (hother s)

/-- Where all keys are known, only the value can be at fault. -/
theorem misfits_of_wrongSuffix? [Limits] (hd : d.HasDistinctKeys) {rule : Rule σ}
    (hrule : rule.id = "consistent-test-filename") {entries : List (Scalar × Datum)}
    (hentries : d.entries? option = some entries) (hkeys : ∀ e ∈ entries, e.1 = .text "suffix")
    {wrong : List Text}
    (hwrong : (wrongSuffix? d option).toList.mapM (d.shown .value) = .ok wrong) :
    (∀ fault, wrong.head?.map OptionFault.notText = some fault → Misfits d rule [option] fault) ∧
      (wrong.head?.map OptionFault.notText = none → d.entries? option = some [] ∨
        ∃ s, d.entries? option = some [(.text "suffix", .scalar (.text s))]) := by
  rcases eq_of_forall_suffix (hd.of_entries? hentries) hkeys with rfl | ⟨value, rfl⟩
  · rw [wrongSuffix?, get?_of_entries_nil hentries] at hwrong
    obtain rfl := Except.ok.inj hwrong
    exact ⟨nofun, fun _ => .inl hentries⟩
  · rw [wrongSuffix?, get?_of_entries_singleton hentries, Option.filter_some] at hwrong
    cases hvalue : text? value with
    | some s =>
      rw [hvalue] at hwrong
      obtain rfl := Except.ok.inj hwrong
      refine ⟨nofun, fun _ => .inr ⟨s, ?_⟩⟩
      rw [hentries, text?_eq_some_iff.mp hvalue]
    | none =>
      rw [hvalue] at hwrong
      obtain ⟨text, htext, hwrong⟩ := bind_eq_ok.mp hwrong
      obtain rfl := Except.ok.inj hwrong
      refine ⟨?_, nofun⟩
      rintro fault ⟨⟩
      refine .notText hrule hentries (fun s hs => ?_) htext
      exact absurd (hvalue.symm.trans (text?_eq_some_iff.mpr hs)) (by simp)

/-- What is found in an option is a misfit, and where nothing is found it fits. -/
theorem misfits_of_optionFault? [Limits] (hd : d.HasDistinctKeys) {rule : Rule σ}
    (hrule : rule.id = "consistent-test-filename") {fault? : Option OptionFault}
    (h : optionFault? d suffixShape option = .ok fault?) :
    (∀ fault, fault? = some fault → Misfits d rule [option] fault) ∧
      (fault? = none → d.entries? option = some [] ∨
        ∃ s, d.entries? option = some [(.text "suffix", .scalar (.text s))]) := by
  cases hentries : d.entries? option with
  | none =>
    rw [optionFault?, hentries] at h
    obtain ⟨text, htext, h⟩ := bind_eq_ok.mp h
    obtain rfl := Except.ok.inj h
    refine ⟨?_, nofun⟩
    rintro fault ⟨⟩
    exact .notObject hrule hentries htext
  | some entries =>
    rw [optionFault?_of_entries hentries] at h
    obtain ⟨wrong, hwrong, h⟩ := bind_eq_ok.mp h
    obtain ⟨foreign, hforeign, h⟩ := bind_eq_ok.mp h
    split at h
    · rename_i hnonempty
      obtain rfl := Except.ok.inj h
      refine ⟨?_, nofun⟩
      rintro fault ⟨⟩
      exact .unexpectedKeys hrule hentries (by simpa using hnonempty) fun text =>
        mem_unexpectedKeys_iff hforeign
    · rename_i hempty
      obtain rfl := Except.ok.inj h
      obtain rfl : foreign = [] := by simpa using hempty
      rw [← hentries]
      exact misfits_of_wrongSuffix? hd hrule hentries (suffix_of_unexpectedKeys_nil hforeign) hwrong

theorem not_fails_optionFault? [Limits] (hoption : ¬Fails (d.shown .option option))
    (h : ∀ part ∈ inside d option, ¬Fails (d.shown .value part)) :
    ¬Fails (optionFault? d suffixShape option) := by
  cases hentries : d.entries? option with
  | none =>
    rw [optionFault?, hentries, fails_bind_pure]
    exact hoption
  | some entries =>
    have hinside {e : Scalar × Datum} (he : e ∈ entries) {part : Datum}
        (hpart : part ∈ [.scalar e.1, e.2]) : ¬Fails (d.shown .value part) := by
      refine h part ?_
      rw [inside, hentries, Option.getD_some]
      exact List.mem_flatMap.mpr ⟨e, he, hpart⟩
    rw [optionFault?_of_entries hentries]
    intro hfails
    rcases fails_bind.mp hfails with hwrong | ⟨wrong, -, hfails⟩
    · obtain ⟨value, hvalue, hfails⟩ := fails_mapM_iff.mp hwrong
      obtain ⟨hget, -⟩ := Option.filter_eq_some_iff.mp (Option.mem_toList.mp hvalue)
      rw [Document.get?, hentries, Option.bind_some, Option.map_eq_some_iff] at hget
      obtain ⟨e, he, rfl⟩ := hget
      exact hinside (List.mem_of_find?_eq_some he) (by simp) hfails
    · rcases fails_bind.mp hfails with hforeign | ⟨foreign, -, hfails⟩
      · refine not_fails_unexpectedKeys (fun key hkey => ?_) hforeign
        obtain ⟨e, he, -, rfl⟩ := mem_foreignKeys_iff.mp hkey
        rw [← fails_shownScalar_iff, ← shown_scalar d .value]
        exact hinside he List.mem_cons_self
      · split at hfails
        · exact not_fails_ok hfails
        · exact not_fails_ok hfails

theorem optionFault?_of_bare [Limits] (h : d.entries? option = some []) :
    optionFault? d suffixShape option = .ok none := by
  rw [optionFault?_of_entries h, wrongSuffix?, get?_of_entries_nil h,
    unexpectedKeys_of_forall_suffix (by simp)]
  rfl

theorem optionFault?_of_suffix [Limits] {s : Text}
    (h : d.entries? option = some [(.text "suffix", .scalar (.text s))]) :
    optionFault? d suffixShape option = .ok none := by
  rw [optionFault?_of_entries h, wrongSuffix?, get?_of_entries_singleton h,
    unexpectedKeys_of_forall_suffix (by simp)]
  rfl

theorem optionJson_of_bare (h : d.entries? option = some []) : optionJson d option = .obj [] := by
  rw [optionJson, h]
  rfl

theorem optionJson_of_suffix {s : Text}
    (h : d.entries? option = some [(.text "suffix", .scalar (.text s))]) :
    optionJson d option = .obj [("suffix", .str s)] := by
  rw [optionJson, h]
  rfl

/-! ## The options of a rule -/

theorem optionsFault?_nil [Limits] (d : Document) (shapes : List OptionShape) :
    optionsFault? d shapes [] = .ok none := by
  rw [optionsFault?, List.zip_nil_right]
  rfl

/-- A rule without options only counts them. -/
theorem optionsFault?_of_none [Limits] (d : Document) (option : Datum) (more : List Datum) :
    optionsFault? d [] (option :: more) = (do
      return some (.tooMany (← d.shownList (option :: more)) 0)) := rfl

/-- A rule with one option looks at the first before it counts them, and tells the count first. -/
theorem optionsFault?_of_one [Limits] (d : Document) (shape : OptionShape) (option : Datum)
    (more : List Datum) :
    optionsFault? d [shape] (option :: more) = (do
      let first ← optionFault? d shape option
      if 1 < (option :: more).length then
        return some (.tooMany (← d.shownList (option :: more)) 1)
      return first) := by
  rw [optionsFault?, List.zip_cons_cons, List.zip_nil_left, List.mapM_cons, List.mapM_nil]
  dsimp only
  cases optionFault? d shape option with
  | error abort => rfl
  | ok first => cases first <;> rfl

theorem options_standard :
    ∀ rule ∈ (Registry.standard : Registry σ),
      rule.id = "consistent-test-filename" ∧ rule.options = [suffixShape] ∨
        rule.id ≠ "consistent-test-filename" ∧ rule.options = [] := by
  intro rule hrule
  rcases Registry.mem_standard_iff.mp hrule with rfl | rfl | rfl
  · exact .inl ⟨rfl, rfl⟩
  · exact .inr ⟨show ("no-two-way-binding" : Text) ≠ _ by decide, rfl⟩
  · exact .inr ⟨show ("require-comp-ctrl-on-init" : Text) ≠ _ by decide, rfl⟩

theorem not_fails_shownList [Limits] {data : List Datum}
    (h : ∀ v ∈ data, ¬Fails (d.shown .options v)) : ¬Fails (d.shownList data) := by
  have hmap : Fails (d.shownList data) → Fails (data.mapM (d.shown .options)) := by
    rw [Document.shownList]
    cases data.mapM (d.shown .options) with
    | error abort => exact fun _ => ⟨abort, rfl⟩
    | ok texts => exact fun hfails => absurd hfails not_fails_ok
  intro hfails
  obtain ⟨v, hv, hshown⟩ := fails_mapM_iff.mp (hmap hfails)
  exact h v hv hshown

theorem canShow_exhibits_iff [Limits] {data : List Datum} :
    CanShow d (exhibits d data) ↔ (∀ v ∈ data, ¬Fails (d.shown .options v)) ∧
      (∀ v ∈ data, ¬Fails (d.shown .option v)) ∧
        ∀ v ∈ data, ∀ part ∈ inside d v, ¬Fails (d.shown .value part) := by
  simp only [CanShow, exhibits, List.forall_mem_flatMap, List.forall_mem_cons, List.forall_mem_map]
  simp only [forall_and]

theorem misfits_of_lt_length [Limits] {rule : Rule σ} {count : Nat}
    (hcount : rule.options.length = count)
    {data : List Datum} (hmany : count < data.length) {text : Text}
    (hshown : d.shownList data = .ok text) : Misfits d rule data (.tooMany text count) := by
  subst hcount
  exact .tooMany hmany hshown

/-- **What is wrong with options** is a misfit, and where nothing is wrong they fit. -/
theorem misfits_of_optionsFault? [Limits] (hd : d.HasDistinctKeys) {rule : Rule σ}
    (hrule : rule ∈ (Registry.standard : Registry σ)) {data : List Datum}
    {fault? : Option OptionFault} (h : optionsFault? d rule.options data = .ok fault?) :
    (∀ fault, fault? = some fault → Misfits d rule data fault) ∧
      (fault? = none → Fits d rule data (data.map (optionJson d))) := by
  cases data with
  | nil =>
    rw [optionsFault?_nil] at h
    obtain rfl := Except.ok.inj h
    exact ⟨nofun, fun _ => .none⟩
  | cons option more =>
    rcases options_standard rule hrule with ⟨hid, hoptions⟩ | ⟨hid, hoptions⟩
    · rw [hoptions, optionsFault?_of_one] at h
      obtain ⟨first, hfirst, h⟩ := bind_eq_ok.mp h
      split at h
      · rename_i hmany
        obtain ⟨text, htext, h⟩ := bind_eq_ok.mp h
        obtain rfl := Except.ok.inj h
        refine ⟨?_, nofun⟩
        rintro fault ⟨⟩
        exact misfits_of_lt_length (congrArg List.length hoptions) hmany htext
      · rename_i hone
        obtain rfl := Except.ok.inj h
        obtain rfl : more = [] := by
          cases more with
          | nil => rfl
          | cons second rest => exact absurd hone (by simp)
        obtain ⟨hmisfits, hfits⟩ := misfits_of_optionFault? hd hid hfirst
        refine ⟨hmisfits, fun hnone => ?_⟩
        rcases hfits hnone with hentries | ⟨s, hentries⟩
        · rw [List.map_singleton, optionJson_of_bare hentries]
          exact .bare hid hentries
        · rw [List.map_singleton, optionJson_of_suffix hentries]
          exact .suffix hid hentries
    · rw [hoptions, optionsFault?_of_none] at h
      obtain ⟨text, htext, h⟩ := bind_eq_ok.mp h
      obtain rfl := Except.ok.inj h
      refine ⟨?_, nofun⟩
      rintro fault ⟨⟩
      have hmany : 0 < (option :: more).length := Nat.zero_lt_succ more.length
      exact misfits_of_lt_length (congrArg List.length hoptions) hmany htext

theorem optionsFault?_of_fits [Limits] {rule : Rule σ}
    (hrule : rule ∈ (Registry.standard : Registry σ))
    {data : List Datum} {options : List Json} (h : Fits d rule data options) :
    optionsFault? d rule.options data = .ok none ∧ options = data.map (optionJson d) := by
  have hone (ofNames : rule.id = "consistent-test-filename") : rule.options = [suffixShape] := by
    rcases options_standard rule hrule with ⟨-, hoptions⟩ | ⟨hid, -⟩
    · exact hoptions
    · exact absurd ofNames hid
  cases h with
  | none => exact ⟨optionsFault?_nil d rule.options, rfl⟩
  | bare ofNames entries =>
    rw [hone ofNames, optionsFault?_of_one, optionFault?_of_bare entries, List.map_singleton,
      optionJson_of_bare entries]
    exact ⟨rfl, rfl⟩
  | suffix ofNames entries =>
    rw [hone ofNames, optionsFault?_of_one, optionFault?_of_suffix entries, List.map_singleton,
      optionJson_of_suffix entries]
    exact ⟨rfl, rfl⟩

theorem not_fails_optionsFault? [Limits] {rule : Rule σ}
    (hrule : rule ∈ (Registry.standard : Registry σ)) {data : List Datum}
    (h : CanShow d (exhibits d data)) : ¬Fails (optionsFault? d rule.options data) := by
  obtain ⟨hoptions, hoption, hinside⟩ := canShow_exhibits_iff.mp h
  have hlist := not_fails_shownList hoptions
  cases data with
  | nil =>
    rw [optionsFault?_nil]
    exact not_fails_ok
  | cons option more =>
    rcases options_standard rule hrule with ⟨-, hoptions⟩ | ⟨-, hoptions⟩
    · rw [hoptions, optionsFault?_of_one]
      intro hfails
      rcases fails_bind.mp hfails with hfirst | ⟨first, -, hfails⟩
      · have hmem : option ∈ option :: more := List.mem_cons_self
        exact not_fails_optionFault? (hoption option hmem) (hinside option hmem) hfirst
      · split at hfails
        · exact hlist (fails_bind_pure.mp hfails)
        · exact not_fails_ok hfails
    · rw [hoptions, optionsFault?_of_none, fails_bind_pure]
      exact hlist

end AngularLint.Setting
