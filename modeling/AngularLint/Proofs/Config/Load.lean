import AngularLint.Config.Load
import AngularLint.Proofs.Config.Merge
import AngularLint.Proofs.Config.Setting
import AngularLint.Proofs.Run
import Mathlib.Data.List.Basic

/-!
# What files of settings come to

`Settings.load` is three nested loops over one list of settings: files, documents, and the entries
of a document. Here the loops are taken apart. What stands under `rules` anywhere in the files is a
list of `offers`, and each offer is judged by itself: it gives a setting (`Offer.setting?`), or
there is something to tell about it (`Offer.complaint?`). No offer is judged by what has been
accepted before, so a loop tells what its offers have told and overrides by what they have given,
and so do loops of loops (`foldlM_override`).

**`load_eq_of_not_aborts`** is what comes out: the last accepted setting of a rule counts, the rules
stand in the order of their first accepted settings, each offer that is not accepted is told of
once, and files in a row override each other.

A file that ends the run is another matter (`Aborts`); `fails_load_iff` says that nothing else does.
-/

set_option autoImplicit false

namespace AngularLint

variable {σ : Type}

/-- A setting that a document offers: an entry under `rules`, and where it stands. -/
structure Offer where
  origin : Text
  document : Document
  entry : Scalar × Datum

namespace Offer

/-- The setting that the offer is for the rule, if it is for that rule and has no fault. -/
def reading? [Limits] (rule : Rule σ) (o : Offer) : Option Setting :=
  if Document.isText rule.id o.entry.1 then
    (Setting.ofDatum o.document rule o.entry.2).toOption
  else none

/-- The setting that the offer gives to a rule of the registry. -/
def setting? [Limits] (registry : Registry σ) (o : Offer) : Option (Text × Setting) :=
  (Settings.ruleOf? registry o.entry.1).bind fun rule =>
    (Setting.ofDatum o.document rule o.entry.2).toOption.map fun setting => (rule.id, setting)

/-- What is to be told about the offer. -/
def complaint? [Limits] (registry : Registry σ) (o : Offer) : Option Diagnostic :=
  match Settings.ruleOf? registry o.entry.1 with
  | none => o.entry.1.display.toOption.map fun name => .unknownRule name o.origin
  | some rule =>
    match Setting.ofDatum o.document rule o.entry.2 with
    | .ok _ => none
    | .error fault => some (.settingSkipped o.origin fault)

/-- Can be told what there is to tell about the offer? -/
def isTellable [Limits] (registry : Registry σ) (o : Offer) : Bool :=
  match Settings.ruleOf? registry o.entry.1 with
  | none => o.entry.1.display.toBool
  | some rule =>
    match Setting.ofDatum o.document rule o.entry.2 with
    | .error (.untold _) => false
    | _ => true

/-- An offer is accepted, or there is something to tell about it. -/
theorem complaint?_eq_none_iff [Limits] {registry : Registry σ} {o : Offer}
    (h : o.isTellable registry = true) :
    o.complaint? registry = none ↔ (o.setting? registry).isSome = true := by
  rw [isTellable] at h
  rw [complaint?, setting?]
  cases hrule : Settings.ruleOf? registry o.entry.1 with
  | none =>
    rw [hrule] at h
    cases hname : o.entry.1.display with
    | error fault => rw [hname] at h; exact absurd h (by simp [Except.toBool])
    | ok name => simp [Except.toOption]
  | some rule =>
    dsimp only [Option.bind_some]
    cases Setting.ofDatum o.document rule o.entry.2 with
    | error fault => simp [Except.toOption]
    | ok setting => simp [Except.toOption]

end Offer

namespace Settings

/-! ## The loops -/

/-- What a document offers. -/
def offersIn (origin : Text) (d : Document) : List Offer :=
  (entriesOf d).map fun entry => ⟨origin, d, entry⟩

def offersOf (path : Text) (documents : List Document) : List Offer :=
  documents.zipIdx.flatMap fun e => offersIn (Diagnostic.origin path e.2) e.1

/-- What the file at a path offers; nothing if there is a fault anywhere in it. -/
def offersAt [Limits] (read : FileReader) (path : Text) : List Offer :=
  match read path with
  | .error _ => []
  | .ok bytes =>
    match documentsOf bytes with
    | .error _ => []
    | .ok documents => offersOf path documents

/-- What is to be told about the file at a path. -/
def toldAt [Limits] (registry : Registry σ) (read : FileReader) (path : Text) : List Diagnostic :=
  match read path with
  | .error .missing => [.configMissing path]
  | .error fault => [.configUnreadable path fault]
  | .ok bytes =>
    match documentsOf bytes with
    | .error (.fault fault) => [.configMalformed path fault]
    | .error (.abort _) => []
    | .ok documents => (offersOf path documents).filterMap (Offer.complaint? registry)

/-- Does the file at a path end the run? -/
inductive Aborts [Limits] (registry : Registry σ) (read : FileReader) (path : Text) : Prop
  | badPath {fault : PathFault} (hread : read path = .error (.badPath fault))
  | reading {bytes : List UInt8} {abort : Abort} (hread : read path = .ok bytes)
      (hdocuments : documentsOf bytes = .error (.abort abort))
  | telling {bytes : List UInt8} {documents : List Document} {o : Offer}
      (hread : read path = .ok bytes) (hdocuments : documentsOf bytes = .ok documents)
      (ho : o ∈ offersOf path documents) (htell : o.isTellable registry = false)

def doesAbort [Limits] (registry : Registry σ) (read : FileReader) (path : Text) : Bool :=
  match read path with
  | .error (.badPath _) => true
  | .error _ => false
  | .ok bytes =>
    match documentsOf bytes with
    | .error (.abort _) => true
    | .error _ => false
    | .ok documents => (offersOf path documents).any fun o => !o.isTellable registry

theorem doesAbort_iff [Limits] {registry : Registry σ} {read : FileReader} {path : Text} :
    doesAbort registry read path = true ↔ Aborts registry read path := by
  rw [doesAbort]
  constructor
  · intro h
    split at h
    · rename_i hread
      exact .badPath hread
    · exact absurd h (by simp)
    · rename_i hread
      split at h
      · rename_i hdocuments
        exact .reading hread hdocuments
      · exact absurd h (by simp)
      · rename_i hdocuments
        obtain ⟨o, ho, htell⟩ := List.any_eq_true.mp h
        exact .telling hread hdocuments ho (by simpa using htell)
  · intro h
    cases h with
    | badPath hread => rw [hread]
    | reading hread hdocuments =>
      rw [hread]
      dsimp only
      rw [hdocuments]
    | telling hread hdocuments ho htell =>
      rw [hread]
      dsimp only
      rw [hdocuments]
      exact List.any_eq_true.mpr ⟨_, ho, by rw [htell]; rfl⟩

theorem isTellable_of_mem_offersOf [Limits] {registry : Registry σ} {read : FileReader}
    {path : Text} (h : ¬Aborts registry read path) {bytes : List UInt8} {documents : List Document}
    (hread : read path = .ok bytes) (hdocuments : documentsOf bytes = .ok documents) :
    ∀ o ∈ offersOf path documents, o.isTellable registry = true := by
  intro o ho
  cases htell : o.isTellable registry with
  | true => rfl
  | false => exact (h (.telling hread hdocuments ho htell)).elim

theorem isTellable_of_mem_offersAt [Limits] {registry : Registry σ} {read : FileReader}
    {path : Text} (h : ¬Aborts registry read path) :
    ∀ o ∈ offersAt read path, o.isTellable registry = true := by
  intro o ho
  rw [offersAt] at ho
  split at ho
  · exact absurd ho (by simp)
  · split at ho
    · exact absurd ho (by simp)
    · exact isTellable_of_mem_offersOf h ‹_› ‹_› o ho

instance [Limits] (registry : Registry σ) (read : FileReader) (path : Text) :
    Decidable (Aborts registry read path) := decidable_of_iff _ doesAbort_iff

theorem override_append (settings : Settings) (some more : List (Text × Setting)) :
    settings.override (some ++ more) = (settings.override some).override more :=
  List.foldl_append

theorem foldlM_override {α : Type} {step : Settings → α → Run Settings}
    {told : α → List Diagnostic} {given : α → List (Text × Setting)} {items : List α}
    (h : ∀ a ∈ items, ∀ settings : Settings,
      step settings a = ⟨told a, .ok (settings.override (given a))⟩) (settings : Settings) :
    items.foldlM step settings =
      ⟨items.flatMap told, .ok (settings.override (items.flatMap given))⟩ := by
  rw [Run.foldlM_eq h]
  congr 2
  clear h
  induction items generalizing settings with
  | nil => rfl
  | cons a rest ih => rw [List.foldl_cons, ih, List.flatMap_cons, override_append]

theorem takeEntry_eq [Limits] {registry : Registry σ} {o : Offer} (h : o.isTellable registry = true)
    (settings : Settings) :
    takeEntry registry o.origin o.document settings o.entry =
      ⟨(o.complaint? registry).toList, .ok (settings.override (o.setting? registry).toList)⟩ := by
  rw [Offer.isTellable] at h
  rw [takeEntry, Offer.complaint?, Offer.setting?]
  cases hrule : ruleOf? registry o.entry.1 with
  | none =>
    rw [hrule] at h
    cases hname : o.entry.1.display with
    | error fault => rw [hname] at h; exact absurd h (by simp [Except.toBool])
    | ok name => rfl
  | some rule =>
    rw [hrule] at h
    dsimp only [Option.bind_some] at h ⊢
    cases hsetting : Setting.ofDatum o.document rule o.entry.2 with
    | ok setting => rfl
    | error fault =>
      cases fault with
      | untold abort => rw [hsetting] at h; exact absurd h (by simp)
      | _ => rfl

theorem takeDocument_eq [Limits] {registry : Registry σ} {origin : Text} {d : Document}
    (h : ∀ o ∈ offersIn origin d, o.isTellable registry = true) (settings : Settings) :
    takeDocument registry origin settings d =
      ⟨(offersIn origin d).filterMap (Offer.complaint? registry),
        .ok (settings.override ((offersIn origin d).filterMap (Offer.setting? registry)))⟩ := by
  rw [takeDocument, foldlM_override fun entry hentry settings =>
    takeEntry_eq (h ⟨origin, d, entry⟩ (List.mem_map_of_mem hentry)) settings]
  simp only [offersIn, List.filterMap_eq_flatMap_toList, List.flatMap_map]

theorem takeDocuments_eq [Limits] {registry : Registry σ} {path : Text} {documents : List Document}
    (h : ∀ o ∈ offersOf path documents, o.isTellable registry = true) (settings : Settings) :
    takeDocuments registry path settings documents =
      ⟨(offersOf path documents).filterMap (Offer.complaint? registry),
        .ok (settings.override
          ((offersOf path documents).filterMap (Offer.setting? registry)))⟩ := by
  rw [takeDocuments, foldlM_override fun e he settings =>
    takeDocument_eq (fun o ho => h o (List.mem_flatMap.mpr ⟨e, he, ho⟩)) settings]
  simp only [offersOf, List.filterMap_flatMap]

theorem takeFile_eq [Limits] {registry : Registry σ} {read : FileReader} {path : Text}
    (h : ¬Aborts registry read path) (settings : Settings) :
    takeFile registry read settings path =
      ⟨toldAt registry read path,
        .ok (settings.override ((offersAt read path).filterMap (Offer.setting? registry)))⟩ := by
  rw [takeFile, toldAt, offersAt]
  cases hread : read path with
  | error fault =>
    cases fault with
    | badPath fault => exact (h (.badPath hread)).elim
    | _ => rfl
  | ok bytes =>
    dsimp only
    cases hdocuments : documentsOf bytes with
    | error stop =>
      cases stop with
      | abort abort => exact (h (.reading hread hdocuments)).elim
      | fault fault => rfl
    | ok documents =>
      exact takeDocuments_eq (isTellable_of_mem_offersOf h hread hdocuments) settings

/-! ## All files -/

/-- What files offer, one file after another. -/
def offers [Limits] (read : FileReader) (paths : List Text) : List Offer :=
  paths.flatMap (offersAt read)

theorem load_eq_override [Limits] {registry : Registry σ} {read : FileReader} {paths : List Text}
    (h : ∀ path ∈ paths, ¬Aborts registry read path) :
    load registry read paths =
      ⟨paths.flatMap (toldAt registry read),
        .ok (override [] ((offers read paths).filterMap (Offer.setting? registry)))⟩ := by
  rw [load, foldlM_override fun path hpath settings => takeFile_eq (h path hpath) settings, offers,
    List.filterMap_flatMap]

/-- A rule is found by its id. -/
theorem find?_of_ruleOf? {registry : Registry σ} {rule : Rule σ} {key : Scalar}
    (h : ruleOf? registry key = some rule) :
    registry.find? rule.id = some rule ∧ Document.isText rule.id key = true := by
  cases key with
  | text id =>
    have hname := List.find?_some h
    obtain rfl : rule.id = id := eq_of_beq hname
    exact ⟨h, beq_self_eq_true _⟩
  | _ => exact absurd h (by simp [ruleOf?])

theorem ruleOf?_of_isText {registry : Registry σ} {rule : Rule σ} {key : Scalar}
    (h : registry.find? rule.id = some rule) (hkey : Document.isText rule.id key = true) :
    ruleOf? registry key = some rule := by
  cases key with
  | text id =>
    obtain rfl : id = rule.id := eq_of_beq hkey
    exact h
  | _ => exact absurd hkey (by simp [Document.isText])

end Settings

namespace Offer

theorem exists_of_setting? [Limits] {registry : Registry σ} {o : Offer} {id : Text}
    {setting : Setting} (h : o.setting? registry = some (id, setting)) :
    ∃ rule, rule.id = id ∧ registry.find? id = some rule ∧ o.reading? rule = some setting := by
  obtain ⟨rule, hrule, h⟩ := Option.bind_eq_some_iff.mp h
  obtain ⟨setting', hsetting, hpair⟩ := Option.map_eq_some_iff.mp h
  obtain ⟨rfl, rfl⟩ := Prod.mk.inj hpair
  obtain ⟨hfind, htext⟩ := Settings.find?_of_ruleOf? hrule
  refine ⟨rule, rfl, hfind, ?_⟩
  rw [reading?, if_pos htext]
  exact hsetting

theorem setting?_eq_some_iff [Limits] {registry : Registry σ} {rule : Rule σ}
    (h : registry.find? rule.id = some rule) {o : Offer} {setting : Setting} :
    o.setting? registry = some (rule.id, setting) ↔ o.reading? rule = some setting := by
  constructor
  · intro hsome
    obtain ⟨rule', -, hfind, hreading⟩ := exists_of_setting? hsome
    obtain rfl : rule' = rule := Option.some.inj (hfind.symm.trans h)
    exact hreading
  · intro hsome
    rw [reading?] at hsome
    split at hsome
    · rename_i htext
      rw [setting?, Settings.ruleOf?_of_isText h htext, Option.bind_some, hsome]
      rfl
    · exact absurd hsome (by simp)

end Offer

theorem lookup_filterMap {α : Type} {given : α → Option (Text × Setting)}
    {found : α → Option Setting} {id : Text}
    (h : ∀ a setting, given a = some (id, setting) ↔ found a = some setting) (l : List α) :
    (l.filterMap given).lookup id = l.findSome? found := by
  induction l with
  | nil => rfl
  | cons a rest ih =>
    rw [List.findSome?_cons, ← ih]
    cases hgiven : given a with
    | none =>
      have hfound : found a = none := by
        refine Option.eq_none_iff_forall_ne_some.mpr fun setting hfound => ?_
        exact absurd (((h a setting).mpr hfound).symm.trans hgiven) (by simp)
      rw [List.filterMap_cons_none hgiven, hfound]
    | some e =>
      rw [List.filterMap_cons_some hgiven, lookup_cons_eq_if]
      by_cases hid : id = e.1
      · subst hid
        rw [if_pos rfl, (h a e.2).mp hgiven]
      · have hfound : found a = none := by
          refine Option.eq_none_iff_forall_ne_some.mpr fun setting hfound => ?_
          have := ((h a setting).mpr hfound).symm.trans hgiven
          exact hid (congrArg Prod.fst (Option.some.inj this))
        rw [if_neg hid, hfound]

namespace Settings

/-- Does the file at a path have no documents to offer, because of a fault? -/
def IsUnusable [Limits] (read : FileReader) (path : Text) : Prop :=
  ∀ bytes documents, read path = .ok bytes → documentsOf bytes ≠ .ok documents

theorem unusable [Limits] {registry : Registry σ} {read : FileReader} {path : Text}
    (h : ¬Aborts registry read path) (hunusable : IsUnusable read path) :
    offersAt read path = [] ∧ ∃ d, toldAt registry read path = [d] := by
  rw [offersAt, toldAt]
  cases hread : read path with
  | error fault => cases fault <;> exact ⟨rfl, _, rfl⟩
  | ok bytes =>
    dsimp only
    cases hdocuments : documentsOf bytes with
    | ok documents => exact absurd hdocuments (hunusable bytes documents hread)
    | error stop =>
      cases stop with
      | abort abort => exact (h (.reading hread hdocuments)).elim
      | fault fault => exact ⟨rfl, _, rfl⟩

/-- The settings of a list of accepted ones: the last for each rule, in the order in which the rules
first came. -/
theorem ids_override_nil (given : List (Text × Setting)) :
    ids (override [] given) = (given.map (·.1)).eraseDups := by
  rw [ids_override]
  simp [ids]

theorem lookup_override_nil (given : List (Text × Setting)) (id : Text) :
    (override [] given).lookup id = given.reverse.lookup id := by
  rw [lookup_override]
  simp

/-- The last setting that an offer has for a rule is the one that counts. -/
theorem lookup_given [Limits] {registry : Registry σ} {rule : Rule σ}
    (h : registry.find? rule.id = some rule) (offers : List Offer) :
    (override [] (offers.filterMap (Offer.setting? registry))).lookup rule.id =
      offers.reverse.findSome? (Offer.reading? rule) := by
  rw [lookup_override_nil, ← List.filterMap_reverse]
  exact lookup_filterMap (fun o setting => Offer.setting?_eq_some_iff h) _

/-- **What files of settings come to**, if none of them ends the run. -/
theorem load_eq_of_not_aborts [Limits] (registry : Registry σ) (read : FileReader)
    (paths : List Text) (h : ∀ path ∈ paths, ¬Aborts registry read path) :
    ∃ settings : Settings,
      load registry read paths = ⟨paths.flatMap (toldAt registry read), .ok settings⟩ ∧
      (∀ rule, registry.find? rule.id = some rule →
        settings.lookup rule.id = (offers read paths).reverse.findSome? (Offer.reading? rule) ∧
        (settings.lookup rule.id = none ↔ ∀ o ∈ offers read paths, o.reading? rule = none)) ∧
      (∀ id, registry.find? id = none → settings.lookup id = none) ∧
      settings.ids =
        (((offers read paths).filterMap (Offer.setting? registry)).map (·.1)).eraseDups ∧
      (∀ o ∈ offers read paths,
        (o.complaint? registry = none ↔ (o.setting? registry).isSome = true)) ∧
      (∀ path ∈ paths, IsUnusable read path →
        offersAt read path = [] ∧ ∃ d, toldAt registry read path = [d]) ∧
      ∀ before after, paths = before ++ after → ∃ first second : Settings,
        load registry read before = ⟨before.flatMap (toldAt registry read), .ok first⟩ ∧
        load registry read after = ⟨after.flatMap (toldAt registry read), .ok second⟩ ∧
        settings.ids = first.ids ++ second.ids.filter (fun id => !first.ids.contains id) ∧
        ∀ id, settings.lookup id = (second.lookup id).or (first.lookup id) := by
  refine ⟨_, load_eq_override h, ?_, ?_, ids_override_nil _, ?_,
    fun path hpath => unusable (h path hpath), ?_⟩
  · intro rule hrule
    rw [lookup_given hrule]
    refine ⟨rfl, ?_⟩
    simp only [List.findSome?_eq_none_iff, List.mem_reverse]
  · intro id hid
    rw [lookup_override_nil, List.lookup_eq_none_iff]
    intro e he
    obtain ⟨o, -, hsetting⟩ := List.mem_filterMap.mp (List.mem_reverse.mp he)
    obtain ⟨rule, -, hfind, -⟩ := Offer.exists_of_setting? hsetting
    rw [bne_iff_ne]
    rintro rfl
    exact absurd (hid.symm.trans hfind) (by simp)
  · intro o ho
    obtain ⟨path, hpath, ho⟩ := List.mem_flatMap.mp ho
    exact Offer.complaint?_eq_none_iff (isTellable_of_mem_offersAt (h path hpath) o ho)
  · rintro before after rfl
    refine ⟨_, _, load_eq_override fun path hpath => h path (List.mem_append_left _ hpath),
      load_eq_override fun path hpath => h path (List.mem_append_right _ hpath), ?_, fun id => ?_⟩
    · rw [offers, List.flatMap_append, List.filterMap_append, override_append, ids_override,
        ids_override_nil (List.filterMap _ (offers read after))]
      rfl
    · rw [offers, List.flatMap_append, List.filterMap_append, override_append, lookup_override,
        lookup_override_nil (List.filterMap _ (offers read after))]
      rfl

/-- Two documents, of which the second is at fault. -/
def sampleFile : String :=
  "rules: \x7bno-two-way-binding: 1\x7d\n---\nrules: \x7bno-two-way-binding: 7\x7d"

/-- A document, and then one that does not end. -/
def brokenFile : String := "rules: \x7bno-two-way-binding: 0\x7d\n---\n["

def readSample : FileReader := fun path =>
  match ([("a.yaml", sampleFile), ("b.yaml", brokenFile)] : List (Text × String)).lookup path with
  | some text => .ok text.toUTF8.toList
  | none => .error .missing

def samplePaths : List Text := ["a.yaml", "b.yaml", "c.yaml"]

/-- The first document alone is accepted, and what is wrong is told, file after file. -/
theorem load_samplePaths :
    (∀ path ∈ samplePaths, ¬Aborts (.standard : Registry Unit) readSample path) ∧
      ∃ settings : Settings,
        (load (.standard : Registry Unit) readSample samplePaths).result = .ok settings ∧
        (settings.lookup (TwoWayBinding.rule (σ := Unit)).id).map (·.severity) = some .warning ∧
        (load (.standard : Registry Unit) readSample samplePaths).diagnostics.length = 3 := by
  have h : ∀ path ∈ samplePaths, ¬Aborts (.standard : Registry Unit) readSample path := by
    decide +kernel
  obtain ⟨settings, hload, hlookup, -⟩ := load_eq_of_not_aborts _ readSample samplePaths h
  refine ⟨h, settings, ?_, ?_, ?_⟩
  · rw [hload]
  · rw [(hlookup TwoWayBinding.rule rfl).1]
    decide +kernel
  · rw [hload]
    show (samplePaths.flatMap (toldAt (.standard : Registry Unit) readSample)).length = 3
    decide +kernel

/-! ## What ends the run -/

theorem fails_takeEntry_iff [Limits] {registry : Registry σ} {o : Offer} (settings : Settings) :
    Fails (takeEntry registry o.origin o.document settings o.entry).result ↔
      o.isTellable registry = false := by
  cases h : o.isTellable registry with
  | true =>
    rw [takeEntry_eq h]
    exact iff_of_false not_fails_ok (by simp)
  | false =>
    refine iff_of_true ?_ rfl
    rw [Offer.isTellable] at h
    rw [takeEntry]
    cases hrule : ruleOf? registry o.entry.1 with
    | none =>
      rw [hrule] at h
      cases hname : o.entry.1.display with
      | ok name => rw [hname] at h; exact absurd h (by simp [Except.toBool])
      | error fault => exact ⟨_, rfl⟩
    | some rule =>
      rw [hrule] at h
      dsimp only at h ⊢
      split at h
      · rename_i hfault
        rw [hfault]
        exact ⟨_, rfl⟩
      · exact absurd h (by simp)

theorem fails_takeDocuments_iff [Limits] {registry : Registry σ} {path : Text}
    {documents : List Document} (settings : Settings) :
    Fails (takeDocuments registry path settings documents).result ↔
      ∃ o ∈ offersOf path documents, o.isTellable registry = false := by
  have hdocument (e : Document × Nat) (settings : Settings) :
      Fails (takeDocument registry (Diagnostic.origin path e.2) settings e.1).result ↔
        ∃ o ∈ offersIn (Diagnostic.origin path e.2) e.1, o.isTellable registry = false := by
    rw [takeDocument, Run.fails_foldlM_iff fun entry _ settings =>
      fails_takeEntry_iff (o := ⟨Diagnostic.origin path e.2, e.1, entry⟩) settings]
    simp only [offersIn, List.mem_map, exists_exists_and_eq_and]
  rw [takeDocuments, Run.fails_foldlM_iff fun e _ settings => hdocument e settings]
  simp only [offersOf, List.mem_flatMap]
  constructor
  · rintro ⟨e, he, o, ho, htell⟩
    exact ⟨o, ⟨e, he, ho⟩, htell⟩
  · rintro ⟨o, ⟨e, he, ho⟩, htell⟩
    exact ⟨e, he, o, ho, htell⟩

theorem fails_takeFile_iff [Limits] {registry : Registry σ} {read : FileReader} {path : Text}
    (settings : Settings) :
    Fails (takeFile registry read settings path).result ↔ Aborts registry read path := by
  by_cases h : Aborts registry read path
  · refine iff_of_true ?_ h
    rw [takeFile]
    cases h with
    | badPath hread =>
      rw [hread]
      exact ⟨_, rfl⟩
    | reading hread hdocuments =>
      rw [hread]
      dsimp only
      rw [hdocuments]
      exact ⟨_, rfl⟩
    | telling hread hdocuments ho htell =>
      rw [hread]
      dsimp only
      rw [hdocuments]
      exact (fails_takeDocuments_iff settings).mpr ⟨_, ho, htell⟩
  · rw [takeFile_eq h]
    exact iff_of_false not_fails_ok h

/-- The run ends if and only if one of the files ends it. -/
theorem fails_load_iff [Limits] {registry : Registry σ} {read : FileReader} {paths : List Text} :
    Fails (load registry read paths).result ↔ ∃ path ∈ paths, Aborts registry read path := by
  refine Run.fails_foldlM_iff ?_ []
  exact fun path _ settings => fails_takeFile_iff settings

/-- All settings that files give have been accepted. -/
theorem areAccepted_of_load [Limits] {registry : Registry σ}
    (hids : ∀ rule ∈ registry, registry.find? rule.id = some rule) {read : FileReader}
    {paths : List Text} {settings : Settings}
    (h : (load registry read paths).result = .ok settings) : settings.AreAccepted registry := by
  have hgoes : ∀ path ∈ paths, ¬Aborts registry read path := by
    intro path hpath haborts
    obtain ⟨abort, hfails⟩ := fails_load_iff.mpr ⟨path, hpath, haborts⟩
    exact absurd (hfails.symm.trans h) (by simp)
  rw [load_eq_override hgoes] at h
  obtain rfl := Except.ok.inj h
  intro rule hrule setting hlookup
  rw [lookup_given (hids rule hrule)] at hlookup
  obtain ⟨o, -, hreading⟩ := List.exists_of_findSome?_eq_some hlookup
  rw [Offer.reading?] at hreading
  split at hreading
  · refine ⟨o.document, o.entry.2, ?_⟩
    cases hsetting : Setting.ofDatum o.document rule o.entry.2 with
    | error fault => rw [hsetting] at hreading; exact absurd hreading (by simp [Except.toOption])
    | ok setting' =>
      rw [hsetting] at hreading
      exact congrArg _ (Option.some.inj hreading)
  · exact absurd hreading (by simp)

end Settings

end AngularLint
