import AngularLint.Json.Reader
import AngularLint.Json.Writer

/-!
# What has been read can be written

An integer can be written if it has a numeral of at most `Text.maxDecimalDigits` digits. The reader
takes no longer numeral than that, so it reads no integer that is too large to be written, at any
depth (`isWritable_of_parse`).

The reader keeps what it has read in three places: with the containers that stand open, with the
entries of the object whose next key it expects, and as the value behind which it stands. That all
of it can be written is `Place.IsWritable`; a step keeps it, and so does a run.
-/

set_option autoImplicit false

namespace AngularLint

/-- A numeral is less than a one with as many zeros behind it as it has digits. -/
theorem Text.valueOf_lt_pow {base : Nat} {digits : List Nat} (h : ∀ d ∈ digits, d < base) :
    valueOf base digits < Nat.pow base digits.length := by
  -- Digits that come behind others: each makes room for itself.
  have hfold (n bound : Nat) (hn : n < bound) :
      digits.foldl (fun n d => n * base + d) n < bound * base ^ digits.length := by
    induction digits generalizing n bound with
    | nil => simpa using hn
    | cons d rest ih =>
      have hd : d < base := h d List.mem_cons_self
      have hstep : n * base + d < bound * base := by
        calc n * base + d < n * base + base := by omega
          _ = (n + 1) * base := by rw [Nat.add_mul, Nat.one_mul]
          _ ≤ bound * base := Nat.mul_le_mul_right base hn
      have hrest := ih (fun d' hd' => h d' (List.mem_cons_of_mem _ hd')) (n * base + d) _ hstep
      rwa [Nat.mul_assoc, ← Nat.pow_succ'] at hrest
  have hall := hfold 0 1 Nat.one_pos
  rwa [Nat.one_mul] at hall

namespace Json

/-! ## Values that can be written -/

theorem isWritable_int {n : Int} :
    (int n).isWritable = true ↔ n.natAbs < Nat.pow 10 Text.maxDecimalDigits := by
  rw [isWritable, Text.writeInteger]
  by_cases h : n.natAbs < Nat.pow 10 Text.maxDecimalDigits
  · rw [if_pos h]
    exact iff_of_true rfl h
  · rw [if_neg h]
    exact iff_of_false (by simp [Except.isOk, Except.toBool]) h

theorem areWritable_iff {items : List Json} :
    areWritable items = true ↔ ∀ v ∈ items, v.isWritable = true := by
  induction items with
  | nil => exact iff_of_true rfl (by simp)
  | cons v rest ih => rw [areWritable, Bool.and_eq_true, ih, List.forall_mem_cons]

theorem entriesAreWritable_iff {entries : List (Text × Json)} :
    entriesAreWritable entries = true ↔ ∀ e ∈ entries, e.2.isWritable = true := by
  induction entries with
  | nil => exact iff_of_true rfl (by simp)
  | cons e rest ih =>
    obtain ⟨key, value⟩ := e
    rw [entriesAreWritable, Bool.and_eq_true, ih, List.forall_mem_cons]

theorem isWritable_arr {items : List Json} :
    (arr items).isWritable = true ↔ ∀ v ∈ items, v.isWritable = true := by
  rw [isWritable, areWritable_iff]

theorem isWritable_obj {entries : List (Text × Json)} :
    (obj entries).isWritable = true ↔ ∀ e ∈ entries, e.2.isWritable = true := by
  rw [isWritable, entriesAreWritable_iff]

/-! ## Scalars -/

theorem isWritable_of_scanWord {s rest : List Char} {v : Json} (h : scanWord s = some (v, rest)) :
    v.isWritable = true := by
  obtain ⟨w, hw, hv⟩ := Option.map_eq_some_iff.mp h
  obtain ⟨rfl, -⟩ := Prod.mk.inj hv
  have hmem := List.mem_of_find?_eq_some hw
  simp only [words, List.mem_cons, List.not_mem_nil, or_false] at hmem
  rcases hmem with rfl | rfl | rfl | rfl | rfl | rfl
  all_goals rfl

theorem isDigit_of_scanWhole {s digits rest : List Char} (h : scanWhole s = some (digits, rest)) :
    ∀ c ∈ digits, c.isDigit = true := by
  unfold scanWhole at h
  split at h
  · obtain ⟨rfl, -⟩ := Prod.mk.inj (Option.some.inj h)
    simp
  · split at h
    · exact absurd h (by simp)
    · rename_i hspan
      obtain ⟨rfl, -⟩ := Prod.mk.inj (Option.some.inj h)
      obtain ⟨rfl, -⟩ := Prod.mk.inj hspan
      exact fun c hc => List.all_eq_true.mp List.all_takeWhile c hc

theorem valueOf_digitValues_lt {digits : List Char} (h : ∀ c ∈ digits, c.isDigit = true)
    {most : Nat} (hlength : digits.length ≤ most) :
    Text.valueOf 10 (digitValues digits) < Nat.pow 10 most := by
  have hvalues : ∀ d ∈ digitValues digits, d < 10 := by
    intro d hd
    obtain ⟨c, hc, rfl⟩ := List.mem_map.mp hd
    have hdigit := h c hc
    rw [Char.isDigit_iff_toNat, show '0'.toNat = 48 from rfl,
      show '9'.toNat = 57 from rfl] at hdigit
    omega
  have hlt := Text.valueOf_lt_pow hvalues
  rw [digitValues, List.length_map] at hlt
  exact Nat.lt_of_lt_of_le hlt (Nat.pow_le_pow_right (by decide) hlength)

theorem isWritable_of_scanNumber {s rest : List Char} {v : Json}
    (h : scanNumber s = some (.ok v, rest)) : v.isWritable = true := by
  unfold scanNumber at h
  dsimp only at h
  split at h
  · exact absurd h (by simp)
  · rename_i whole _ hwhole
    split at h
    · split at h
      · exact absurd h (by simp)
      · rename_i hlength
        obtain ⟨hv, -⟩ := Prod.mk.inj (Option.some.inj h)
        rw [← Except.ok.inj hv, isWritable_int]
        have habs (n : Nat) : (if (splitMinus s).1 = true then -(n : Int) else n).natAbs = n := by
          split <;> simp
        rw [habs]
        exact valueOf_digitValues_lt (isDigit_of_scanWhole hwhole) (Nat.not_lt.mp hlength)
    · obtain ⟨hv, -⟩ := Prod.mk.inj (Option.some.inj h)
      rw [← Except.ok.inj hv]
      rfl

theorem isWritable_of_readScalar {s rest : List Char} {v : Json}
    (h : readScalar s = .ok (v, rest)) : v.isWritable = true := by
  unfold readScalar at h
  split at h
  · rename_i behind
    cases hstring : readString behind with
    | error stop =>
      rw [hstring] at h
      exact absurd h (by simp [Except.map])
    | ok found =>
      rw [hstring] at h
      obtain ⟨rfl, -⟩ := Prod.mk.inj (Except.ok.inj h)
      rfl
  · split at h
    · rename_i hword
      obtain rfl := Except.ok.inj h
      exact isWritable_of_scanWord hword
    · split at h
      · rename_i hnumber
        obtain ⟨rfl, -⟩ := Prod.mk.inj (Except.ok.inj h)
        exact isWritable_of_scanNumber hnumber
      · exact absurd h (by simp)
      · exact absurd h (by simp)

/-! ## The reader -/

def Open.IsWritable : Open → Prop
  | array items => ∀ v ∈ items, v.isWritable = true
  | object entries _ => ∀ e ∈ entries, e.2.isWritable = true

def Expect.IsWritable : Expect → Prop
  | key entries => ∀ e ∈ entries, e.2.isWritable = true
  | colon entries _ => ∀ e ∈ entries, e.2.isWritable = true
  | after v => v.isWritable = true
  | _ => True

/-- Can all be written that has been read before the place? -/
structure Place.IsWritable (p : Place) : Prop where
  opened : ∀ o ∈ p.opened, o.IsWritable
  expect : p.expect.IsWritable

def Progress.IsWritable : Progress → Prop
  | on place => place.IsWritable
  | done value _ => value.isWritable = true

theorem isWritable_of_mem_insert {key : Text} {value : Json} {entries : List (Text × Json)}
    (hvalue : value.isWritable = true) (h : ∀ e ∈ entries, e.2.isWritable = true) :
    ∀ e ∈ insert key value entries, e.2.isWritable = true := by
  induction entries with
  | nil => simpa [insert] using hvalue
  | cons first rest ih =>
    obtain ⟨hfirst, hrest⟩ := List.forall_mem_cons.mp h
    rw [insert]
    split
    · exact List.forall_mem_cons.mpr ⟨hvalue, hrest⟩
    · exact List.forall_mem_cons.mpr ⟨hfirst, ih hrest⟩

theorem isWritable_closeObject {entries : List (Text × Json)}
    (h : ∀ e ∈ entries, e.2.isWritable = true) : (closeObject entries).isWritable = true := by
  have hfold (l done : List (Text × Json)) (hl : ∀ e ∈ l, e.2.isWritable = true)
      (hdone : ∀ e ∈ done, e.2.isWritable = true) :
      ∀ e ∈ l.foldl (fun done e => insert e.1 e.2 done) done, e.2.isWritable = true := by
    induction l generalizing done with
    | nil => exact hdone
    | cons e rest ih =>
      obtain ⟨he, hrest⟩ := List.forall_mem_cons.mp hl
      exact ih _ hrest (isWritable_of_mem_insert he hdone)
  rw [closeObject, isWritable_obj]
  exact hfold _ [] (fun e he => h e (List.mem_reverse.mp he)) (by simp)

theorem isWritable_of_beginValue {depth : Nat} {opened : List Open} {s : List Char}
    {progress : Progress} (hopened : ∀ o ∈ opened, o.IsWritable)
    (h : beginValue depth opened s = .ok progress) : progress.IsWritable := by
  unfold beginValue at h
  split at h
  · exact absurd h (by simp)
  · exact absurd h (by simp)
  · obtain rfl := Except.ok.inj h
    exact ⟨List.forall_mem_cons.mpr ⟨by simp [Open.IsWritable], hopened⟩, trivial⟩
  · obtain rfl := Except.ok.inj h
    exact ⟨hopened, trivial⟩
  · cases hscalar : readScalar s with
    | error stop =>
      rw [hscalar] at h
      exact absurd h (by simp [Except.map])
    | ok found =>
      rw [hscalar] at h
      obtain rfl := Except.ok.inj h
      exact ⟨hopened, isWritable_of_readScalar hscalar⟩

theorem isWritable_of_beginEntry {depth : Nat} {opened : List Open} {entries : List (Text × Json)}
    {s : List Char} {progress : Progress} (hopened : ∀ o ∈ opened, o.IsWritable)
    (hentries : ∀ e ∈ entries, e.2.isWritable = true)
    (h : beginEntry depth opened entries s = .ok progress) : progress.IsWritable := by
  unfold beginEntry at h
  split at h
  · rename_i behind
    cases hstring : readString behind with
    | error stop =>
      rw [hstring] at h
      exact absurd h (by simp [Except.map])
    | ok found =>
      rw [hstring] at h
      obtain rfl := Except.ok.inj h
      exact ⟨hopened, hentries⟩
  · exact absurd h (by simp)

theorem isWritable_of_endValue {depth : Nat} {opened : List Open} {value : Json} {s : List Char}
    {progress : Progress} (hopened : ∀ o ∈ opened, o.IsWritable)
    (hvalue : value.isWritable = true) (h : endValue depth opened value s = .ok progress) :
    progress.IsWritable := by
  unfold endValue at h
  split at h
  · obtain rfl := Except.ok.inj h
    exact hvalue
  · rename_i items outer
    obtain ⟨hinner, houter⟩ := List.forall_mem_cons.mp hopened
    have hitems : ∀ v ∈ value :: items, v.isWritable = true :=
      List.forall_mem_cons.mpr ⟨hvalue, hinner⟩
    split at h
    · obtain rfl := Except.ok.inj h
      exact ⟨List.forall_mem_cons.mpr ⟨hitems, houter⟩, trivial⟩
    · obtain rfl := Except.ok.inj h
      exact ⟨houter, isWritable_arr.mpr fun v hv => hitems v (List.mem_reverse.mp hv)⟩
    · exact absurd h (by simp)
  · rename_i entries key outer
    obtain ⟨hinner, houter⟩ := List.forall_mem_cons.mp hopened
    have hentries : ∀ e ∈ (key, value) :: entries, e.2.isWritable = true :=
      List.forall_mem_cons.mpr ⟨hvalue, hinner⟩
    split at h
    · obtain rfl := Except.ok.inj h
      exact ⟨houter, hentries⟩
    · obtain rfl := Except.ok.inj h
      exact ⟨houter, isWritable_closeObject hentries⟩
    · exact absurd h (by simp)

/-- A step adds nothing that cannot be written. -/
theorem Place.isWritable_of_step {p : Place} {progress : Progress} (hp : p.IsWritable)
    (h : p.step = .ok progress) : progress.IsWritable := by
  obtain ⟨depth, opened, expect, rest⟩ := p
  obtain ⟨hopened, hexpect⟩ := hp
  unfold step at h
  cases expect with
  | value => exact isWritable_of_beginValue hopened h
  | firstItem =>
    dsimp only at h
    split at h
    · obtain rfl := Except.ok.inj h
      exact ⟨fun o ho => hopened o (List.mem_of_mem_drop ho), isWritable_arr.mpr (by simp)⟩
    · exact isWritable_of_beginValue hopened h
  | firstKey =>
    dsimp only at h
    split at h
    · obtain rfl := Except.ok.inj h
      exact ⟨hopened, isWritable_obj.mpr (by simp)⟩
    · exact isWritable_of_beginEntry hopened (by simp) h
  | key entries => exact isWritable_of_beginEntry hopened hexpect h
  | colon entries key =>
    dsimp only at h
    split at h
    · obtain rfl := Except.ok.inj h
      exact ⟨List.forall_mem_cons.mpr ⟨hexpect, hopened⟩, trivial⟩
    · exact absurd h (by simp)
  | after value => exact isWritable_of_endValue hopened hexpect h

theorem Place.isWritable_of_run {p : Place} {v : Json} {rest : List Char} (hp : p.IsWritable)
    (h : p.run = .ok (v, rest)) : v.isWritable = true := by
  induction p using Place.run.induct with
  | case1 p stop hstep =>
    rw [run, hstep] at h
    exact absurd h (by simp)
  | case2 p value behind hstep =>
    rw [run, hstep] at h
    obtain ⟨rfl, -⟩ := Prod.mk.inj (Except.ok.inj h)
    exact isWritable_of_step hp hstep
  | case3 p q hstep ih =>
    rw [run, hstep] at h
    exact ih (isWritable_of_step hp hstep) h

/-- **What has been read can be written.** -/
theorem isWritable_of_parse {depth : Nat} {text : List Char} {v : Json}
    (h : parse depth text = .ok v) : v.isWritable = true := by
  have hstart : (⟨depth, [], .value, skipGap text⟩ : Place).IsWritable := ⟨by simp, trivial⟩
  rw [parse] at h
  dsimp only at h
  split at h
  · exact absurd h (by simp)
  · split at h
    · exact absurd h (by simp)
    · exact absurd h (by simp)
    · rename_i hrun
      split at h
      · obtain rfl := Except.ok.inj h
        exact Place.isWritable_of_run hstart hrun
      · exact absurd h (by simp)

end Json

end AngularLint
