import AngularLint.CommandLine.Arguments
import AngularLint.Proofs.Except

/-!
# The words of a command line, told apart

What a word is has been settled before any word is consumed, and for each word by itself. So the
words of texts in a row are those of one text behind those of another (`words_cons`,
`words_append_of_isPlain`). A text that begins with no hyphen is an operand to every command
(`classify_of_isPlain`), and behind two hyphens everything is.

To be told apart takes nothing from a word (**`map_text_of_words`**).
-/

set_option autoImplicit false

namespace AngularLint.CommandLine

/-- Does the text begin with something else than a hyphen? The empty text does. -/
def IsPlain (text : Text) : Prop := text.points.head? ≠ some hyphen

instance (text : Text) : Decidable (IsPlain text) := inferInstanceAs (Decidable (_ ≠ _))

theorem IsPlain.ne_terminatorText {text : Text} (h : IsPlain text) :
    text ≠ Word.terminatorText := by
  rintro rfl
  exact h rfl

namespace Word

theorem map_text_map_operand (texts : List Text) : (texts.map operand).map text = texts := by
  rw [List.map_map]
  exact List.map_id _

theorem isSwitch_of_mem_map_operand {texts : List Text} {w : Word} (h : w ∈ texts.map operand) :
    w.isSwitch = false := by
  obtain ⟨text, -, rfl⟩ := List.mem_map.mp h
  rfl

end Word

namespace Command

variable {c : Command}

theorem classify_of_isPlain {text : Text} (h : IsPlain text) :
    c.classify text = .ok (.operand text) := by
  rw [classify, if_pos (bne_iff_ne.mpr h)]

theorem words_cons {text : Text} {word : Word} (hgoes : text ≠ Word.terminatorText)
    (h : c.classify text = .ok word) (rest : List Text) :
    c.words (text :: rest) = (c.words rest).map (word :: ·) := by
  rw [words, if_neg (by simpa using hgoes), h]
  cases c.words rest with
  | error fault => rfl
  | ok ws => rfl

theorem words_append_of_isPlain {texts : List Text} (h : ∀ text ∈ texts, IsPlain text)
    (rest : List Text) :
    c.words (texts ++ rest) = (c.words rest).map (texts.map .operand ++ ·) := by
  induction texts with
  | nil =>
    rw [List.nil_append]
    cases c.words rest with
    | error fault => rfl
    | ok ws => rfl
  | cons text texts ih =>
    have hplain := h text List.mem_cons_self
    rw [List.cons_append, words_cons hplain.ne_terminatorText (classify_of_isPlain hplain),
      ih fun text' htext' => h text' (List.mem_cons_of_mem _ htext')]
    cases c.words rest with
    | error fault => rfl
    | ok ws => rfl

theorem words_terminator (behind : List Text) :
    c.words (Word.terminatorText :: behind) = .ok (.terminator :: behind.map .operand) := by
  rw [words, if_pos (by simp)]
  rfl

/-! ## A word keeps its text -/

theorem text_of_unnamed {text : Text} {word : Word} (h : c.unnamed text = .ok word) :
    word.text = text := by
  unfold unnamed at h
  -- A word that is no switch keeps its text whether it is taken for an operand or not.
  have hotherwise {b : Bool} : Word.text (if b then .operand text else .unknown text) = text := by
    cases b with
    | true => rfl
    | false => rfl
  dsimp only at h
  split at h
  · split at h
    · rw [← Except.ok.inj h]
      exact hotherwise
    · rw [← Except.ok.inj h]
      rfl
    · exact absurd h (by simp)
  · split at h
    · rw [← Except.ok.inj h]
      rfl
    · rw [← Except.ok.inj h]
      exact hotherwise

theorem text_of_classify {text : Text} {word : Word} (h : c.classify text = .ok word) :
    word.text = text := by
  unfold classify at h
  split at h
  · rw [← Except.ok.inj h]
    rfl
  · split at h
    · rw [← Except.ok.inj h]
      rfl
    · split at h
      · rw [← Except.ok.inj h]
        rfl
      · split at h
        · split at h
          · rw [← Except.ok.inj h]
            rfl
          · exact text_of_unnamed h
        · exact text_of_unnamed h

/-- **Nothing is lost when words are told apart.** -/
theorem map_text_of_words {texts : List Text} {ws : List Word} (h : c.words texts = .ok ws) :
    ws.map Word.text = texts := by
  induction texts generalizing ws with
  | nil =>
    rw [← Except.ok.inj h]
    rfl
  | cons text rest ih =>
    by_cases hends : text = Word.terminatorText
    · rw [hends, words_terminator] at h
      rw [← Except.ok.inj h, hends, List.map_cons, Word.map_text_map_operand]
      rfl
    · rw [words, if_neg (by simpa using hends)] at h
      obtain ⟨word, hword, h⟩ := bind_eq_ok.mp h
      obtain ⟨later, hlater, h⟩ := bind_eq_ok.mp h
      rw [← Except.ok.inj h, List.map_cons, text_of_classify hword, ih hlater]

end Command

end AngularLint.CommandLine
