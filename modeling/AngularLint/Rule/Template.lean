import AngularLint.Text.Blank
import AngularLint.Tree.Shown

/-!
# Message templates

A template is text with slots in it. A slot is a stretch without braces between two opening and two
closing ones; it names the value that takes its place. `segments` splits a template, `fill` puts the
values in. What has been put in is never split again, so a value may hold braces of its own.
-/

set_option autoImplicit false

namespace AngularLint.Template

/-- A piece of a template. -/
inductive Segment where
  | point (c : CodePoint)
  | slot (content : List CodePoint)

def isContent (c : CodePoint) : Bool := c != .char '{' && c != .char '}'

def afterClosing? : List CodePoint → Option (List CodePoint)
  | .char '}' :: .char '}' :: rest => some rest
  | _ => none

/-- The content of the slot at the start of a text, and the text behind the slot. -/
def slot? : List CodePoint → Option (List CodePoint × List CodePoint)
  | .char '{' :: .char '{' :: rest =>
    if (rest.takeWhile isContent).isEmpty then none
    else (afterClosing? (rest.dropWhile isContent)).map fun after =>
      (rest.takeWhile isContent, after)
  | _ => none

theorem length_dropWhile_le (p : CodePoint → Bool) (s : List CodePoint) :
    (s.dropWhile p).length ≤ s.length :=
  (List.dropWhile_suffix p).length_le

theorem length_of_afterClosing? {s rest : List CodePoint} (h : afterClosing? s = some rest) :
    s.length = rest.length + 2 := by
  unfold afterClosing? at h
  split at h
  · simp at h; subst h; simp
  · simp at h

theorem length_lt_of_slot? {s content rest : List CodePoint} (h : slot? s = some (content, rest)) :
    rest.length < s.length := by
  unfold slot? at h
  split at h
  · rename_i inside
    split at h
    · simp at h
    · obtain ⟨after, ha, he⟩ := Option.map_eq_some_iff.1 h
      have h₁ := length_of_afterClosing? ha
      have h₂ := length_dropWhile_le isContent inside
      simp only [Prod.mk.injEq] at he
      obtain ⟨-, rfl⟩ := he
      simp
      omega
  · simp at h

/-- The pieces of a template, from left to right. -/
def segments (s : List CodePoint) : List Segment :=
  match _h : slot? s with
  | some (content, rest) => .slot content :: segments rest
  | none =>
    match s with
    | [] => []
    | c :: rest => .point c :: segments rest
termination_by s.length
decreasing_by
  · exact length_lt_of_slot? _h
  · simp

/-- The name in a slot: its content without the white space around it. Content that is white space
throughout names its last code point. -/
def slotName (content : List CodePoint) : Text :=
  match Text.trim (CodePoint.isChar Text.isBlank) content with
  | [] => ⟨content.drop (content.length - 1)⟩
  | name => ⟨name⟩

/-- What takes the place of a slot: the value by itself, and nothing for an absent one. -/
def replacement (data : List (Text × Value)) (name : Text) : Text :=
  match (data.lookup name).bind Value.present? with
  | some v => v.display
  | none => ""

def Segment.fill (data : List (Text × Value)) : Segment → Text
  | point c => ⟨[c]⟩
  | slot content => replacement data (slotName content)

def fill (template : Text) (data : List (Text × Value)) : Text :=
  Text.join ((segments template.points).map (·.fill data))

end AngularLint.Template
