import TestImpact.Text.Lines
import TestImpact.Text.Letter

/-
  Styled text, of which only the text is shown.

  A tag stands in brackets and begins with a small letter, a number sign, a
  slash or an at sign. It is not shown. A tag with a slash closes the last open
  tag of its name, or the last one of all if it has no name; one that has
  nothing to close is a fault. A backslash before a bracket takes its meaning
  away, and two backslashes there stand for one.
-/

namespace TestImpact.Display

/-- A closing tag with nothing to close, and its place in the text. -/
structure MarkupFault where
  name : Option String
  position : Nat
  deriving DecidableEq, Repr

def MarkupFault.message (f : MarkupFault) : String :=
  match f.name with
  | some name => s!"closing tag '[/{name}]' at position {f.position} doesn't match any open tag"
  | none => s!"closing tag '[/]' at position {f.position} has nothing to close"

/-- Whether a tag may begin with a character. -/
def beginsTag (c : Char) : Bool := c.isLower || c == '#' || c == '/' || c == '@'

/-- The tag that follows an opening bracket, and what follows it. -/
def tagAfter? : List Char → Option (List Char × List Char)
  | [] => none
  | c :: cs =>
    if beginsTag c then
      let within := cs.takeWhile fun d => d ≠ ']' ∧ d ≠ '['
      match cs.drop within.length with
      | ']' :: rest => some (c :: within, rest)
      | _ => none
    else none

/-- The name of a tag: without its parameters, in small letters. -/
def tagName (tag : List Char) : List Char :=
  (Text.trim (tag.takeWhile (· ≠ '='))).map Char.toLower

/-- The open tags without the last one of a name. -/
def closeTag? (name : List Char) : List (List Char) → Option (List (List Char))
  | [] => none
  | opened :: more => if opened = name then some more else (closeTag? name more).map (opened :: ·)

/-- The open tags after one more tag at a place. -/
def applyTag (opened : List (List Char)) (tag : List Char) (position : Nat) :
    Except MarkupFault (List (List Char)) :=
  match tag with
  | '/' :: cs =>
    let name := tagName cs
    if name.isEmpty then
      match opened with
      | _ :: more => .ok more
      | [] => .error ⟨none, position⟩
    else match closeTag? name opened with
      | some more => .ok more
      | none => .error ⟨some (String.ofList cs), position⟩
  | cs => .ok (tagName cs :: opened)

/-- The text without its tags, from a place on. `slashes` counts the backslashes right before
that place. -/
def withoutTags (opened : List (List Char)) (position slashes : Nat) (cs : List Char) :
    Except MarkupFault (List Char) :=
  match cs with
  | [] => .ok (List.replicate slashes '\\')
  | '\\' :: rest => withoutTags opened (position + 1) (slashes + 1) rest
  | '[' :: rest =>
    match tagAfter? rest with
    | some (tag, _) =>
      let next := position + tag.length + 2
      if slashes % 2 = 1 then do
        let shown ← withoutTags opened next 0 (rest.drop (tag.length + 1))
        return List.replicate (slashes / 2) '\\' ++ ('[' :: tag ++ ']' :: shown)
      else do
        let opened ← applyTag opened tag position
        let shown ← withoutTags opened next 0 (rest.drop (tag.length + 1))
        return List.replicate (slashes / 2) '\\' ++ shown
    | none => do
      let shown ← withoutTags opened (position + 1) 0 rest
      let before := if slashes = 0 then slashes else slashes - 1
      return List.replicate before '\\' ++ '[' :: shown
  | c :: rest => do
    let shown ← withoutTags opened (position + 1) 0 rest
    return List.replicate slashes '\\' ++ c :: shown
  termination_by cs.length
  decreasing_by all_goals (simp_wf; try omega)

/-- Whether a character is never shown. -/
def isHidden (c : Char) : Bool := [7, 8, 11, 12, 13].contains c.toNat

def shownText (s : String) : Except MarkupFault (List Char) :=
  (withoutTags [] 0 0 s.toList).map fun cs => cs.filter fun c => !isHidden c

end TestImpact.Display
