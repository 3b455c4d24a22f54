import Mathlib.Data.String.Basic
import Stencil.Proofs.Escaping

/-!
# Reading a text from left to right

A `Scan` takes something off the front of a text, and hands over what is left. `Scan.Takes` says
that it takes a certain text, whatever follows it; this is kept by joining scans, so what a reader
takes is put together from the marks it looks for and the texts between them. A text between two
marks is safe as long as it cannot hold the first character of the mark behind it, which is what
escaping provides (`Html.not_mem_escape`).
-/

namespace Stencil

/-- Takes something off the front of a text, if it is there. -/
abbrev Scan (α : Type) := StateT (List Char) Option α

namespace Scan

variable {α β : Type}

/-- Takes a mark that has to stand in front. -/
def expect (mark : String) : Scan Unit :=
  fun chars => (chars.dropPrefix? mark.toList).map fun rest => ((), rest)

/-- Takes the text before the next occurrence of a mark, and the mark. -/
def through (mark : String) : Scan String :=
  fun chars => (chars.dropInfix? mark.toList).map fun split => (String.ofList split.1, split.2)

/-- Takes one part after the other until nothing is left; every part has to be something. -/
def toEnd (part : Scan α) : List Char → Option (List α)
  | [] => some []
  | first :: others =>
      match part (first :: others) with
      | none => none
      | some (value, rest) =>
          if rest.length < (first :: others).length then (part.toEnd rest).map (value :: ·)
          else none
termination_by chars => chars.length
decreasing_by assumption

/-- A scan takes a text off the front, whatever follows the text, and gives a value for it. -/
def Takes (scan : Scan α) (text : String) (value : α) : Prop :=
  ∀ rest, scan (text.toList ++ rest) = some (value, rest)

namespace Takes

theorem pure (value : α) : Takes (Pure.pure value) "" value :=
  fun _ => rfl

theorem congr {scan : Scan α} {text other : String} {value : α} (takes : Takes scan text value)
    (same : text = other) : Takes scan other value :=
  same ▸ takes

theorem bind {scan : Scan α} {next : α → Scan β} {left right : String} {value : α} {last : β}
    (first : Takes scan left value) (second : Takes (next value) right last) :
    Takes (scan >>= next) (left ++ right) last := by
  intro rest
  rw [String.toList_append, List.append_assoc]
  change (scan (left.toList ++ (right.toList ++ rest))).bind (fun taken => next taken.1 taken.2) = _
  rw [first]
  exact second rest

theorem expect (mark : String) : Takes (Scan.expect mark) mark () := by
  intro rest
  rw [Scan.expect, List.dropPrefix?_append_of_beq rest BEq.rfl]
  rfl

theorem orElse {first second : Scan α} {text : String} {value : α}
    (takes : Takes first text value) : Takes (first <|> second) text value := by
  intro rest
  change (first (text.toList ++ rest) <|> second (text.toList ++ rest)) = _
  rw [takes]
  rfl

theorem orElse_of_none {first second : Scan α} {text : String} {value : α}
    (refused : ∀ rest, first (text.toList ++ rest) = none) (takes : Takes second text value) :
    Takes (first <|> second) text value := by
  intro rest
  change (first (text.toList ++ rest) <|> second (text.toList ++ rest)) = _
  rw [refused, takes]
  rfl

/-- A text ends at a mark if it does not hold the first character of the mark. -/
theorem through {mark text : String} {first : Char} {others : List Char}
    (spelled : mark.toList = first :: others) (absent : first ∉ text.toList) :
    Takes (Scan.through mark) (text ++ mark) text := by
  intro rest
  have found : (text.toList ++ mark.toList ++ rest).dropInfix? mark.toList =
      some (text.toList, rest) := by
    rw [List.dropInfix?_eq_some_iff]
    refine ⟨⟨mark.toList, rfl, BEq.rfl⟩, fun front middle back split same => ?_⟩
    -- An earlier mark would begin inside of the text.
    rw [eq_of_beq same, spelled] at split
    by_contra earlier
    have inside : front.length < text.toList.length := by omega
    have begins : (front ++ first :: others ++ back)[front.length]? = some first := by simp
    rw [← split, List.append_assoc, List.getElem?_append_left inside] at begins
    exact absent (List.mem_of_getElem? begins)
  rw [Scan.through, String.toList_append, found, Option.map_some, String.ofList_toList]

/-- Reading to the end begins with the part that stands in front. -/
theorem toEnd_append {part : Scan α} {text : String} {value : α} (takes : Takes part text value)
    (nonempty : text ≠ "") (rest : String) :
    part.toEnd (text ++ rest).toList = (part.toEnd rest.toList).map (value :: ·) := by
  have taken := takes rest.toList
  rw [String.toList_append]
  match spelled : text.toList with
  | [] => exact absurd (String.toList_eq_nil_iff.mp spelled) nonempty
  | first :: others =>
      rw [spelled] at taken
      have shorter : rest.toList.length < (first :: (others ++ rest.toList)).length := by
        simp only [List.length_cons, List.length_append]
        omega
      rw [List.cons_append] at taken ⊢
      rw [toEnd, taken]
      exact if_pos shorter

end Takes

@[simp]
theorem toEnd_nil (part : Scan α) : part.toEnd [] = some [] := by
  rw [toEnd]

end Scan

/-- An escaped text has none of the characters that delimit tags and values. -/
theorem Html.not_mem_escape {char : Char} (delimits : char ∈ ['<', '>', '\'', '"'])
    (text : String) : char ∉ (escape text).toList := by
  rw [toList_escape]
  exact (IsEscaped.flatMap_escapeChar text.toList).plain char delimits

end Stencil
